import StreamVerdict.Unicode.CharacterClass

/-!
# Quoted text

How diagnostics show a text: in double quotes, with every character that a reader could not see
or tell apart written by its code.
-/

namespace StreamVerdict.Text

/-- The digits of a number in base 16, in lower case. -/
def hexDigits (n : Nat) : List Char :=
  Nat.toDigits 16 n

/-- One character inside double quotes. -/
def quotedChar (c : Char) : List Char :=
  match c with
  | '\x00' => ['\\', '0']
  | '\t' => ['\\', 't']
  | '\r' => ['\\', 'r']
  | '\n' => ['\\', 'n']
  | '"' => ['\\', '"']
  | '\\' => ['\\', '\\']
  | _ =>
    if Unicode.graphemeExtend.contains c || Unicode.unprintable.contains c then
      "\\u\x7b".toList ++ hexDigits c.toNat ++ ['\x7d']
    else
      [c]

/-- A text in double quotes. -/
def quote (s : String) : String :=
  String.ofList ('"' :: s.toList.flatMap quotedChar ++ ['"'])

end StreamVerdict.Text
