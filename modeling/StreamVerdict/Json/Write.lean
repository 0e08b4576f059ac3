import StreamVerdict.Text.Quoted
import StreamVerdict.Tree

/-!
# Writing JSON

A tree is written without any blanks. Only quotes, backslashes and controls are escaped.
-/

namespace StreamVerdict.Json

/-- The escape of a control that has no letter of its own. -/
def unitEscape (n : Nat) : List Char :=
  let digits := Text.hexDigits n
  '\\' :: 'u' :: List.replicate (4 - digits.length) '0' ++ digits

/-- One character inside quotes. -/
def writeChar (c : Char) : List Char :=
  match c with
  | '"' => ['\\', '"']
  | '\\' => ['\\', '\\']
  | '\x08' => ['\\', 'b']
  | '\x0c' => ['\\', 'f']
  | '\n' => ['\\', 'n']
  | '\r' => ['\\', 'r']
  | '\t' => ['\\', 't']
  | c => if c.toNat < 0x20 then unitEscape c.toNat else [c]

/-- A text in quotes. -/
def writeText (s : String) : String :=
  String.ofList ('"' :: s.toList.flatMap writeChar ++ ['"'])

mutual

/-- Writes a tree. What denotes no value is written as nothing would be. -/
def write : Tree → String
  | .null | .real | .unreadable => "null"
  | .bool true => "true"
  | .bool false => "false"
  | .int i => toString i
  | .text s => writeText s
  | .list items => "[" ++ ",".intercalate (writeItems items) ++ "]"
  | .record members => "\x7b" ++ ",".intercalate (writeMembers members) ++ "\x7d"

/-- Writes the items of a list. -/
def writeItems : List Tree → List String
  | [] => []
  | t :: ts => write t :: writeItems ts

/-- Writes the members of an object. -/
def writeMembers : List (String × Tree) → List String
  | [] => []
  | (name, t) :: ms => (writeText name ++ ":" ++ write t) :: writeMembers ms

end

end StreamVerdict.Json
