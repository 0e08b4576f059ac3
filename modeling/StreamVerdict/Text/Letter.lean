import StreamVerdict.Unicode.CaseTable
import StreamVerdict.Unicode.CharacterClass

/-!
# Letters without regard to case

Two ways of setting case aside. `lowercase` maps a text to lower case by the rules of the whole
character set. `sameAscii` compares two texts with the letters A to Z alone folded.
-/

namespace StreamVerdict.Text

/-- Whether the first character that is not passed over has case. -/
def meetsCased (cs : List Char) : Bool :=
  match cs.dropWhile Unicode.caseIgnorable.contains with
  | c :: _ => Unicode.cased.contains c
  | [] => false

/-- The lower-case form of one character between the characters `before` it, nearest first, and
those `after` it. A capital sigma becomes a final sigma at the end of a word, and the dotted
capital I keeps its dot as a character of its own. -/
def lowerChar (before : List Char) (c : Char) (after : List Char) : List Char :=
  if c = 'Σ' then
    -- the end of a word: a letter before, and none after
    if meetsCased before && !meetsCased after then ['ς'] else ['σ']
  else if c = 'İ' then
    ['i', Char.ofNat 0x307]
  else
    [Unicode.CaseRun.mapChar Unicode.lowerRuns c]

/-- The lower-case form of a list of characters, given those `before` it, nearest first. -/
def lowerChars (before : List Char) : List Char → List Char
  | [] => []
  | c :: cs => lowerChar before c cs ++ lowerChars (c :: before) cs

/-- The lower-case form of a text. -/
def lowercase (s : String) : String :=
  String.ofList (lowerChars [] s.toList)

/-- Whether two texts are the same up to the case of the letters A to Z. -/
def sameAscii (s t : String) : Bool :=
  s.toList.map Char.toLower == t.toList.map Char.toLower

end StreamVerdict.Text
