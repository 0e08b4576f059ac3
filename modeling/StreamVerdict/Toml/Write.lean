import StreamVerdict.Text.Natural
import StreamVerdict.Toml.Quoted
import StreamVerdict.Tree

/-!
# Writing TOML

A record is written as a table: its plain members first, then its tables and lists of tables under
headers of their own. A list of two or more plain items is written with one item on a line. A text
is written in the plainest quotes that can hold it.
-/

namespace StreamVerdict.Toml

/-! ## Texts and keys -/

/-- What decides how a text is quoted. -/
structure Traits where
  /-- Controls other than tabs and line feeds. -/
  hasControls : Bool
  hasBackslash : Bool
  hasNewline : Bool
  /-- The longest run of single quotes. -/
  singleRun : Nat
  /-- The longest run of double quotes. -/
  doubleRun : Nat

/-- The longest run of one character. -/
def longestRun (q : Char) (cs : List Char) : Nat :=
  (cs.foldl (fun (run, longest) c =>
    if c = q then (run + 1, max longest (run + 1)) else (0, longest)) (0, 0)).2

/-- Whether quotes cannot hold the character as it is. -/
def isControl (c : Char) : Bool :=
  (c.toNat < 0x20 && c ≠ '\t' && c ≠ '\n') || c = '\x7f'

/-- The traits of a text. -/
def Traits.of (cs : List Char) : Traits :=
  { hasControls := cs.any isControl
    hasBackslash := '\\' ∈ cs
    hasNewline := '\n' ∈ cs
    singleRun := longestRun '\'' cs
    doubleRun := longestRun '"' cs }

/-- The ways to quote a text. -/
inductive Quoting where
  | basic
  | literal
  | block
  | literalBlock
  deriving DecidableEq

/-- The plainest way to quote a text: without escapes on one line if that is possible, then without
escapes on several, and with escapes otherwise. -/
def Traits.quoting (t : Traits) : Quoting :=
  if t.hasControls then if t.hasNewline then .block else .basic
  else if !t.hasBackslash && t.doubleRun = 0 && !t.hasNewline then .basic
  else if t.singleRun = 0 && !t.hasNewline then .literal
  else if !t.hasBackslash && t.doubleRun ≤ 2 then .block
  else if t.singleRun ≤ 2 then .literalBlock
  else if t.hasNewline then .block
  else .basic

/-- The code of a control with four digits, in upper case. -/
def codeEscape (c : Char) : List Char :=
  let digits := (Text.hexDigits c.toNat).map Char.toUpper
  '\\' :: 'u' :: List.replicate (4 - digits.length) '0' ++ digits

/-- Writes the characters of a text with escapes. On several lines a line feed stands for itself,
and so do two double quotes in a row; `run` counts those that stand before. -/
def writeEscaped (block : Bool) : (run : Nat) → List Char → List Char
  | _, [] => []
  | run, c :: cs =>
    match c with
    | '"' =>
      if block && run < 2 then '"' :: writeEscaped block (run + 1) cs
      else '\\' :: '"' :: writeEscaped block 0 cs
    | '\x08' => '\\' :: 'b' :: writeEscaped block 0 cs
    | '\t' => '\\' :: 't' :: writeEscaped block 0 cs
    | '\n' =>
      if block then '\n' :: writeEscaped block 0 cs else '\\' :: 'n' :: writeEscaped block 0 cs
    | '\x0c' => '\\' :: 'f' :: writeEscaped block 0 cs
    | '\r' => '\\' :: 'r' :: writeEscaped block 0 cs
    | '\\' => '\\' :: '\\' :: writeEscaped block 0 cs
    | c =>
      if isControl c then codeEscape c ++ writeEscaped block 0 cs
      else c :: writeEscaped block 0 cs

/-- Writes a text in quotes. -/
def writeText (s : String) : String :=
  let cs := s.toList
  let first := if '\n' ∈ cs then "\n" else ""
  match (Traits.of cs).quoting with
  | .basic => "\"" ++ String.ofList (writeEscaped false 0 cs) ++ "\""
  | .literal => "'" ++ s ++ "'"
  | .block => "\"\"\"" ++ first ++ String.ofList (writeEscaped true 0 cs) ++ "\"\"\""
  | .literalBlock => "'''" ++ first ++ s ++ "'''"

/-- Writes a key, without quotes where that is possible. -/
def writeKey (s : String) : String :=
  let cs := s.toList
  let hasControls := cs.any fun c => isControl c || c = '\n'
  if !cs.isEmpty && cs.all isBare then s
  else if !hasControls && '\'' ∉ cs && ('\\' ∈ cs || '"' ∈ cs) then "'" ++ s ++ "'"
  else "\"" ++ String.ofList (writeEscaped false 0 cs) ++ "\""

/-! ## Values -/

/-- Whether a member becomes a table with a header. -/
def isTable : Tree → Bool
  | .record _ => true
  | _ => false

/-- Whether a member becomes a list of tables with headers. -/
def isTables : Tree → Bool
  | .list (item :: items) => (item :: items).all isTable
  | _ => false

/-- Whether a member is written as a plain value. -/
def isPlain (t : Tree) : Bool :=
  !isTable t && !isTables t

mutual

/-- Writes a value on the right of a key. Only integers of 64 bits with a sign can be written. -/
def writeValue : Tree → Option String
  | .bool true => some "true"
  | .bool false => some "false"
  | .int i =>
    if -Int.ofNat Text.signedHalf ≤ i && i < Int.ofNat Text.signedHalf then some (toString i)
    else none
  | .text s => some (writeText s)
  | .list items => do
    let items ← writeItems items
    match items with
    | [] => some "[]"
    | [item] => some ("[" ++ item ++ "]")
    | items => some ("[" ++ String.join (items.map fun s => "\n    " ++ s ++ ",") ++ "\n]")
  | .record members => do
    let members ← writeInline members
    match members with
    | [] => some "\x7b\x7d"
    | members => some ("\x7b " ++ ", ".intercalate members ++ " \x7d")
  | .null | .real | .unreadable => none

/-- Writes the items of a list. -/
def writeItems : List Tree → Option (List String)
  | [] => some []
  | t :: ts => do
    let item ← writeValue t
    let items ← writeItems ts
    some (item :: items)

/-- Writes the members of a table in braces. -/
def writeInline : List (String × Tree) → Option (List String)
  | [] => some []
  | (key, t) :: ms => do
    let value ← writeValue t
    let members ← writeInline ms
    some ((writeKey key ++ " = " ++ value) :: members)

end

/-! ## Tables -/

/-- The plain members of a table, one on a line. -/
def writePlain (members : List (String × Tree)) : Option (List String) :=
  writeInline (members.filter fun m => isPlain m.2)

/-- The path of a header. -/
def writePath (path : List String) : String :=
  ".".intercalate (path.map writeKey)

/-- The parts of a table: its header, if it has one, and its lines. A table whose members are all
tables needs no header, and an empty table has one, so that it is not lost. -/
def tableHead (path : List String) (inList : Bool) (members : List (String × Tree)) :
    Option (List String) := do
  let lines ← writePlain members
  let head := if inList then some ("[[" ++ writePath path ++ "]]")
    else if path.isEmpty || (lines.isEmpty && !members.isEmpty) then none
    else some ("[" ++ writePath path ++ "]")
  match head.toList ++ lines with
  | [] => some []
  | lines => some [String.join (lines.map (· ++ "\n"))]

mutual

/-- Writes a table and those below it as a list of sections. -/
def writeTable (path : List String) (inList : Bool) : Tree → Option (List String)
  | .record members => do
    let head ← tableHead path inList members
    let below ← writeBelow path members
    some (head ++ below)
  | _ => none

/-- Writes the tables among the members of a table. -/
def writeBelow (path : List String) : List (String × Tree) → Option (List String)
  | [] => some []
  | (key, t) :: ms => do
    let here ← match t with
      | .record members => writeTable (path ++ [key]) false (.record members)
      | .list items =>
        if isTables (.list items) then writeTables (path ++ [key]) items else some []
      | _ => some []
    let rest ← writeBelow path ms
    some (here ++ rest)

/-- Writes the tables of a list. -/
def writeTables (path : List String) : List Tree → Option (List String)
  | [] => some []
  | t :: ts => do
    let here ← writeTable path true t
    let rest ← writeTables path ts
    some (here ++ rest)

end

/-- Writes a record as a document, with a blank line between its sections. -/
def write (t : Tree) : Option String :=
  (writeTable [] false t).map fun sections => "\n".intercalate sections

end StreamVerdict.Toml
