import StreamVerdict.Text.Magnitude
import StreamVerdict.Text.Natural
import StreamVerdict.Tree

/-!
# Reading JSON

A text is read as one value with nothing but blanks around it. Pieces that are well formed but
denote nothing become unreadable trees: a text with half of a surrogate pair, a number out of
reach, and what is nested too deeply.
-/

namespace StreamVerdict.Json

/-- The deepest nesting whose contents are still read. -/
def maxDepth : Nat := 127

/-- Drops the four blanks of the format. -/
def skipBlanks (cs : List Char) : List Char :=
  cs.dropWhile fun c => c = ' ' || c = '\n' || c = '\t' || c = '\r'

/-! ## Texts -/

/-- The value of a hexadecimal digit. -/
def hexDigit? (c : Char) : Option Nat :=
  if '0' ≤ c && c ≤ '9' then some (c.toNat - '0'.toNat)
  else if 'a' ≤ c && c ≤ 'f' then some (c.toNat - 'a'.toNat + 10)
  else if 'A' ≤ c && c ≤ 'F' then some (c.toNat - 'A'.toNat + 10)
  else none

/-- Reads the four digits of a code unit. -/
def readUnit : List Char → Option (Nat × List Char)
  | a :: b :: c :: d :: cs => do
    let a ← hexDigit? a
    let b ← hexDigit? b
    let c ← hexDigit? c
    let d ← hexDigit? d
    some (((a * 16 + b) * 16 + c) * 16 + d, cs)
  | _ => none

/-- The character that a one-letter escape stands for. -/
def simpleEscape? : Char → Option Char
  | '"' => some '"'
  | '\\' => some '\\'
  | '/' => some '/'
  | 'b' => some '\x08'
  | 'f' => some '\x0c'
  | 'n' => some '\n'
  | 'r' => some '\r'
  | 't' => some '\t'
  | _ => none

/-- Reads the units of a text up to the closing quote. A unit is a character, or a number that was
written as an escape. -/
def readUnits : (fuel : Nat) → List Char → Option (List (Char ⊕ Nat) × List Char)
  | 0, _ => none
  | _ + 1, [] => none
  | _ + 1, '"' :: cs => some ([], cs)
  | fuel + 1, '\\' :: 'u' :: cs => do
    let (unit, cs) ← readUnit cs
    let (units, cs) ← readUnits fuel cs
    some (.inr unit :: units, cs)
  | fuel + 1, '\\' :: c :: cs => do
    let c ← simpleEscape? c
    let (units, cs) ← readUnits fuel cs
    some (.inl c :: units, cs)
  | fuel + 1, c :: cs =>
    -- a control character has to be escaped
    if c = '\\' || c.toNat < 0x20 then none
    else do
      let (units, cs) ← readUnits fuel cs
      some (.inl c :: units, cs)

/-- The text of a list of units, if every surrogate has its partner. -/
def joinUnits : List (Char ⊕ Nat) → Option (List Char)
  | [] => some []
  | .inl c :: us => (joinUnits us).map (c :: ·)
  | .inr n :: us =>
    if 0xD800 ≤ n && n < 0xDC00 then
      match us with
      | .inr m :: us =>
        if 0xDC00 ≤ m && m < 0xE000 then
          -- the two halves of a character beyond the first plane
          (joinUnits us).map (Char.ofNat (0x10000 + (n - 0xD800) * 0x400 + (m - 0xDC00)) :: ·)
        else none
      | _ => none
    else if 0xDC00 ≤ n && n < 0xE000 then none
    else (joinUnits us).map (Char.ofNat n :: ·)

/-- Reads a text after its opening quote. The text is missing if it cannot be put together. -/
def readText (cs : List Char) : Option (Option String × List Char) := do
  let (units, rest) ← readUnits (cs.length + 1) cs
  some ((joinUnits units).map String.ofList, rest)

/-! ## Numbers -/

/-- Reads digits, of which there must be one. -/
def readDigits1 (cs : List Char) : Option (List Char × List Char) :=
  match cs.takeWhile Char.isDigit with
  | [] => none
  | digits => some (digits, cs.dropWhile Char.isDigit)

/-- The digits of the whole part of a number, which has no leading zero. -/
def readWhole (cs : List Char) : Option (List Char × List Char) := do
  let (digits, rest) ← readDigits1 cs
  match digits with
  | '0' :: _ :: _ => none
  | _ => some (digits, rest)

/-- The value of a list of digits. -/
def digitsValue (digits : List Char) : Nat :=
  digits.foldl (fun n c => n * 10 + (c.toNat - '0'.toNat)) 0

/-- Reads the exponent of a number. -/
def readExponent (cs : List Char) : Option (Int × List Char) :=
  let signed : Bool × List Char := match cs with
    | '-' :: cs => (true, cs)
    | '+' :: cs => (false, cs)
    | cs => (false, cs)
  (readDigits1 signed.2).map fun (digits, rest) =>
    (if signed.1 then -Int.ofNat (digitsValue digits) else Int.ofNat (digitsValue digits), rest)

/-- The tree of a number without fraction and exponent. Negative zero is no integer. -/
def wholeTree (negative : Bool) (digits : List Char) : Tree :=
  let n := digitsValue digits
  if !negative && n ≤ Text.maxWord then .int n
  else if negative && 0 < n && n ≤ Text.signedHalf then .int (-Int.ofNat n)
  else if Text.isOutOfReach digits 0 then .unreadable
  else .real

/-- Reads a number after its sign. -/
def readNumber (negative : Bool) (cs : List Char) : Option (Tree × List Char) := do
  let (whole, cs) ← readWhole cs
  let (fraction, cs) ← match cs with
    | '.' :: cs => readDigits1 cs
    | cs => some ([], cs)
  let (exponent, cs) ← match cs with
    | 'e' :: cs | 'E' :: cs => (readExponent cs).map fun (e, cs) => (some e, cs)
    | cs => some (none, cs)
  match fraction, exponent with
  | [], none => some (wholeTree negative whole, cs)
  | _, _ =>
    -- no number of a configuration is real, so all that matters is whether it can be read
    let exponent := exponent.getD 0 - Int.ofNat fraction.length
    some (if Text.isOutOfReach (whole ++ fraction) exponent then .unreadable else .real, cs)

/-! ## Values -/

/-- Drops a word that must lie ahead. -/
def expectWord (word : List Char) (cs : List Char) : Option (List Char) :=
  if word.isPrefixOf cs then some (cs.drop word.length) else none

/-- A container at some depth, unless it is nested too deeply. -/
def atDepth (depth : Nat) (t : Tree) : Tree :=
  if maxDepth < depth then .unreadable else t

mutual

/-- Reads a value inside `depth` containers. -/
def readValue (depth : Nat) : (fuel : Nat) → List Char → Option (Tree × List Char)
  | 0, _ => none
  | fuel + 1, cs =>
    match skipBlanks cs with
    | '\x7b' :: cs =>
      match skipBlanks cs with
      | '\x7d' :: cs => some (atDepth (depth + 1) (.record []), cs)
      | cs => do
        let (members, cs) ← readMembers (depth + 1) fuel cs
        let tree := match members with
          | some members => .record members
          | none => .unreadable
        some (atDepth (depth + 1) tree, cs)
    | '[' :: cs =>
      match skipBlanks cs with
      | ']' :: cs => some (atDepth (depth + 1) (.list []), cs)
      | cs => do
        let (items, cs) ← readItems (depth + 1) fuel cs
        some (atDepth (depth + 1) (.list items), cs)
    | '"' :: cs => do
      let (s, cs) ← readText cs
      some (match s with | some s => .text s | none => .unreadable, cs)
    | 't' :: cs => (expectWord ['r', 'u', 'e'] cs).map (.bool true, ·)
    | 'f' :: cs => (expectWord ['a', 'l', 's', 'e'] cs).map (.bool false, ·)
    | 'n' :: cs => (expectWord ['u', 'l', 'l'] cs).map (.null, ·)
    | '-' :: cs => readNumber true cs
    | cs => readNumber false cs

/-- Reads the items of a list up to its closing bracket. -/
def readItems (depth : Nat) : (fuel : Nat) → List Char → Option (List Tree × List Char)
  | 0, _ => none
  | fuel + 1, cs => do
    let (item, cs) ← readValue depth fuel cs
    match skipBlanks cs with
    | ',' :: cs => do
      let (items, cs) ← readItems depth fuel cs
      some (item :: items, cs)
    | ']' :: cs => some ([item], cs)
    | _ => none

/-- Reads the members of an object up to its closing brace. They are missing if one of their names
cannot be put together. -/
def readMembers (depth : Nat) : (fuel : Nat) → List Char →
    Option (Option (List (String × Tree)) × List Char)
  | 0, _ => none
  | fuel + 1, cs =>
    match skipBlanks cs with
    | '"' :: cs => do
      let (name, cs) ← readText cs
      match skipBlanks cs with
      | ':' :: cs => do
        let (value, cs) ← readValue depth fuel cs
        let member := name.map (·, value)
        match skipBlanks cs with
        | ',' :: cs => do
          let (members, cs) ← readMembers depth fuel cs
          -- the rest is read even if this name cannot be put together
          some (member.bind fun m => members.map (m :: ·), cs)
        | '\x7d' :: cs => some (member.map ([·]), cs)
        | _ => none
      | _ => none
    | _ => none

end

/-- Reads a text as one value. -/
def read (s : String) : Option Tree := do
  let cs := s.toList
  let (t, rest) ← readValue 0 (2 * cs.length + 2) cs
  if (skipBlanks rest).isEmpty then some t else none

end StreamVerdict.Json
