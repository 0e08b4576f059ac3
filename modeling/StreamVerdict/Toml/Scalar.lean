import StreamVerdict.Text.Magnitude
import StreamVerdict.Text.Natural
import StreamVerdict.Toml.Quoted
import StreamVerdict.Tree

/-!
# Numbers and dates in TOML

Integers have 64 bits with a sign and may be written in four bases. Other numbers, and dates and
times, are recognised so that a text that holds them can be read, although no configuration uses
them. A date becomes a record of one member, which holds its text.
-/

namespace StreamVerdict.Toml

/-! ## Numbers -/

/-- Reads digits that `p` accepts, at least one, with single underscores between them. -/
def readDigits (p : Char → Bool) : List Char → Option (List Char × List Char)
  | [] => none
  | c :: cs => if p c then some (rest c cs) else none
where
  /-- The digits that follow a digit. -/
  rest (c : Char) : List Char → List Char × List Char
    | [] => ([c], [])
    | '_' :: d :: cs =>
      if p d then
        let (ds, cs) := rest d cs
        (c :: ds, cs)
      else ([c], '_' :: d :: cs)
    | d :: cs =>
      if p d then
        let (ds, cs) := rest d cs
        (c :: ds, cs)
      else ([c], d :: cs)

/-- The value of one digit in a base of up to sixteen. -/
def digitValue (c : Char) : Nat :=
  if c.isDigit then c.toNat - '0'.toNat else c.toLower.toNat - 'a'.toNat + 10

/-- The value of digits in a base. -/
def digitsValue (base : Nat) (digits : List Char) : Nat :=
  digits.foldl (fun n c => n * base + digitValue c) 0

/-- Reads the digits of a number in base ten, without leading zeros. -/
def readWhole (cs : List Char) : Option (List Char × List Char) :=
  match cs with
  | '0' :: cs => some (['0'], cs)
  | cs => readDigits Char.isDigit cs

/-- Reads a sign, and says whether it is a minus. -/
def readSign : List Char → Bool × List Char
  | '-' :: cs => (true, cs)
  | '+' :: cs => (false, cs)
  | cs => (false, cs)

/-- The tree of an integer, if it has no more than 64 bits. -/
def integer? (negative : Bool) (n : Nat) : Option Tree :=
  if negative then if n ≤ Text.signedHalf then some (.int (-Int.ofNat n)) else none
  else if n < Text.signedHalf then some (.int n) else none

/-- Reads an integer in base sixteen, eight or two, after its mark. -/
def readBased (base : Nat) (p : Char → Bool) (cs : List Char) : Option (Tree × List Char) := do
  let (digits, rest) ← readDigits p cs
  let tree ← integer? false (digitsValue base digits)
  some (tree, rest)

/-- Whether a character is a hexadecimal digit. -/
def isHexDigit (c : Char) : Bool :=
  c.isDigit || ('a' ≤ c && c ≤ 'f') || ('A' ≤ c && c ≤ 'F')

/-- Reads the exponent of a number, after its letter. -/
def readExponent (cs : List Char) : Option (Int × List Char) := do
  let (negative, cs) := readSign cs
  let (digits, rest) ← readDigits Char.isDigit cs
  let n := Int.ofNat (digitsValue 10 digits)
  some (if negative then -n else n, rest)

/-- Reads a number in base ten. One with a fraction or an exponent is refused if it is positive and
out of reach. -/
def readDecimal (cs : List Char) : Option (Tree × List Char) := do
  let (negative, cs) := readSign cs
  let (whole, cs) ← readWhole cs
  let (fraction, cs) ← match cs with
    | '.' :: cs => readDigits Char.isDigit cs
    | cs => some ([], cs)
  let (exponent, cs) ← match cs with
    | 'e' :: cs | 'E' :: cs => (readExponent cs).map fun (e, cs) => (some e, cs)
    | cs => some (none, cs)
  match fraction, exponent with
  | [], none => (integer? negative (digitsValue 10 whole)).map (·, cs)
  | _, _ =>
    let exponent := exponent.getD 0 - Int.ofNat fraction.length
    -- a number that is too large is refused, but not its negative
    if !negative && Text.isOutOfReach (whole ++ fraction) exponent then none
    else some (.real, cs)

/-- Reads the word for an infinite number or for no number. -/
def readSpecial (cs : List Char) : Option (Tree × List Char) :=
  match (readSign cs).2 with
  | 'i' :: 'n' :: 'f' :: cs => some (.real, cs)
  | 'n' :: 'a' :: 'n' :: cs => some (.real, cs)
  | _ => none

/-! ## Dates and times -/

/-- Reads exactly `n` digits as a number between two bounds. -/
def readField (n lo hi : Nat) (cs : List Char) : Option (Nat × List Char) :=
  let digits := cs.take n
  if digits.length = n && digits.all Char.isDigit then
    let value := digitsValue 10 digits
    if lo ≤ value && value ≤ hi then some (value, cs.drop n) else none
  else none

/-- Drops a character that must lie ahead. -/
def expect (c : Char) : List Char → Option (List Char)
  | d :: cs => if d = c then some cs else none
  | [] => none

/-- The number of days of a month. -/
def daysOf (year month : Nat) : Nat :=
  let isLeap := year % 4 = 0 && (year % 100 ≠ 0 || year % 400 = 0)
  if month = 2 then if isLeap then 29 else 28
  else if month = 4 || month = 6 || month = 9 || month = 11 then 30
  else 31

/-- A number with leading zeros up to a width. -/
def padded (width n : Nat) : String :=
  let s := toString n
  "".pushn '0' (width - s.length) ++ s

/-- Reads a date and returns its text. -/
def readDate (cs : List Char) : Option (String × List Char) := do
  let (year, cs) ← readField 4 0 9999 cs
  let cs ← expect '-' cs
  let (month, cs) ← readField 2 1 12 cs
  let cs ← expect '-' cs
  let (day, cs) ← readField 2 1 (daysOf year month) cs
  some (padded 4 year ++ "-" ++ padded 2 month ++ "-" ++ padded 2 day, cs)

/-- The text of a fraction of a second, to nine places and without zeros at the end. -/
def fractionText (digits : List Char) : String :=
  let kept := ((digits.take 9).reverse.dropWhile (· = '0')).reverse
  if kept.isEmpty then "" else "." ++ String.ofList kept

/-- Reads a time of day and returns its text. -/
def readTime (cs : List Char) : Option (String × List Char) := do
  let (hour, cs) ← readField 2 0 23 cs
  let cs ← expect ':' cs
  let (minute, cs) ← readField 2 0 59 cs
  let cs ← expect ':' cs
  let (second, cs) ← readField 2 0 60 cs
  let time := padded 2 hour ++ ":" ++ padded 2 minute ++ ":" ++ padded 2 second
  match cs with
  | '.' :: cs =>
    match cs.takeWhile Char.isDigit with
    | [] => none
    | digits => some (time ++ fractionText digits, cs.dropWhile Char.isDigit)
  | cs => some (time, cs)

/-- Reads an offset from universal time and returns its text. There need not be one. -/
def readOffset (cs : List Char) : Option (String × List Char) :=
  let signed (sign : String) (cs : List Char) : Option (String × List Char) := do
    let (hour, cs) ← readField 2 0 23 cs
    let cs ← expect ':' cs
    let (minute, cs) ← readField 2 0 59 cs
    -- universal time has one spelling
    let sign := if hour = 0 && minute = 0 then "+" else sign
    some (sign ++ padded 2 hour ++ ":" ++ padded 2 minute, cs)
  match cs with
  | 'Z' :: cs | 'z' :: cs => some ("Z", cs)
  | '+' :: cs => signed "+" cs
  | '-' :: cs => signed "-" cs
  | cs => some ("", cs)

/-- Reads a date, a time of day, or both, and returns their text. A blank after a date separates it
from a time only if two digits and a colon follow. -/
def readMoment (cs : List Char) : Option (String × List Char) :=
  match readDate cs with
  | none => readTime cs
  | some (date, rest) =>
    let withTime (ahead : List Char) : Option (String × List Char) := do
      let (time, ahead) ← readTime ahead
      let (offset, ahead) ← readOffset ahead
      some (date ++ "T" ++ time ++ offset, ahead)
    match rest with
    | 'T' :: ahead | 't' :: ahead | ' ' :: ahead =>
      if (readField 2 0 23 ahead).any (fun r => r.2.head? = some ':') then withTime ahead
      else some (date, rest)
    | rest => some (date, rest)

/-- The name of the one member of a date. -/
def momentKey : String := "$__toml_private_datetime"

/-- Whether a date or a time of day lies ahead. -/
def isMoment (cs : List Char) : Bool :=
  let digits := (cs.takeWhile Char.isDigit).length
  (digits = 4 && cs[4]? = some '-') || (digits = 2 && cs[2]? = some ':')

/-! ## Either of them -/

/-- Reads a number or a date. -/
def readScalar (cs : List Char) : Option (Tree × List Char) :=
  match cs with
  | '0' :: 'x' :: cs => readBased 16 isHexDigit cs
  | '0' :: 'o' :: cs => readBased 8 (fun c => '0' ≤ c && c ≤ '7') cs
  | '0' :: 'b' :: cs => readBased 2 (fun c => c = '0' || c = '1') cs
  | cs =>
    if isMoment cs then
      (readMoment cs).map fun (s, rest) => (.record [(momentKey, .text s)], rest)
    else (readSpecial cs).or (readDecimal cs)

end StreamVerdict.Toml
