import StreamVerdict.Regex.Fault
import StreamVerdict.Text.Blank
import StreamVerdict.Text.Natural

/-!
# Reading small pieces of an expression

Flags, blanks and comments, decimal and hexadecimal numbers. Every reader takes the characters
that lie ahead and returns those that it has not used.
-/

namespace StreamVerdict.Regex

/-- What flags are set at a place of an expression. Greed is not among them: it decides which
match is found, never whether there is one. -/
structure Flags where
  /-- `i`: letters match in either case. -/
  ignoreCase : Bool := false
  /-- `m`: line anchors match at lines. -/
  multiLine : Bool := false
  /-- `s`: the dot matches a line feed too. -/
  dotAll : Bool := false
  /-- `R`: carriage returns end lines as line feeds do. -/
  crlf : Bool := false
  /-- `u`: classes hold characters of every script. -/
  unicode : Bool := true
  /-- `x`: blanks and comments between pieces are skipped. -/
  verbose : Bool := false
  deriving DecidableEq

/-- Sets the flag of a letter. The letter for greed is known and changes nothing. -/
def Flags.set? (f : Flags) (on : Bool) : Char → Option Flags
  | 'i' => some { f with ignoreCase := on }
  | 'm' => some { f with multiLine := on }
  | 's' => some { f with dotAll := on }
  | 'R' => some { f with crlf := on }
  | 'u' => some { f with unicode := on }
  | 'x' => some { f with verbose := on }
  | 'U' => some f
  | _ => none

/-- Drops blanks, and comments from a number sign to the end of the line. -/
def dropTrivia : (inComment : Bool) → List Char → List Char
  | _, [] => []
  | true, c :: cs => dropTrivia (c ≠ '\n') cs
  | false, c :: cs =>
    if Text.isBlank c then dropTrivia false cs
    else if c = '#' then dropTrivia true cs
    else c :: cs

/-- Drops what does not count between two pieces: blanks and comments in verbose mode, and
nothing otherwise. -/
def Flags.skip (f : Flags) (cs : List Char) : List Char :=
  if f.verbose then dropTrivia false cs else cs

/-- The digits ahead that `p` accepts, with trivia between them dropped, and the rest. -/
def Flags.span (f : Flags) (p : Char → Bool) : (fuel : Nat) → List Char → List Char × List Char
  | 0, cs => ([], cs)
  | _ + 1, [] => ([], [])
  | fuel + 1, c :: cs =>
    if p c then
      let (taken, rest) := f.span p fuel (f.skip cs)
      (c :: taken, rest)
    else ([], c :: cs)

/-- All characters ahead that `p` accepts, with trivia between them dropped, and the rest. -/
def Flags.takeWhile (f : Flags) (p : Char → Bool) (cs : List Char) : List Char × List Char :=
  f.span p cs.length cs

/-- The largest count of a repetition. -/
def maxCount : Nat := UInt32.size - 1

/-- Reads a count of a repetition, with blanks allowed on both sides of it. -/
def Flags.count (f : Flags) (cs : List Char) : Except Fault (Nat × List Char) :=
  let (digits, rest) := f.takeWhile Char.isDigit (cs.dropWhile Text.isBlank)
  let (_, rest) := f.takeWhile Text.isBlank rest
  if digits.isEmpty then .error .countMissing
  else match Text.readNatural maxCount digits with
    | .ok n => .ok (n, rest)
    | .error _ => .error .countTooLarge

/-- The value of a hexadecimal digit. -/
def hexValue? (c : Char) : Option Nat :=
  if '0' ≤ c && c ≤ '9' then some (c.toNat - '0'.toNat)
  else if 'a' ≤ c && c ≤ 'f' then some (c.toNat - 'a'.toNat + 10)
  else if 'A' ≤ c && c ≤ 'F' then some (c.toNat - 'A'.toNat + 10)
  else none

/-- The number that hexadecimal digits write. -/
def hexNumber (cs : List Char) : Nat :=
  cs.foldl (fun n c => n * 16 + (hexValue? c).getD 0) 0

/-- The character of a code point, if it is one of a character. -/
def char? (n : Nat) : Option Char :=
  if h : n.isValidChar then some (Char.ofNatAux n h) else none

/-- Reads exactly `n` hexadecimal digits. -/
def Flags.hexFixed (f : Flags) : (n : Nat) → List Char → Except Fault (List Char × List Char)
  | 0, cs => .ok ([], cs)
  | _ + 1, [] => .error .escapeUnfinished
  | n + 1, c :: cs =>
    if (hexValue? c).isNone then .error .hexInvalid
    else do
      let (ds, rest) ← f.hexFixed n (f.skip cs)
      .ok (c :: ds, rest)

/-- The character that hexadecimal digits name. -/
def hexChar (digits : List Char) : Except Fault Char :=
  if digits.isEmpty then .error .hexMissing
  else match char? (hexNumber digits) with
    | some c => .ok c
    | none => .error .hexInvalid

/-- Reads the hexadecimal number of an escape, after its letter: a fixed number of digits, or any
number of them in braces. -/
def Flags.hex (f : Flags) (width : Nat) (cs : List Char) : Except Fault (Char × List Char) :=
  match f.skip cs with
  | [] => .error .escapeUnfinished
  | '\x7b' :: cs =>
    match f.takeWhile (fun c => (hexValue? c).isSome) (f.skip cs) with
    | (_, []) => .error .escapeUnfinished
    | (digits, '\x7d' :: rest) => do
      let c ← hexChar digits
      .ok (c, f.skip rest)
    | _ => .error .hexInvalid
  | cs => do
    let (digits, rest) ← f.hexFixed width cs
    let c ← hexChar digits
    .ok (c, rest)

end StreamVerdict.Regex
