import StreamVerdict.Regex.Basic
import StreamVerdict.Regex.Scan

/-!
# Single pieces of an expression

A backslash starts a class, an assertion, a number or a plain character. `Flags.escape` reads
what follows it, inside brackets and outside.
-/

namespace StreamVerdict.Regex

/-- The characters that may mean something other than themselves. -/
def isMeta (c : Char) : Bool :=
  c ∈ ['\\', '.', '+', '*', '?', '(', ')', '|', '[', ']', '\x7b', '\x7d', '^', '$', '#', '&', '-',
    '~']

/-- Whether a backslash before `c` only makes it stand for itself: for all of ASCII but letters,
digits and angle brackets. -/
def isEscapable (c : Char) : Bool :=
  c.toNat < 128 && !c.isAlphanum && c ≠ '<' && c ≠ '>'

/-- A text that, read as an expression, matches `cs` and nothing else. -/
def escapeChars (cs : List Char) : List Char :=
  cs.flatMap fun c => if isMeta c then ['\\', c] else [c]

/-- A piece that a bracket may hold or that stands alone. -/
inductive Atom where
  /-- A character; `isByte` if it was written as two hexadecimal digits. -/
  | char (c : Char) (isByte : Bool)
  | set (s : CharSet)
  | assert (a : Assertion)
  deriving DecidableEq

/-! ## Classes and properties -/

/-- Lets a set hold both cases, if case does not count. -/
def Flags.fold (f : Flags) (s : CharSet) : CharSet :=
  if !f.ignoreCase then s else if f.unicode then s.folded else s.foldedAscii

/-- The complement of a set. Without Unicode the complement would hold parts of characters. -/
def Flags.negate (f : Flags) (negated : Bool) (s : CharSet) : Except Fault CharSet :=
  if !negated then .ok s else if f.unicode then .ok s.compl else .error .partOfCharacter

/-- Lets a set hold both cases, if case does not count, and then takes the complement if asked:
everything but `x` must not hold the other case of `x`. -/
def Flags.foldNegate (f : Flags) (negated : Bool) (s : CharSet) : Except Fault CharSet :=
  f.negate negated (f.fold s)

/-- A one-letter class. -/
def Flags.wideClass (f : Flags) (negated : Bool) (k : WideClass) : Except Fault Atom := do
  let s ← f.negate negated (if f.unicode then .wide k else k.ascii)
  .ok (.set s)

/-- The set of a property given by its name, or by name and value. Both signs between the two mean
the same; only the letter of the escape decides about the complement. -/
def Flags.propertyNamed (f : Flags) (negated : Bool) (name : List Char) : Except Fault Atom :=
  if !f.unicode then .error .unicodeDisabled
  else
    -- a name and a value may be given with one of three signs between them
    let cut (sign : Char) := (name.takeWhile (· ≠ sign), (name.dropWhile (· ≠ sign)).drop 1)
    let found :=
      match splitUnequal name with
      | some (key, value) => Unicode.Property.byValue? key value
      | none =>
        if ':' ∈ name then Unicode.Property.byValue? (cut ':').1 (cut ':').2
        else if '=' ∈ name then Unicode.Property.byValue? (cut '=').1 (cut '=').2
        else Unicode.Property.byName? name
    match found with
    | none => .error (.propertyUnknown (String.ofList name))
    | some p => do
      let s ← f.foldNegate negated (.property p)
      .ok (.set s)
where
  /-- The parts before and after the first sign for "unequal". -/
  splitUnequal : List Char → Option (List Char × List Char)
    | [] => none
    | '!' :: '=' :: rest => some ([], rest)
    | c :: cs => (splitUnequal cs).map fun (a, b) => (c :: a, b)

/-- Reads the name of a property: one character, or anything in braces. -/
def Flags.propertyName (f : Flags) (cs : List Char) : Except Fault (List Char × List Char) :=
  match f.skip cs with
  | [] => .error .escapeUnfinished
  | '\x7b' :: cs =>
    match f.takeWhile (· ≠ '\x7d') (f.skip cs) with
    | (_, []) => .error .escapeUnfinished
    | (name, _ :: rest) => .ok (name, rest)
  | '\\' :: _ => .error (.propertyUnknown "\\")
  | c :: cs => .ok ([c], f.skip cs)

/-! ## Edges of words -/

/-- The edge that a name in braces asks for. -/
def wordEdge? : String → Option WordEdge
  | "start" => some .start
  | "end" => some .finish
  | "start-half" => some .startHalf
  | "end-half" => some .finishHalf
  | _ => none

/-- Reads the name of a word edge after `\b`. Braces that do not begin with a letter or a hyphen
are left alone: they are a count. -/
def Flags.wordEdge (f : Flags) (cs : List Char) : Except Fault (WordEdge × List Char) :=
  match cs with
  | '\x7b' :: ahead =>
    let inName (c : Char) := c.isAlpha || c = '-'
    match f.skip ahead with
    | [] => .error .wordEdgeUnclosed
    | c :: rest =>
      if !inName c then .ok (.either, cs)
      else match f.takeWhile inName (c :: rest) with
        | (name, '\x7d' :: rest) =>
          match wordEdge? (String.ofList name) with
          | some e => .ok (e, rest)
          | none => .error (.wordEdgeUnknown (String.ofList name))
        | _ => .error .wordEdgeUnclosed
  | _ => .ok (.either, cs)

/-! ## All escapes -/

/-- Reads what follows a backslash. -/
def Flags.escape (f : Flags) : List Char → Except Fault (Atom × List Char)
  | [] => .error .escapeUnfinished
  | c :: cs =>
    let plain (d : Char) : Except Fault (Atom × List Char) := .ok (.char d false, cs)
    let edge (e : WordEdge) : Except Fault (Atom × List Char) :=
      .ok (.assert (.word (!f.unicode) e), cs)
    let wide (negated : Bool) (k : WideClass) : Except Fault (Atom × List Char) := do
      let a ← f.wideClass negated k
      .ok (a, cs)
    let hex (width : Nat) : Except Fault (Atom × List Char) := do
      let (d, rest) ← f.hex width cs
      .ok (.char d (width = 2 && (f.skip cs).head? ≠ some '\x7b'), rest)
    let named (negated : Bool) : Except Fault (Atom × List Char) := do
      let (name, rest) ← f.propertyName cs
      let a ← f.propertyNamed negated name
      .ok (a, rest)
    if isEscapable c then plain c
    else if c.isDigit then .error .backreference
    else match c with
      | 'x' => hex 2
      | 'u' => hex 4
      | 'U' => hex 8
      | 'p' => named false
      | 'P' => named true
      | 'd' => wide false .digit
      | 'D' => wide true .digit
      | 's' => wide false .blank
      | 'S' => wide true .blank
      | 'w' => wide false .word
      | 'W' => wide true .word
      | 'a' => plain '\x07'
      | 'f' => plain '\x0c'
      | 't' => plain '\t'
      | 'n' => plain '\n'
      | 'r' => plain '\r'
      | 'v' => plain '\x0b'
      | 'A' => .ok (.assert .textStart, cs)
      | 'z' => .ok (.assert .textEnd, cs)
      | 'b' => do
        let (e, rest) ← f.wordEdge cs
        .ok (.assert (.word (!f.unicode) e), rest)
      | 'B' => edge .neither
      | '<' => edge .start
      | '>' => edge .finish
      | _ => .error (.escapeUnknown c)

end StreamVerdict.Regex
