import StreamVerdict.Regex.Escape

/-!
# Brackets

A bracket lists characters, ranges and classes. It may hold further brackets, and the set
operations `&&`, `--` and `~~`, which bind less than listing does and group to the left.
-/

namespace StreamVerdict.Regex

/-- A value read from an expression, with the depth to which it nests others. -/
structure Nested (α : Type) where
  value : α
  depth : Nat

/-- The operations between two sets in a bracket. -/
inductive SetOp where
  | inter
  | diff
  | symmDiff
  deriving DecidableEq

/-- Joins two sets, both of them with both cases if case does not count. -/
def SetOp.apply (f : Flags) : SetOp → CharSet → CharSet → CharSet
  | inter, a, b => .inter (f.fold a) (f.fold b)
  | diff, a, b => .diff (f.fold a) (f.fold b)
  | symmDiff, a, b => .symmDiff (f.fold a) (f.fold b)

/-- Brackets that are still open, innermost first. -/
inductive OpenBracket where
  /-- A bracket inside one whose items so far are `items`. -/
  | opened (items : List (Nested CharSet)) (negated : Bool)
  /-- An operation whose second operand is being read. -/
  | operand (op : SetOp) (first : Nested CharSet)

/-- The set of a list of items, last one first. -/
def joinItems : List (Nested CharSet) → Nested CharSet
  | [] => ⟨.none, 0⟩
  | [a] => a
  | as => ⟨.unions (as.reverse.map (·.value)), 1 + (as.map (·.depth)).foldl max 0⟩

/-- Closes the operation that is open, if there is one. -/
def closeOp (f : Flags) (second : Nested CharSet) :
    List OpenBracket → Nested CharSet × List OpenBracket
  | .operand op first :: stack =>
    (⟨op.apply f first.value second.value, 1 + max first.depth second.depth⟩, stack)
  | stack => (second, stack)

/-- What was read of the beginning of a bracket: a hyphen or a closing bracket that comes first
stands for itself. -/
def Flags.openBracket (f : Flags) (cs : List Char) :
    Except Fault (Bool × List (Nested CharSet) × List Char) := do
  let (negated, cs) := match f.skip cs with
    | '^' :: cs => (true, f.skip cs)
    | cs => (false, cs)
  let (hyphens, cs) := f.takeWhile (· = '-') cs
  match hyphens, cs with
  | _, [] => .error .bracketUnclosed
  | [], ']' :: cs =>
    match f.skip cs with
    | [] => .error .bracketUnclosed
    | cs => .ok (negated, [⟨.single ']', 0⟩], cs)
  | _, _ => .ok (negated, hyphens.map fun _ => ⟨.single '-', 0⟩, cs)

/-- Reads a class named between colons, after an opening bracket, or nothing. -/
def Flags.namedClass (f : Flags) (cs : List Char) :
    Option (Except Fault CharSet × List Char) :=
  match cs with
  | ':' :: cs =>
    let (negated, cs) := match cs with
      | '^' :: cs => (true, cs)
      | cs => (false, cs)
    -- a name that is not closed is none, and the colon is read as an item
    match cs.dropWhile (· ≠ ':') with
    | ':' :: ']' :: rest =>
      (asciiClass? (String.ofList (cs.takeWhile (· ≠ ':')))).map fun s =>
        (f.foldNegate negated s, rest)
    | _ => none
  | _ => none

/-- Reads one item or one end of a range. -/
def Flags.bracketAtom (f : Flags) : List Char → Except Fault (Atom × List Char)
  | [] => .error .bracketUnclosed
  | '\\' :: cs => f.escape cs
  | c :: cs => .ok (.char c false, cs)

/-- The character of an item, if it is one. Without Unicode only ASCII can be listed. -/
def Flags.bracketChar (f : Flags) : Atom → Except Fault Char
  | .char c isByte =>
    if f.unicode || c.toNat < 128 then .ok c
    else if isByte then .error .partOfCharacter
    else .error .unicodeDisabled
  | _ => .error .rangeEndpoint

/-- The set that an item stands for. -/
def Flags.bracketSet (f : Flags) : Atom → Except Fault CharSet
  | .set s => .ok s
  | .assert _ => .error .bracketItem
  | a => do
    let c ← f.bracketChar a
    .ok (.single c)

/-- The character after the next one. In verbose mode blanks and one number sign between the two
are passed over. -/
def Flags.peekSecond (f : Flags) (cs : List Char) : Option Char :=
  if !f.verbose then cs[1]?
  else
    let ahead := cs.drop 1
    let found := match ahead.dropWhile Text.isBlank with
      | '#' :: rest => rest.dropWhile Text.isBlank
      | rest => rest
    match found with
    | c :: _ => some c
    | [] => ahead.head?

/-- Reads an item: a character, a class, or a range between two characters. A hyphen before the
closing bracket or before another hyphen makes no range. -/
def Flags.bracketItem (f : Flags) (cs : List Char) : Except Fault (CharSet × List Char) := do
  let (a, cs) ← f.bracketAtom cs
  match f.skip cs with
  | [] => .error .bracketUnclosed
  | cs@('-' :: ahead) =>
    let second := f.peekSecond cs
    if second = some ']' || second = some '-' then do
      let s ← f.bracketSet a
      .ok (s, cs)
    else do
      let (b, rest) ← f.bracketAtom (f.skip ahead)
      let first ← f.bracketChar a
      let last ← f.bracketChar b
      if last < first then .error (.rangeReversed first last)
      else .ok (.range first last, rest)
  | cs => do
    let s ← f.bracketSet a
    .ok (s, cs)

/-- The operation that two equal characters stand for. -/
def setOp? : Char → Char → Option SetOp
  | '&', '&' => some .inter
  | '-', '-' => some .diff
  | '~', '~' => some .symmDiff
  | _, _ => none

/-- Reads on inside a bracket, up to the one that closes the outermost. Every round uses at least
one character. -/
def Flags.bracketLoop (f : Flags) : (fuel : Nat) → List OpenBracket → List (Nested CharSet) →
    List Char → Except Fault (Nested CharSet × List Char)
  | 0, _, _, _ => .error .bracketUnclosed
  | fuel + 1, stack, items, cs =>
    match f.skip cs with
    | [] => .error .bracketUnclosed
    | '[' :: cs =>
      -- a class between colons, or else a bracket of its own
      match f.namedClass cs with
      | some (s, rest) => do
        let s ← s
        f.bracketLoop fuel stack (⟨s, 0⟩ :: items) rest
      | none => do
        let (negated, inner, rest) ← f.openBracket cs
        f.bracketLoop fuel (.opened items negated :: stack) inner rest
    | ']' :: cs =>
      -- an operation that is open takes what was listed as its second operand
      let (whole, stack) := closeOp f (joinItems items) stack
      match stack with
      | .opened outer negated :: stack => do
        let s ← f.foldNegate negated whole.value
        let closed : Nested CharSet := ⟨s, 1 + whole.depth⟩
        if stack.isEmpty then .ok (closed, cs)
        else f.bracketLoop fuel stack (closed :: outer) cs
      | _ => .error .bracketUnclosed
    | c :: cs =>
      match setOp? c (cs.headD ' ') with
      | some op =>
        let (first, stack) := closeOp f (joinItems items) stack
        f.bracketLoop fuel (.operand op first :: stack) [] (cs.drop 1)
      | none => do
        let (s, rest) ← f.bracketItem (c :: cs)
        f.bracketLoop fuel stack (⟨s, 0⟩ :: items) rest

/-- Reads a bracket, after its opening character. -/
def Flags.bracket (f : Flags) (cs : List Char) : Except Fault (Nested CharSet × List Char) := do
  let (negated, items, rest) ← f.openBracket cs
  f.bracketLoop (cs.length + 1) [.opened [] negated] items rest

end StreamVerdict.Regex
