import StreamVerdict.Regex.Group

/-!
# Reading a regular expression

An expression is read piece by piece, with a stack of the groups that are open. `parse` is the
whole of it: it accepts the expressions that keep the rules of nesting.

Main definitions:

* `Reading`: how far the reading of an expression has come;
* `Reading.step`: what one piece does to it;
* `parse`: the expression that a text stands for.
-/

namespace StreamVerdict.Regex

/-- What a group holds so far: pieces, and places where flags were set. -/
inductive Item where
  | piece (p : Nested Expr)
  | flags

/-- What was read of the group that is open, or of the whole expression. -/
structure Body where
  /-- The items of the alternative that is being read, last one first. -/
  items : List Item := []
  /-- The alternatives before it, last one first. -/
  earlier : List (Nested Expr) := []
  /-- The flags that hold at this place. -/
  flags : Flags := {}

/-- How far the reading of an expression has come. -/
structure Reading where
  /-- The group being read. -/
  body : Body := {}
  /-- The groups around it, innermost first. -/
  outer : List Body := []
  /-- The names given to groups so far. -/
  names : List String := []
  /-- The characters that lie ahead. -/
  rest : List Char

/-- The deepest nesting that an expression may have. -/
def maxDepth : Nat := 250

/-! ## The group being read -/

/-- The expression and the depth of an item. Flags match the empty text. -/
def Item.nested : Item → Nested Expr
  | piece p => p
  | flags => ⟨.empty, 0⟩

namespace Body

/-- Adds an expression to the alternative being read. -/
def push (b : Body) (e : Expr) (depth : Nat) : Body :=
  { b with items := .piece ⟨e, depth⟩ :: b.items }

/-- The alternative being read, as one expression. -/
def alternative (b : Body) : Nested Expr :=
  match b.items.reverse.map Item.nested with
  | [] => ⟨.empty, 0⟩
  | [p] => p
  | ps => ⟨Expr.seqs (ps.map (·.value)), 1 + (ps.map (·.depth)).foldl max 0⟩

/-- Ends the alternative being read and begins the next one. -/
def split (b : Body) : Body :=
  { b with items := [], earlier := b.alternative :: b.earlier }

/-- All that was read, as one expression. -/
def close (b : Body) : Nested Expr :=
  match b.split.earlier.reverse with
  | [] => ⟨.empty, 0⟩
  | [p] => p
  | p :: ps =>
    ⟨Expr.alts p.value (ps.map (·.value)), 1 + ((p :: ps).map (·.depth)).foldl max 0⟩

/-- Repeats the last piece. There must be one, and it must not be a place where flags are set. -/
def repeatLast (b : Body) (lo : Nat) (hi : Option Nat) : Except Fault Body :=
  match b.items with
  | .piece p :: items =>
    .ok { b with items := .piece ⟨.times p.value lo hi, 1 + p.depth⟩ :: items }
  | _ => .error .repetitionMissing

end Body

/-! ## Pieces -/

/-- The expression of a single piece. -/
def Flags.atomExpr (f : Flags) : Atom → Except Fault Expr
  | .char c isByte =>
    if f.unicode then .ok (.chars (f.fold (.single c)))
    else if isByte && 128 ≤ c.toNat then .error .partOfCharacter
    else if c.toNat < 128 then .ok (.chars (f.fold (.single c)))
    else .ok (.chars (.single c))
  | .set s => .ok (.chars s)
  | .assert a => .ok (.assert a)

/-- The expression of a dot. -/
def Flags.dot (f : Flags) : Except Fault Expr :=
  if !f.unicode then .error .partOfCharacter
  else if f.dotAll then .ok (.chars .all)
  else if f.crlf then .ok (.chars (.except ['\r', '\n']))
  else .ok (.chars (.except ['\n']))

/-- Drops a question mark, which would make a repetition prefer fewer passes. -/
def dropLazy : List Char → List Char
  | '?' :: cs => cs
  | cs => cs

/-- Reads the bounds of a repetition, after the opening brace. -/
def Flags.bounds (f : Flags) (cs : List Char) :
    Except Fault (Nat × Option Nat × List Char) := do
  let (lo, cs) ← f.count (f.skip cs)
  let (hi, cs) ← match cs with
    | ',' :: cs =>
      match f.skip cs with
      -- the brace is left where it is, to be read with the other forms
      | '\x7d' :: cs => .ok (none, '\x7d' :: cs)
      | cs => do
        let (hi, cs) ← f.count cs
        .ok (some hi, cs)
    | cs => .ok (some lo, cs)
  match cs with
  | '\x7d' :: cs =>
    if hi.any (· < lo) then .error .repetitionReversed
    else .ok (lo, hi, dropLazy (f.skip cs))
  | _ => .error .repetitionUnclosed

/-! ## Groups and the whole expression -/

namespace Reading

/-- Opens a group, or sets flags. -/
def open? (r : Reading) (cs : List Char) : Except Fault Reading := do
  let (opening, rest) ← r.body.flags.opening cs
  match opening with
  | .flags f => .ok { r with body := { r.body with items := .flags :: r.body.items, flags := f },
                             rest }
  | .group f name =>
    let names ← match name with
      | none => .ok r.names
      | some n => if n ∈ r.names then .error (.groupNameRepeated n) else .ok (n :: r.names)
    .ok { body := { flags := f }, outer := r.body :: r.outer, names, rest }

/-- Closes the group being read. It becomes one piece of the group around it, whose flags hold
again. -/
def close? (r : Reading) (rest : List Char) : Except Fault Reading :=
  match r.outer with
  | [] => .error .groupUnopened
  | b :: outer =>
    let p := r.body.close
    .ok { r with body := b.push p.value (1 + p.depth), outer, rest }

/-- Adds one expression to the group being read. -/
def push (r : Reading) (e : Expr) (rest : List Char) : Reading :=
  { r with body := r.body.push e 0, rest }

/-- Repeats the last piece of the group being read. -/
def repeat? (r : Reading) (lo : Nat) (hi : Option Nat) (rest : List Char) :
    Except Fault Reading := do
  let body ← r.body.repeatLast lo hi
  .ok { r with body, rest }

/-- Reads one piece that begins with `c`. -/
def step (r : Reading) (c : Char) (cs : List Char) : Except Fault Reading :=
  let f := r.body.flags
  match c with
  | '(' => r.open? cs
  | ')' => r.close? cs
  | '|' => .ok { r with body := r.body.split, rest := cs }
  | '[' => do
    let (s, rest) ← f.bracket cs
    .ok { r with body := r.body.push (.chars s.value) s.depth, rest }
  | '?' => r.repeat? 0 (some 1) (dropLazy cs)
  | '*' => r.repeat? 0 none (dropLazy cs)
  | '+' => r.repeat? 1 none (dropLazy cs)
  | '\x7b' => do
    -- that something can be repeated is checked before the bounds are read
    let _ ← r.body.repeatLast 0 none
    let (lo, hi, rest) ← f.bounds cs
    r.repeat? lo hi rest
  | '\\' => do
    let (a, rest) ← f.escape cs
    let e ← f.atomExpr a
    .ok (r.push e rest)
  | '.' => do
    let e ← f.dot
    .ok (r.push e cs)
  | '^' => .ok (r.push (.assert (if f.multiLine then .lineStart f.crlf else .textStart)) cs)
  | '$' => .ok (r.push (.assert (if f.multiLine then .lineEnd f.crlf else .textEnd)) cs)
  | _ => do
    let e ← f.atomExpr (.char c false)
    .ok (r.push e cs)

/-- Reads to the end. Every piece uses at least one character. -/
def finish : (fuel : Nat) → Reading → Except Fault (Nested Expr)
  | 0, _ => .error .groupUnclosed
  | fuel + 1, r =>
    match r.body.flags.skip r.rest with
    | [] => if r.outer.isEmpty then .ok r.body.close else .error .groupUnclosed
    | c :: cs => do
      let r ← r.step c cs
      r.finish fuel

end Reading

/-- The expression that a text stands for. -/
def parse (cs : List Char) : Except Fault Expr := do
  let p ← Reading.finish (cs.length + 1) { rest := cs }
  if maxDepth < p.depth then .error (.tooDeep maxDepth) else .ok p.value

end StreamVerdict.Regex
