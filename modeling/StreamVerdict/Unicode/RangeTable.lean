/-!
# Sets of code points

A set of code points is kept as the ascending list of the points where membership changes:
`[0x30, 0x3A]` is the set of the ASCII digits. A table of a character property is written as a
text of gaps between such points, which `RangeTable.ofText` reads. `RangeTable.ofLines` takes a
long text line by line. The tables are those of version 15.0 of the character set.
-/

namespace StreamVerdict.Unicode

/-- A set of code points: the points where membership changes, in ascending order. -/
structure RangeTable where
  bounds : List Nat
  deriving DecidableEq

namespace RangeTable

/-- Whether an odd number of the points lies at or below `n`. -/
def oddBelow : List Nat → Nat → Bool
  | [], _ => false
  | b :: bs, n => if n < b then false else !(oddBelow bs n)

/-- Membership of a code point. -/
def containsCode (t : RangeTable) (n : Nat) : Bool :=
  oddBelow t.bounds n

/-- Membership of a character. -/
def contains (t : RangeTable) (c : Char) : Bool :=
  t.containsCode c.toNat

/-- The number of stretches of consecutive members. -/
def size (t : RangeTable) : Nat :=
  (t.bounds.length + 1) / 2

/-- Reads gaps written in base 26, most significant digit first: `a` to `z` are digits that
another one follows, `A` to `Z` end a number. Every gap is added to the point before it. -/
def readGaps : List Char → (number : Nat) → (point : Nat) → List Nat
  | [], _, _ => []
  | c :: cs, number, point =>
    if c.isUpper then
      let next := point + (number * 26 + (c.toNat - 'A'.toNat))
      next :: readGaps cs 0 next
    else
      readGaps cs (number * 26 + (c.toNat - 'a'.toNat)) point

/-- The set that a text of gaps stands for. -/
def ofText (s : String) : RangeTable :=
  ⟨readGaps s.toList 0 0⟩

/-- The set that a text of gaps stands for, given line by line. -/
def ofLines (lines : List String) : RangeTable :=
  ofText (String.join lines)

end RangeTable

/-- A set of characters under the names it is known by. -/
structure NamedTable where
  names : List String
  table : RangeTable

/-- The entry of a list of named sets that goes by `name`. -/
def NamedTable.find? (ts : List NamedTable) (name : String) : Option NamedTable :=
  ts.find? (·.names.contains name)

end StreamVerdict.Unicode
