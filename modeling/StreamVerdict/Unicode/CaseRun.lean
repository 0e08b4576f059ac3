/-!
# Runs of case pairs

Case mappings move whole runs of characters by one distance. A table is a list of such runs,
read forwards to map a character and backwards to find the characters that map to it.
-/

namespace StreamVerdict.Unicode

/-- Every `stride`-th code point from `first` to `last` is mapped to the one `offset` away. -/
structure CaseRun where
  first : Nat
  last : Nat
  stride : Nat
  offset : Int
  deriving DecidableEq

namespace CaseRun

/-- Whether the run maps the code point. -/
def covers (r : CaseRun) (n : Nat) : Bool :=
  r.first ≤ n && n ≤ r.last && (n - r.first) % r.stride == 0

/-- Where the run takes a code point that it maps. -/
def shift (r : CaseRun) (n : Nat) : Nat :=
  (Int.ofNat n + r.offset).toNat

/-- The code point that the run takes to `n`, if there is one. -/
def source? (r : CaseRun) (n : Nat) : Option Nat :=
  let m := (Int.ofNat n - r.offset).toNat
  if r.covers m && r.shift m == n then some m else none

/-- Maps a code point by the first run that covers it, and leaves all others as they are. -/
def mapCode (rs : List CaseRun) (n : Nat) : Nat :=
  match rs.find? (·.covers n) with
  | some r => r.shift n
  | none => n

/-- Maps a character by the first run that covers it. -/
def mapChar (rs : List CaseRun) (c : Char) : Char :=
  match rs.find? (·.covers c.toNat) with
  | some r => Char.ofNat (r.shift c.toNat)
  | none => c

end CaseRun

end StreamVerdict.Unicode
