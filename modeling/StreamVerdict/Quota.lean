import StreamVerdict.Text.Natural

/-!
# Quotas

How often something is expected: at least `min` times, and at most `max` times where there is an
upper bound.
-/

namespace StreamVerdict

/-- A range of counts. Its upper end may be open. -/
structure Quota where
  min : UInt64
  max : Option UInt64
  deriving DecidableEq

namespace Quota

/-- Exactly `n` times. -/
def exactly (n : UInt64) : Quota :=
  ⟨n, some n⟩

/-- At least `n` times. -/
def atLeast (n : UInt64) : Quota :=
  ⟨n, none⟩

/-- Once or not at all. -/
def optional : Quota :=
  ⟨0, some 1⟩

/-- Any number of times. -/
def any : Quota :=
  ⟨0, none⟩

/-- Exactly once, which is what is meant when nothing is said. -/
def once : Quota :=
  exactly 1

/-- Whether a count lies above the upper bound. -/
def exceededBy (q : Quota) (n : Nat) : Bool :=
  match q.max with
  | some m => m.toNat < n
  | none => false

/-- Whether a count reaches the lower bound. -/
def reachedBy (q : Quota) (n : Nat) : Bool :=
  q.min.toNat ≤ n

/-- Whether a count lies in the range. -/
def contains (q : Quota) (n : Nat) : Bool :=
  q.reachedBy n && !q.exceededBy n

/-- The range as it is written: one number, two with a hyphen, a number to stay above, or a word. -/
def describe (q : Quota) : String :=
  match q.max with
  | some m => if m = q.min then toString m else s!"{q.min}-{m}"
  | none => if 0 < q.min then s!">{q.min - 1}" else "any"

/-! ## Growing counts -/

theorem exceededBy_iff {q : Quota} {n : Nat} :
    q.exceededBy n = true ↔ ∃ m, q.max = some m ∧ m.toNat < n := by
  unfold exceededBy
  split
  next m hm => simp [hm]
  next hm => simp [hm]

theorem contains_iff {q : Quota} {n : Nat} :
    q.contains n = true ↔ q.min.toNat ≤ n ∧ q.exceededBy n = false := by
  simp [contains, reachedBy]

@[simp] theorem exceededBy_zero (q : Quota) : q.exceededBy 0 = false := by
  rw [Bool.eq_false_iff]
  intro h
  obtain ⟨m, -, hm⟩ := exceededBy_iff.mp h
  omega

/-- A quota that a count exceeds is exceeded by every higher one. -/
theorem exceededBy_mono {q : Quota} {m n : Nat} (hmn : m ≤ n) (h : q.exceededBy m = true) :
    q.exceededBy n = true := by
  obtain ⟨k, hk, hkm⟩ := exceededBy_iff.mp h
  exact exceededBy_iff.mpr ⟨k, hk, by omega⟩

/-- A count that goes up by one and then exceeds its quota has left the maximum. -/
theorem eq_max_of_exceededBy_succ {q : Quota} {n : Nat} (hn : q.exceededBy n = false)
    (hs : q.exceededBy (n + 1) = true) : ∃ m, q.max = some m ∧ n = m.toNat := by
  obtain ⟨m, hm, hlt⟩ := exceededBy_iff.mp hs
  refine ⟨m, hm, ?_⟩
  have hle : ¬ m.toNat < n := fun hgt =>
    Bool.eq_false_iff.mp hn (exceededBy_iff.mpr ⟨m, hm, hgt⟩)
  omega

end Quota

end StreamVerdict
