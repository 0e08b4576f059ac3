import StreamVerdict.Pattern
import StreamVerdict.Quota.Text

/-!
# Expectations

An expectation is a pattern with a quota: so many events of a kind are expected. It keeps a tally
of the events that its pattern has accepted.
-/

namespace StreamVerdict

/-- How often events of a kind are expected, and how many were seen. -/
structure Expectation where
  name : Option String
  pattern : Pattern
  quota : Quota
  /-- The tally. It stands for a number of 64 bits without a sign, and agrees with one as long as
  fewer than `2 ^ 64` events are seen. -/
  seen : Nat := 0
  deriving DecidableEq

namespace Expectation

/-- The name, or the pattern in words. -/
def label (x : Expectation) : String :=
  x.name.getD x.pattern.describe

/-- The expectation after an event, with its tally raised if the event is meant. -/
def record (x : Expectation) (e : Event) : Expectation :=
  if x.pattern.accepts e then { x with seen := x.seen + 1 } else x

/-- Whether enough events were seen. -/
def isMet (x : Expectation) : Bool :=
  x.quota.reachedBy x.seen

/-- Whether too many events were seen. -/
def isExceeded (x : Expectation) : Bool :=
  x.quota.exceededBy x.seen

/-- What was expected and what was seen. -/
def miscount (x : Expectation) : Miscount :=
  .ofQuota x.label x.quota x.seen

/-- The expectation with nothing seen. -/
def reset (x : Expectation) : Expectation :=
  { x with seen := 0 }

/-- The expectation in words. -/
def describe (x : Expectation) : String :=
  s!"{x.label} [count {x.quota.describe}, seen {x.seen}]"

/-! ## Tallies over several events -/

/-- The expectation after events that were all shown to it. -/
def after (x : Expectation) (es : List Event) : Expectation :=
  { x with seen := x.seen + es.countP x.pattern.accepts }

@[simp] theorem after_nil (x : Expectation) : x.after [] = x := rfl

@[simp] theorem after_pattern (x : Expectation) (es : List Event) :
    (x.after es).pattern = x.pattern := rfl

@[simp] theorem after_quota (x : Expectation) (es : List Event) :
    (x.after es).quota = x.quota := rfl

@[simp] theorem after_label (x : Expectation) (es : List Event) :
    (x.after es).label = x.label := rfl

@[simp] theorem after_seen (x : Expectation) (es : List Event) :
    (x.after es).seen = x.seen + es.countP x.pattern.accepts := rfl

@[simp] theorem after_after (x : Expectation) (es fs : List Event) :
    (x.after es).after fs = x.after (es ++ fs) := by
  simp [after, Nat.add_assoc]

theorem record_eq_after (x : Expectation) (e : Event) : x.record e = x.after [e] := by
  unfold record after
  split <;> simp [*]

@[simp] theorem reset_after (x : Expectation) (es : List Event) :
    (x.after es).reset = x.reset := rfl

/-- With nothing seen before, the number of events that are meant decides. -/
theorem isExceeded_after {x : Expectation} (h : x.seen = 0) (es : List Event) :
    (x.after es).isExceeded = x.quota.exceededBy (es.countP x.pattern.accepts) := by
  rw [isExceeded, after_seen, h, Nat.zero_add, after_quota]

/-- An expectation that has seen too many events stays so. -/
theorem isExceeded_after_append {x : Expectation} {es : List Event} (fs : List Event)
    (h : (x.after es).isExceeded = true) : (x.after (es ++ fs)).isExceeded = true := by
  refine Quota.exceededBy_mono ?_ h
  simp only [after_seen, List.countP_append]
  omega

end Expectation

end StreamVerdict
