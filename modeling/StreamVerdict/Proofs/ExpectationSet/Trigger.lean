import Mathlib.Data.List.Forall2
import StreamVerdict.Proofs.ExpectationSet.Run

/-!
# Policies

A set under one policy and the same set under another go through the same
states: the policy is asked only after the tallies have moved, and only when
no expectation was overrun. So all that it can change is whether an answer
without an error is `true`.

Two facts carry the rest. Whether a policy is satisfied can be read off the
set as it was before the event (`check_result_of_clear`), and each policy asks
for more than the next one (`Trigger.any_of_all`, `Trigger.firstMatch_of_any`).
And tallies never go down, not even in a check that fails half way
(`checkAll_growsTo`), so an expectation that is met stays met.

Main results:

* `checkAll_withTrigger` — runs under two policies;
* `check_result_of_clear` — the answer to an event that overruns nothing;
* `checkAll_growsTo` — tallies never go down;
* `policy_decides_triggering_only` — three policies side by side.
-/

namespace StreamVerdict

/-! ## Tallies never go down -/

/-- The second expectation is the first one at the same time or later: its tally may be higher, and
nothing else is different. -/
def Expectation.GrowsTo (x y : Expectation) : Prop :=
  ∃ n, y = { x with seen := x.seen + n }

namespace Expectation

theorem GrowsTo.refl (x : Expectation) : x.GrowsTo x :=
  ⟨0, rfl⟩

theorem GrowsTo.trans {x y z : Expectation} (hxy : x.GrowsTo y) (hyz : y.GrowsTo z) :
    x.GrowsTo z := by
  obtain ⟨m, rfl⟩ := hxy
  obtain ⟨n, rfl⟩ := hyz
  exact ⟨m + n, by simp only [Nat.add_assoc]⟩

theorem growsTo_record (x : Expectation) (e : Event) : x.GrowsTo (x.record e) := by
  rw [x.record_eq_after]
  exact ⟨[e].countP x.pattern.accepts, rfl⟩

theorem GrowsTo.pattern_eq {x y : Expectation} (h : x.GrowsTo y) : y.pattern = x.pattern := by
  obtain ⟨n, rfl⟩ := h
  rfl

/-- An expectation that is met stays met. -/
theorem GrowsTo.isMet {x y : Expectation} (h : x.GrowsTo y) (hx : x.isMet = true) :
    y.isMet = true := by
  obtain ⟨n, rfl⟩ := h
  simp only [Expectation.isMet, Quota.reachedBy, decide_eq_true_eq] at hx ⊢
  omega

end Expectation

namespace ExpectationSet

/-- The expectations of the second set are those of the first at the same time or later. -/
def GrowsTo (s s' : ExpectationSet) : Prop :=
  List.Forall₂ Expectation.GrowsTo s.expectations s'.expectations

theorem GrowsTo.refl (s : ExpectationSet) : s.GrowsTo s :=
  List.forall₂_same.mpr fun x _ => .refl x

theorem GrowsTo.trans {s s' s'' : ExpectationSet} (h : s.GrowsTo s') (h' : s'.GrowsTo s'') :
    s.GrowsTo s'' := by
  have hLists : ∀ {xs ys zs : List Expectation}, List.Forall₂ Expectation.GrowsTo xs ys →
      List.Forall₂ Expectation.GrowsTo ys zs → List.Forall₂ Expectation.GrowsTo xs zs := by
    intro xs ys zs hxs
    induction hxs generalizing zs with
    | nil => exact id
    | cons hx _ ih =>
      intro hys
      cases hys with
      | cons hy hys => exact .cons (hx.trans hy) (ih hys)
  exact hLists h h'

/-- Every expectation of the first set is there later on. -/
theorem GrowsTo.exists_later {s s' : ExpectationSet} (h : s.GrowsTo s') {x : Expectation}
    (hx : x ∈ s.expectations) : ∃ y ∈ s'.expectations, x.GrowsTo y := by
  obtain ⟨i, hi, rfl⟩ := List.mem_iff_getElem.mp hx
  have hi' : i < s'.expectations.length := h.length_eq ▸ hi
  exact ⟨s'.expectations[i], List.getElem_mem hi', h.get hi hi'⟩

/-- Every expectation that is there later on was there before. -/
theorem GrowsTo.exists_earlier {s s' : ExpectationSet} (h : s.GrowsTo s') {y : Expectation}
    (hy : y ∈ s'.expectations) : ∃ x ∈ s.expectations, x.GrowsTo y := by
  obtain ⟨i, hi', rfl⟩ := List.mem_iff_getElem.mp hy
  have hi : i < s.expectations.length := h.length_eq ▸ hi'
  exact ⟨s.expectations[i], List.getElem_mem hi, h.get hi hi'⟩

/-- The patterns of a set stay the same, so the same events are meant. -/
theorem GrowsTo.exists_accepts_iff {s s' : ExpectationSet} (h : s.GrowsTo s') (e : Event) :
    (∃ x ∈ s'.expectations, x.pattern.accepts e = true) ↔
      ∃ x ∈ s.expectations, x.pattern.accepts e = true := by
  constructor
  · rintro ⟨y, hy, he⟩
    obtain ⟨x, hx, hxy⟩ := h.exists_earlier hy
    rw [hxy.pattern_eq] at he
    exact ⟨x, hx, he⟩
  · rintro ⟨x, hx, he⟩
    obtain ⟨y, hy, hxy⟩ := h.exists_later hx
    rw [← hxy.pattern_eq] at he
    exact ⟨y, hy, he⟩

/-- A set whose expectations are all met stays so. -/
theorem GrowsTo.forall_isMet {s s' : ExpectationSet} (h : s.GrowsTo s')
    (hs : ∀ x ∈ s.expectations, x.isMet = true) : ∀ y ∈ s'.expectations, y.isMet = true := by
  intro y hy
  obtain ⟨x, hx, hxy⟩ := h.exists_earlier hy
  exact hxy.isMet (hs x hx)

/-- A check leaves some tallies and raises others, also when it stops half way. -/
theorem check_growsTo (s : ExpectationSet) (e : Event) : s.GrowsTo (s.check e).value.set := by
  have hRecord (xs : List Expectation) :
      List.Forall₂ Expectation.GrowsTo xs (xs.map (·.record e)) :=
    List.forall₂_map_right_iff.mpr (List.forall₂_same.mpr fun x _ => x.growsTo_record e)
  unfold GrowsTo
  rcases exists_first_overrun e s.expectations with hClear | ⟨pre, x, post, hs, hPre, hx⟩
  · rw [(check_of_clear hClear).1]
    exact hRecord _
  · rw [(check_of_overrun hs hPre hx).1, hs]
    -- the expectations after the one that is overrun do not see the event
    refine List.rel_append (hRecord pre) (.cons (x.growsTo_record e) ?_)
    exact List.forall₂_same.mpr fun y _ => .refl y

/-- A run of checks takes no tally down. -/
theorem checkAll_growsTo (s : ExpectationSet) (es : List Event) : s.GrowsTo (s.checkAll es).1 := by
  induction es generalizing s with
  | nil => exact .refl s
  | cons e es ih => exact (s.check_growsTo e).trans (ih _)

end ExpectationSet

/-! ## When a policy is satisfied -/

/-- Whether a policy is satisfied by an event that overruns nothing, given the expectations before
it:

* `any`: some expectation is meant, and met with this event;
* `all`: some expectation is meant, and all are met with this event;
* `firstMatch`: some expectation is meant. -/
def Trigger.IsSatisfiedBy (trigger : Trigger) (xs : List Expectation) (e : Event) : Prop :=
  match trigger with
  | any => ∃ x ∈ xs, x.pattern.accepts e = true ∧ (x.record e).isMet = true
  | all => (∃ x ∈ xs, x.pattern.accepts e = true) ∧ ∀ x ∈ xs, (x.record e).isMet = true
  | firstMatch => ∃ x ∈ xs, x.pattern.accepts e = true

namespace Trigger

variable {xs : List Expectation} {e : Event}

theorem any_of_all (h : all.IsSatisfiedBy xs e) : any.IsSatisfiedBy xs e := by
  obtain ⟨⟨x, hx, he⟩, hMet⟩ := h
  exact ⟨x, hx, he, hMet x hx⟩

theorem firstMatch_of_any (h : any.IsSatisfiedBy xs e) : firstMatch.IsSatisfiedBy xs e := by
  obtain ⟨x, hx, he, -⟩ := h
  exact ⟨x, hx, he⟩

/-- The policy is asked about the expectations that were meant and about all of them, as they are
after the event. -/
theorem isTriggered_iff (trigger : Trigger) (xs : List Expectation) (e : Event) :
    ExpectationSet.isTriggered trigger ((xs.filter (·.pattern.accepts e)).map (·.record e))
        (xs.map (·.record e)) = true ↔ trigger.IsSatisfiedBy xs e := by
  have hMeant : (!((xs.filter (·.pattern.accepts e)).map (·.record e)).isEmpty) = true ↔
      ∃ x ∈ xs, x.pattern.accepts e = true := by
    simp [List.filter_eq_nil_iff]
  unfold ExpectationSet.isTriggered
  rw [Bool.and_eq_true, hMeant]
  cases trigger with
  | any =>
    -- an expectation that is meant and met is in particular meant
    simp only [IsSatisfiedBy, List.any_map, List.any_eq_true, List.mem_filter, Function.comp_apply]
    constructor
    · rintro ⟨-, x, ⟨hx, he⟩, hMet⟩
      exact ⟨x, hx, he, hMet⟩
    · rintro ⟨x, hx, he, hMet⟩
      exact ⟨⟨x, hx, he⟩, x, ⟨hx, he⟩, hMet⟩
  | all =>
    simp only [IsSatisfiedBy, List.all_map, List.all_eq_true, Function.comp_apply]
  | firstMatch => exact and_iff_left rfl

end Trigger

namespace ExpectationSet

/-- The answer to an event that overruns nothing. -/
theorem check_result_of_clear {s : ExpectationSet} {e : Event}
    (h : ∀ x ∈ s.expectations, x.isOverrunBy e = false) :
    ∃ b, (s.check e).value.result = .ok b ∧
      (b = true ↔ s.trigger.IsSatisfiedBy s.expectations e) := by
  refine ⟨_, ?_, s.trigger.isTriggered_iff s.expectations e⟩
  unfold check
  rw [sweep_of_clear h]
  rfl

/-- An answer that is no error means that nothing was overrun. -/
theorem clear_of_check_ok {s : ExpectationSet} {e : Event} {b : Bool}
    (h : (s.check e).value.result = .ok b) : ∀ x ∈ s.expectations, x.isOverrunBy e = false := by
  rcases exists_first_overrun e s.expectations with hClear | ⟨pre, x, post, hs, hPre, hx⟩
  · exact hClear
  · rw [(check_of_overrun hs hPre hx).2] at h
    cases h

/-- An answer that is no error says whether the policy was satisfied. -/
theorem check_ok_iff {s : ExpectationSet} {e : Event} {b : Bool}
    (h : (s.check e).value.result = .ok b) :
    b = true ↔ s.trigger.IsSatisfiedBy s.expectations e := by
  obtain ⟨b', hb', hIff⟩ := check_result_of_clear (clear_of_check_ok h)
  rw [h, Except.ok.injEq] at hb'
  rw [hb', hIff]

/-! ## One set under several policies -/

/-- The set under another policy. -/
def withTrigger (s : ExpectationSet) (trigger : Trigger) : ExpectationSet :=
  { s with trigger }

/-- The error of an answer, if it is one. What the answer says of triggering is left out. -/
def fault? : Except Error Bool → Option Error
  | .ok _ => none
  | .error err => some err

/-- Whether an event overruns something does not depend on the policy, and then neither does what
the event does to the tallies, nor the error. -/
theorem check_withTrigger (s : ExpectationSet) (trigger : Trigger) (e : Event) :
    ((s.withTrigger trigger).check e).value.set = (s.check e).value.set.withTrigger trigger ∧
      fault? ((s.withTrigger trigger).check e).value.result = fault? (s.check e).value.result := by
  -- both sets have the same expectations, so the same one is overrun first, or none
  rcases exists_first_overrun e s.expectations with hClear | ⟨pre, x, post, hs, hPre, hx⟩
  · obtain ⟨hSet, b, hb⟩ := check_of_clear hClear
    obtain ⟨hSet', b', hb'⟩ := check_of_clear (s := s.withTrigger trigger) hClear
    rw [hSet, hSet', hb, hb']
    exact ⟨rfl, rfl⟩
  · obtain ⟨hSet, hErr⟩ := check_of_overrun hs hPre hx
    obtain ⟨hSet', hErr'⟩ := check_of_overrun (s := s.withTrigger trigger) hs hPre hx
    rw [hSet, hSet', hErr, hErr']
    exact ⟨rfl, rfl⟩

/-- Under another policy a run takes the set through the same tallies. -/
theorem checkAll_withTrigger (s : ExpectationSet) (trigger : Trigger) (es : List Event) :
    ((s.withTrigger trigger).checkAll es).1 = (s.checkAll es).1.withTrigger trigger := by
  -- after the first event the set is again one set under two policies
  induction es generalizing s with
  | nil => rfl
  | cons e es ih =>
    show (((s.withTrigger trigger).check e).value.set.checkAll es).1 = _
    rw [(s.check_withTrigger trigger e).1, ih]
    rfl

/-- What becomes of an event that comes after others, under a policy. -/
def outcomeAfter (s : ExpectationSet) (trigger : Trigger) (es : List Event) (e : Event) :
    Outcome :=
  (((s.withTrigger trigger).checkAll es).1.check e).value

section OutcomeAfter

variable {s : ExpectationSet} {trigger trigger' : Trigger} {es : List Event} {e : Event}

theorem outcomeAfter_eq : s.outcomeAfter trigger es e =
    (((s.checkAll es).1.withTrigger trigger).check e).value := by
  rw [outcomeAfter, checkAll_withTrigger]

theorem outcomeAfter_set : (s.outcomeAfter trigger es e).set =
    (s.checkAll (es ++ [e])).1.withTrigger trigger := by
  rw [outcomeAfter_eq, (check_withTrigger _ trigger e).1, checkAll_append]
  rfl

theorem fault?_outcomeAfter : fault? (s.outcomeAfter trigger es e).result =
    fault? (((s.checkAll es).1).check e).value.result := by
  rw [outcomeAfter_eq, (check_withTrigger _ trigger e).2]

/-- An answer that is no error says whether the policy was satisfied. -/
theorem outcomeAfter_ok_iff {b : Bool} (h : (s.outcomeAfter trigger es e).result = .ok b) :
    (∀ x ∈ (s.checkAll es).1.expectations, x.isOverrunBy e = false) ∧
      (b = true ↔ trigger.IsSatisfiedBy (s.checkAll es).1.expectations e) := by
  rw [outcomeAfter_eq] at h
  have hClear := clear_of_check_ok h
  exact ⟨hClear, check_ok_iff h⟩

/-- If one policy asks for more than another, then an event that triggers under the first triggers
under the second. -/
theorem outcomeAfter_ok_of_imp
    (hImp : trigger.IsSatisfiedBy (s.checkAll es).1.expectations e →
      trigger'.IsSatisfiedBy (s.checkAll es).1.expectations e)
    (h : (s.outcomeAfter trigger es e).result = .ok true) :
    (s.outcomeAfter trigger' es e).result = .ok true := by
  obtain ⟨hClear, hIff⟩ := outcomeAfter_ok_iff h
  obtain ⟨b, hb, hIff'⟩ :=
    check_result_of_clear (s := (s.checkAll es).1.withTrigger trigger') hClear
  rw [outcomeAfter_eq, hb, hIff'.mpr (hImp (hIff.mp rfl))]

/-- An event that triggers under `all` finds all expectations met, and they stay so. -/
theorem met_of_all_ok (fs : List Event) (h : (s.outcomeAfter .all es e).result = .ok true) :
    ∀ x ∈ (s.checkAll (es ++ e :: fs)).1.expectations, x.isMet = true := by
  obtain ⟨hClear, hIff⟩ := outcomeAfter_ok_iff h
  obtain ⟨-, hMet⟩ : Trigger.all.IsSatisfiedBy (s.checkAll es).1.expectations e := hIff.mp rfl
  -- the tallies after `e` are those that the policy was asked about
  have hAfter : ∀ x ∈ (((s.checkAll es).1).check e).value.set.expectations, x.isMet = true := by
    rw [(check_of_clear hClear).1]
    exact List.forall_mem_map.mpr hMet
  rw [checkAll_append]
  exact (checkAll_growsTo _ fs).forall_isMet hAfter

/-- Once all expectations are met, an event that overruns nothing triggers exactly if it is meant
by some expectation. -/
theorem all_ok_iff_of_met {b : Bool}
    (hMet : ∀ x ∈ (s.checkAll es).1.expectations, x.isMet = true)
    (h : (s.outcomeAfter .all es e).result = .ok b) :
    b = true ↔ ∃ x ∈ s.expectations, x.pattern.accepts e = true := by
  rw [(outcomeAfter_ok_iff h).2, ← (s.checkAll_growsTo es).exists_accepts_iff e]
  exact and_iff_left fun x hx => (x.growsTo_record e).isMet (hMet x hx)

/-- Once an expectation is met, an event that is meant by it and overruns nothing triggers under
`any`. -/
theorem any_ok_of_met {x : Expectation} {fs : List Event} {b : Bool}
    (hx : x ∈ (s.checkAll es).1.expectations) (hMet : x.isMet = true)
    (he : x.pattern.accepts e = true)
    (h : (s.outcomeAfter .any (es ++ fs) e).result = .ok b) : b = true := by
  -- the expectation is still there and still met, and means the same events
  obtain ⟨y, hy, hxy⟩ : ∃ y ∈ (s.checkAll (es ++ fs)).1.expectations, x.GrowsTo y := by
    rw [checkAll_append]
    exact (checkAll_growsTo _ fs).exists_later hx
  rw [← hxy.pattern_eq] at he
  have hLater : (y.record e).isMet = true := (hxy.trans (y.growsTo_record e)).isMet hMet
  exact (outcomeAfter_ok_iff h).2.mpr ⟨y, hy, he, hLater⟩

end OutcomeAfter

/--
**A policy decides about triggering and nothing else.** Take a set, with any
tallies, under each of the policies, and any events:

1. the policies give the same set but for the policy, so the same tallies, the
   same errors and the same final checks, event by event;
2. an event that triggers under `all` triggers under `any`, and one that
   triggers under `any` triggers under `firstMatch`;
3. after an event that has triggered under `all`, every event that brings no
   error triggers exactly if it is meant by some expectation;
4. after an expectation has been met, every event that is meant by it and
   brings no error triggers under `any`.
-/
theorem policy_decides_triggering_only (s : ExpectationSet) :
    (∀ trigger trigger' es e,
      (s.outcomeAfter trigger es e).set =
        (s.outcomeAfter trigger' es e).set.withTrigger trigger ∧
      fault? (s.outcomeAfter trigger es e).result =
        fault? (s.outcomeAfter trigger' es e).result ∧
      (s.outcomeAfter trigger es e).set.checkFinal =
        (s.outcomeAfter trigger' es e).set.checkFinal) ∧
    (∀ es e,
      ((s.outcomeAfter .all es e).result = .ok true →
        (s.outcomeAfter .any es e).result = .ok true) ∧
      ((s.outcomeAfter .any es e).result = .ok true →
        (s.outcomeAfter .firstMatch es e).result = .ok true)) ∧
    (∀ es e fs f b, (s.outcomeAfter .all es e).result = .ok true →
      (s.outcomeAfter .all (es ++ e :: fs) f).result = .ok b →
        (b = true ↔ ∃ x ∈ s.expectations, x.pattern.accepts f = true)) ∧
    (∀ es fs f b, ∀ x ∈ ((s.withTrigger .any).checkAll es).1.expectations, x.isMet = true →
      x.pattern.accepts f = true → (s.outcomeAfter .any (es ++ fs) f).result = .ok b →
        b = true) := by
  refine ⟨fun trigger trigger' es e => ⟨?_, ?_, ?_⟩, fun es e => ⟨?_, ?_⟩, ?_, ?_⟩
  · rw [outcomeAfter_set, outcomeAfter_set]
    rfl
  · -- between two policies: set, fault and final check are the same
    rw [fault?_outcomeAfter, fault?_outcomeAfter]
  · rw [outcomeAfter_set, outcomeAfter_set]
    rfl
  · -- down the chain from `all` to `firstMatch`
    exact outcomeAfter_ok_of_imp Trigger.any_of_all
  · exact outcomeAfter_ok_of_imp Trigger.firstMatch_of_any
  · -- what has triggered once triggers on every later event that is meant
    intro es e fs f b he hf
    exact all_ok_iff_of_met (met_of_all_ok fs he) hf
  · intro es fs f b x hx hMet hf hb
    rw [checkAll_withTrigger] at hx
    exact any_ok_of_met hx hMet hf hb

/-- The letter `a` at least twice, and the letter `b` at least once. -/
def growingLetters : ExpectationSet where
  expectations :=
    [⟨none, ⟨[⟨Event.valueField, "a", .char 'a'⟩], []⟩, .atLeast 2, 0⟩,
      ⟨none, ⟨[⟨Event.valueField, "b", .char 'b'⟩], []⟩, .atLeast 1, 0⟩]
  trigger := .all

/-- The second `a` meets everything that is expected, and so it triggers under every policy. From
then on a `b` triggers under `all` and a `c` does not, because no expectation is meant by it. -/
theorem growingLetters_trigger :
    (growingLetters.outcomeAfter .all [.ofText "a", .ofText "b"] (.ofText "a")).result =
        .ok true ∧
      (growingLetters.outcomeAfter .firstMatch [.ofText "a", .ofText "b"] (.ofText "a")).result =
        .ok true ∧
      (growingLetters.outcomeAfter .all [.ofText "a", .ofText "b", .ofText "a"]
        (.ofText "b")).result = .ok true ∧
      (∃ x ∈ growingLetters.expectations, x.pattern.accepts (.ofText "b") = true) ∧
      (growingLetters.outcomeAfter .all [.ofText "a", .ofText "b", .ofText "a", .ofText "b"]
        (.ofText "c")).result = .ok false ∧
      ¬ ∃ x ∈ growingLetters.expectations, x.pattern.accepts (.ofText "c") = true := by
  obtain ⟨-, hImp, hAll, -⟩ := policy_decides_triggering_only growingLetters
  have ha : (growingLetters.outcomeAfter .all [.ofText "a", .ofText "b"]
      (.ofText "a")).result = .ok true := by decide +kernel
  have hb : (growingLetters.outcomeAfter .all [.ofText "a", .ofText "b", .ofText "a"]
      (.ofText "b")).result = .ok true := by decide +kernel
  have hc : (growingLetters.outcomeAfter .all [.ofText "a", .ofText "b", .ofText "a",
      .ofText "b"] (.ofText "c")).result = .ok false := by decide +kernel
  obtain ⟨hAny, hFirst⟩ := hImp [.ofText "a", .ofText "b"] (.ofText "a")
  have hLater := hAll [.ofText "a", .ofText "b"] (.ofText "a")
  refine ⟨ha, hFirst (hAny ha), hb, (hLater [] _ true ha hb).mp rfl, hc, fun h => ?_⟩
  exact Bool.false_ne_true ((hLater [.ofText "b"] _ false ha hc).mpr h)

end ExpectationSet

end StreamVerdict
