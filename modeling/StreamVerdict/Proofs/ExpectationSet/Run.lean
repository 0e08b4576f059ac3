import Mathlib.Data.List.Find
import StreamVerdict.Proofs.ExpectationSet.OneEvent

/-!
# Runs of checks

A set is checked against one event after the other. Everything that can be
said of such a run follows from one induction over its events, and the
invariant has two sides. As long as no expectation has been meant by more
events than it may, every tally is the number of these events. The first event
after which one has been meant by too many ends that for good: the check of it
fails, tallies of later expectations fall behind, and no later event can bring
the number of events back into the quota.

Main results:

* `checkAll_of_within` / `checkAll_clean_iff` — the two sides;
* `check_after` / `miscount_of_overrun` — the answer to the next event;
* `overMatches_eq_nil_iff` — the events too many;
* `quotas_kept_iff` — when no tally is too high or too low in the end.
-/

namespace StreamVerdict

namespace ExpectationSet

/-- The set after events that were all shown to every expectation. -/
def after (s : ExpectationSet) (es : List Event) : ExpectationSet :=
  { s with expectations := s.expectations.map (·.after es) }

@[simp] theorem after_nil (s : ExpectationSet) : s.after [] = s := by
  simp [after]

@[simp] theorem after_after (s : ExpectationSet) (es fs : List Event) :
    (s.after es).after fs = s.after (es ++ fs) := by
  simp [after]

/-- No expectation has seen too many events. -/
def IsWithin (s : ExpectationSet) : Prop :=
  ∀ x ∈ s.expectations, x.isExceeded = false

theorem isWithin_after {s : ExpectationSet} {es : List Event} :
    (s.after es).IsWithin ↔ ∀ x ∈ s.expectations, (x.after es).isExceeded = false := by
  simp [IsWithin, after]

/-- Events that leave a set within its quotas do so at each of their beginnings. -/
theorem isWithin_of_append {s : ExpectationSet} (es : List Event) {fs : List Event}
    (h : (s.after (es ++ fs)).IsWithin) : (s.after es).IsWithin := by
  rw [isWithin_after] at h ⊢
  intro x hx
  rw [Bool.eq_false_iff]
  intro hes
  exact Bool.eq_false_iff.mp (h x hx) (Expectation.isExceeded_after_append fs hes)

/-- A set with nothing seen is within its quotas. -/
theorem isWithin_of_seen_zero {s : ExpectationSet} (h : ∀ x ∈ s.expectations, x.seen = 0) :
    s.IsWithin := by
  intro x hx
  rw [Expectation.isExceeded, h x hx, Quota.exceededBy_zero]

/-! ## One check of a set within its quotas -/

/-- What one check does to a set within its quotas. -/
theorem check_of_isWithin {s : ExpectationSet} (h : s.IsWithin) (e : Event) :
    ((s.after [e]).IsWithin ∧ (s.check e).value.set = s.after [e] ∧
        ∃ b, (s.check e).value.result = .ok b) ∨
      ∃ x, s.expectations.find? (fun x => (x.after [e]).isExceeded) = some x ∧
        (s.check e).value.result = .error (.overMatch (x.after [e]).miscount) := by
  have hRecord : ∀ xs : List Expectation, xs.map (·.record e) = xs.map (·.after [e]) := fun xs =>
    List.map_congr_left fun x _ => x.record_eq_after e
  rcases exists_first_overrun e s.expectations with hClear | ⟨pre, x, post, hs, hPre, hx⟩
  · -- every tally that is meant goes up, and none is too high then
    left
    obtain ⟨hSet, hResult⟩ := check_of_clear hClear
    refine ⟨isWithin_after.mpr fun x hx => ?_, ?_, hResult⟩
    · rw [← Expectation.isOverrunBy_eq (h x hx)]
      exact hClear x hx
    · rw [hSet, hRecord, after]
  · right
    -- the first expectation that is overrun is the first that has then seen too many
    have hPreMem : ∀ y ∈ pre, y ∈ s.expectations := fun y hy => by
      rw [hs]
      exact List.mem_append_left _ hy
    have hXMem : x ∈ s.expectations := by
      rw [hs]
      exact List.mem_append_right _ List.mem_cons_self
    refine ⟨x, ?_, ?_⟩
    · rw [List.find?_eq_some_iff_append]
      refine ⟨?_, pre, post, hs, fun y hy => ?_⟩
      · rw [← Expectation.isOverrunBy_eq (h x hXMem)]
        exact hx
      · rw [← Expectation.isOverrunBy_eq (h y (hPreMem y hy)), hPre y hy]
        rfl
    · rw [(check_of_overrun hs hPre hx).2, x.record_eq_after]

/-! ## Runs of checks -/

/-- Checks events one after the other. Besides the set as it is afterwards, this gives the answers
in order. -/
def checkAll (s : ExpectationSet) : List Event → ExpectationSet × List (Except Error Bool)
  | [] => (s, [])
  | e :: es =>
    let outcome := (s.check e).value
    let rest := outcome.set.checkAll es
    (rest.1, outcome.result :: rest.2)

theorem checkAll_append (s : ExpectationSet) (es fs : List Event) :
    s.checkAll (es ++ fs) =
      (((s.checkAll es).1.checkAll fs).1,
        (s.checkAll es).2 ++ ((s.checkAll es).1.checkAll fs).2) := by
  induction es generalizing s with
  | nil => rfl
  | cons e es ih => simp only [List.cons_append, checkAll, ih]

/-- Checks change nothing but tallies. -/
theorem reset_checkAll (s : ExpectationSet) (es : List Event) :
    (s.checkAll es).1.reset = s.reset := by
  induction es generalizing s with
  | nil => rfl
  | cons e es ih => rw [checkAll, ih, reset_check]

/-- No answer is an error. -/
def IsClean (answers : List (Except Error Bool)) : Prop :=
  ∀ r ∈ answers, ∃ b, r = .ok b

/-- While no expectation is meant by too many events, every tally keeps up with them. -/
theorem checkAll_of_within {s : ExpectationSet} {es : List Event} (h : (s.after es).IsWithin) :
    (s.checkAll es).1 = s.after es ∧ IsClean (s.checkAll es).2 := by
  induction es generalizing s with
  | nil => exact ⟨(after_nil s).symm, by simp [IsClean, checkAll]⟩
  | cons e es ih =>
    have hs : s.IsWithin := by
      have := isWithin_of_append [] h
      rwa [after_nil] at this
    have he : (s.after [e]).IsWithin := isWithin_of_append [e] h
    -- `e` overruns nothing, and the other events start from the set after it
    rcases check_of_isWithin hs e with ⟨-, hSet, b, hb⟩ | ⟨x, hx, -⟩
    · have hRest := ih (s := s.after [e]) (by simpa using h)
      rw [checkAll, hSet, hb]
      refine ⟨by rw [hRest.1]; simp, ?_⟩
      simpa [IsClean] using hRest.2
    · -- an expectation that `e` overruns would have seen too many in the end
      have hFound := List.find?_some hx
      exact absurd (isWithin_after.mp he x (List.mem_of_find?_eq_some hx)) (by simpa using hFound)

/-- Checks fail on no event exactly as long as no expectation is meant by too many. -/
theorem checkAll_clean_iff {s : ExpectationSet} (hs : s.IsWithin) (es : List Event) :
    IsClean (s.checkAll es).2 ↔ (s.after es).IsWithin := by
  refine ⟨fun h => ?_, fun h => (checkAll_of_within h).2⟩
  induction es generalizing s with
  | nil => rwa [after_nil]
  | cons e es ih =>
    rcases check_of_isWithin hs e with ⟨hWithin, hSet, -⟩ | ⟨x, -, hErr⟩
    · -- a clean first answer, and the rest of the answers are clean as well
      have hRest : IsClean ((s.after [e]).checkAll es).2 := fun r hr => by
        refine h r ?_
        rw [checkAll, hSet]
        exact List.mem_cons_of_mem _ hr
      simpa using ih hWithin hRest
    · -- the first answer is an error
      obtain ⟨b, hb⟩ := h _ (by rw [checkAll]; exact List.mem_cons_self)
      rw [hErr] at hb
      cases hb

/-- The miscounts that answers report of events too many, in order. -/
def overMatches (answers : List (Except Error Bool)) : List Miscount :=
  answers.filterMap fun
    | .error (.overMatch m) => some m
    | _ => none

/-- Events too many are the only errors of a check. -/
theorem check_ok_or_overMatch (s : ExpectationSet) (e : Event) :
    (∃ b, (s.check e).value.result = .ok b) ∨
      ∃ m, (s.check e).value.result = .error (.overMatch m) := by
  rcases exists_first_overrun e s.expectations with hClear | ⟨pre, x, post, hs, hPre, hx⟩
  · exact .inl (check_of_clear hClear).2
  · exact .inr ⟨_, (check_of_overrun hs hPre hx).2⟩

theorem answer_ok_or_overMatch {s : ExpectationSet} {es : List Event} {r : Except Error Bool}
    (h : r ∈ (s.checkAll es).2) : (∃ b, r = .ok b) ∨ ∃ m, r = .error (.overMatch m) := by
  induction es generalizing s with
  | nil => cases h
  | cons e es ih =>
    rw [checkAll] at h
    rcases List.mem_cons.mp h with rfl | hRest
    · exact check_ok_or_overMatch s e
    · exact ih hRest

/-- There is an event too many exactly if some expectation is meant by too many events. -/
theorem overMatches_eq_nil_iff {s : ExpectationSet} (hs : s.IsWithin) (es : List Event) :
    overMatches (s.checkAll es).2 = [] ↔ (s.after es).IsWithin := by
  rw [← checkAll_clean_iff hs, overMatches, List.filterMap_eq_nil_iff]
  refine forall₂_congr fun r hr => ?_
  rcases answer_ok_or_overMatch hr with ⟨b, rfl⟩ | ⟨m, rfl⟩ <;> simp

/-- The first event too many is the one after the maximum, and is reported as such. -/
theorem miscount_of_overrun {x : Expectation} {es : List Event} {e : Event}
    (hes : (x.after es).isExceeded = false) (he : (x.after (es ++ [e])).isExceeded = true) :
    ∃ m, x.quota.max = some m ∧
      (x.after (es ++ [e])).miscount = ⟨x.label, x.quota.min, some m, m.toNat + 1⟩ := by
  -- only an event that is meant can be the one too many
  have hStep : x.pattern.accepts e = true := by
    rw [← Bool.not_eq_false]
    intro hNo
    have hSame : x.after (es ++ [e]) = x.after es := by
      simp [Expectation.after, List.countP_append, hNo]
    rw [hSame, hes] at he
    cases he
  have hSeen : (x.after (es ++ [e])).seen = (x.after es).seen + 1 := by
    simp [List.countP_append, hStep, Nat.add_assoc]
  rw [Expectation.isExceeded, hSeen] at he
  obtain ⟨m, hm, hMax⟩ := Quota.eq_max_of_exceededBy_succ hes he
  rw [Expectation.after_quota] at hm
  refine ⟨m, hm, ?_⟩
  rw [Expectation.miscount, Miscount.ofQuota, hSeen, hMax, Expectation.after_quota, hm,
    Expectation.after_label]

/-- Which answer the next check gives, once the events so far have left the set within its
quotas. -/
theorem check_after {s : ExpectationSet} {es : List Event} (h : (s.after es).IsWithin)
    (e : Event) :
    match s.expectations.find? fun x => (x.after (es ++ [e])).isExceeded with
    | none => ∃ b, ((s.after es).check e).value.result = .ok b
    | some x =>
      ((s.after es).check e).value.result = .error (.overMatch (x.after (es ++ [e])).miscount) := by
  -- the expectations of `s.after es` are those of `s`, and keep their order
  have hFind : (s.after es).expectations.find? (fun y => (y.after [e]).isExceeded) =
      (s.expectations.find? fun x => (x.after (es ++ [e])).isExceeded).map (·.after es) := by
    rw [after, List.find?_map]
    simp
  rcases check_of_isWithin h e with ⟨hWithin, -, hOk⟩ | ⟨y, hy, hErr⟩
  · -- no tally is too high after `e`, hence none is found
    have hNone : s.expectations.find? (fun x => (x.after (es ++ [e])).isExceeded) = none := by
      rw [after_after, isWithin_after] at hWithin
      simpa [List.find?_eq_none] using hWithin
    rw [hNone]
    exact hOk
  · -- the one that is found in `s.after es` comes from one of `s`
    rw [hFind, Option.map_eq_some_iff] at hy
    obtain ⟨x, hx, rfl⟩ := hy
    rw [hx]
    simpa using hErr

/-! ## The final check -/

theorem unmet_eq_nil_iff {s : ExpectationSet} :
    s.unmet = [] ↔ ∀ x ∈ s.expectations, x.isMet = true := by
  rw [unmet, List.filter_eq_nil_iff]
  exact forall₂_congr fun x _ => by simp

theorem checkFinal_eq_ok_iff {s : ExpectationSet} :
    s.checkFinal = .ok true ↔ ∀ x ∈ s.expectations, x.isMet = true := by
  rw [← unmet_eq_nil_iff, checkFinal]
  split
  next h => simp [h]
  next h =>
    constructor
    · intro hOk
      cases hOk
    · intro hNil
      exact absurd hNil h

/-- In a set within its quotas, tallies are at most their maximum. -/
theorem seen_le_of_isWithin {s : ExpectationSet} (h : s.IsWithin) {x : Expectation}
    (hx : x ∈ s.expectations) {m : UInt64} (hm : x.quota.max = some m) : x.seen ≤ m.toNat := by
  by_contra hgt
  have hOver : x.isExceeded = true := Quota.exceededBy_iff.mpr ⟨m, hm, by omega⟩
  rw [h x hx] at hOver
  cases hOver

/-- In a set within its quotas, only tallies that are too low stand in the way of a pass. -/
theorem checkFinal_eq_ok_iff_contains {s : ExpectationSet} (h : s.IsWithin) :
    s.checkFinal = .ok true ↔ ∀ x ∈ s.expectations, x.quota.contains x.seen = true := by
  rw [checkFinal_eq_ok_iff]
  refine forall₂_congr fun x hx => ?_
  rw [Quota.contains_iff, Expectation.isMet, Quota.reachedBy, decide_eq_true_eq]
  exact (and_iff_left (h x hx)).symm

/-- With nothing seen before, every tally is in its quota after events exactly if none is too high
and none too low. -/
theorem quotas_kept_iff {s : ExpectationSet} (hs : ∀ x ∈ s.expectations, x.seen = 0)
    (es : List Event) :
    (∀ x ∈ s.expectations, x.quota.contains (es.countP x.pattern.accepts) = true) ↔
      (s.after es).IsWithin ∧ (s.after es).unmet = [] := by
  rw [isWithin_after, unmet_eq_nil_iff, after, List.forall_mem_map, ← forall₂_and]
  refine forall₂_congr fun x hx => ?_
  rw [Quota.contains_iff, Expectation.isExceeded_after (hs x hx), Expectation.isMet,
    Expectation.after_seen, hs x hx, Nat.zero_add, Expectation.after_quota, Quota.reachedBy,
    decide_eq_true_eq, and_comm]

/-- A final check that does not pass lists the expectations that were not met. -/
theorem checkFinal_of_ne_ok {s : ExpectationSet} (h : s.checkFinal ≠ .ok true) :
    s.checkFinal = .error (.underMatch (s.unmet.map (·.miscount))) := by
  unfold checkFinal at h ⊢
  split at h
  · exact absurd rfl h
  · rfl

theorem unmet_eq (s : ExpectationSet) :
    s.unmet = s.expectations.filter fun x => x.seen < x.quota.min.toNat := by
  refine List.filter_congr fun x _ => ?_
  rw [Bool.eq_iff_iff]
  simp [Expectation.isMet, Quota.reachedBy]

/-! ## Sets with nothing seen -/

theorem reset_of_seen_zero {s : ExpectationSet} (h : ∀ x ∈ s.expectations, x.seen = 0) :
    s.reset = s := by
  have hMap : s.expectations.map (·.reset) = s.expectations.map id := by
    refine List.map_congr_left fun x hx => ?_
    rw [Expectation.reset, ← h x hx, id]
  rw [reset, hMap, List.map_id]

/-- With nothing seen before, a tally after events is the number of those that are meant. -/
theorem after_of_seen_zero {s : ExpectationSet} (h : ∀ x ∈ s.expectations, x.seen = 0)
    (es : List Event) :
    s.after es =
      { s with expectations := s.expectations.map fun x =>
          { x with seen := es.countP x.pattern.accepts } } := by
  have hMap : s.expectations.map (·.after es) =
      s.expectations.map fun x => { x with seen := es.countP x.pattern.accepts } := by
    refine List.map_congr_left fun x hx => ?_
    rw [Expectation.after, h x hx, Nat.zero_add]
  rw [after, hMap]

/-- With nothing seen before, numbers of events decide about the answer to the next event: it is an
error for the first expectation whose number then exceeds its maximum. -/
theorem check_after_of_seen_zero {s : ExpectationSet} (hs : ∀ x ∈ s.expectations, x.seen = 0)
    {es : List Event} (h : (s.after es).IsWithin) (e : Event) :
    match s.expectations.find? fun x =>
      x.quota.exceededBy ((es ++ [e]).countP x.pattern.accepts) with
    | none => ∃ b, ((s.after es).check e).value.result = .ok b
    | some x => ∃ m, x.quota.max = some m ∧ ((s.after es).check e).value.result =
        .error (.overMatch ⟨x.label, x.quota.min, some m, m.toNat + 1⟩) := by
  have hNext := check_after h e
  rw [List.find?_congr fun x hx => Expectation.isExceeded_after (hs x hx) (es ++ [e])] at hNext
  split
  next hNone =>
    rw [hNone] at hNext
    exact hNext
  next x hSome =>
    rw [hSome] at hNext
    have hx := List.mem_of_find?_eq_some hSome
    have hFound := List.find?_some hSome
    -- up to `es` all was within, so it is `e` that is one too many
    have hOver : (x.after (es ++ [e])).isExceeded = true := by
      rw [Expectation.isExceeded_after (hs x hx)]
      exact hFound
    obtain ⟨m, hm, hMiscount⟩ := miscount_of_overrun (isWithin_after.mp h x hx) hOver
    exact ⟨m, hm, by rw [hNext, hMiscount]⟩

end ExpectationSet

end StreamVerdict
