import StreamVerdict.Proofs.ExpectationSet.Trigger

/-!
# The answer to an event

One event in a set of expectations, place by place. The set may be in any
state, also one in which tallies are already too high, as they are after a
check that failed half way. What matters is the first place at which there is
an expectation that the event is meant by and that it makes exceed its quota.
The tallies of the expectations that are meant go up as far as that place, or
throughout if there is none, and only in the second case is the policy asked
and the listener told.

Main results:

* `findIdx?_of_overrun` / `findIdx?_of_clear` — the first place in both cases;
* `check_moves_tallies` — one event, place by place.
-/

namespace StreamVerdict

/-- The expectation with a tally that is higher by one. -/
def Expectation.raised (x : Expectation) : Expectation :=
  { x with seen := x.seen + 1 }

theorem Expectation.isOverrunBy_eq_exceededBy (x : Expectation) (e : Event) :
    x.isOverrunBy e = (x.pattern.accepts e && x.quota.exceededBy (x.seen + 1)) := by
  unfold isOverrunBy
  cases ha : x.pattern.accepts e with
  | false => rfl
  | true => simp [record, ha, isExceeded]

theorem Expectation.pattern_record (x : Expectation) (e : Event) :
    (x.record e).pattern = x.pattern := by
  rw [x.record_eq_after, after_pattern]

/-- An event leaves everything but the tally. -/
theorem Expectation.identity_record (x : Expectation) (e : Event) :
    ((x.record e).name, (x.record e).pattern, (x.record e).quota) =
      (x.name, x.pattern, x.quota) := by
  rw [x.record_eq_after]
  rfl

namespace ExpectationSet

variable {s : ExpectationSet} {e : Event}

/-! ## The first place -/

theorem findIdx?_of_clear {xs : List Expectation} (h : ∀ x ∈ xs, x.isOverrunBy e = false) :
    xs.findIdx? (·.isOverrunBy e) = none :=
  List.findIdx?_eq_none_iff.mpr h

theorem findIdx?_of_overrun {pre post : List Expectation} {x : Expectation}
    (hPre : ∀ y ∈ pre, y.isOverrunBy e = false) (hx : x.isOverrunBy e = true) :
    (pre ++ x :: post).findIdx? (·.isOverrunBy e) = some pre.length := by
  rw [List.findIdx?_append, findIdx?_of_clear hPre, List.findIdx?_cons, hx]
  simp

/-- The expectations after an event that overruns the one at some place. -/
theorem getElem?_of_overrun (e : Event) (pre : List Expectation) (x : Expectation)
    (post : List Expectation) (j : Nat) :
    (pre.map (·.record e) ++ x.record e :: post)[j]? =
      (pre ++ x :: post)[j]?.map fun y => if j ≤ pre.length then y.record e else y := by
  rcases Nat.lt_trichotomy j pre.length with hlt | rfl | hgt
  · simp [List.getElem?_append, hlt, Nat.le_of_lt hlt]
  · simp
  · -- behind the place nothing is different
    obtain ⟨k, hk⟩ : ∃ k, j - pre.length = k + 1 := ⟨j - pre.length - 1, by omega⟩
    have hNot : ¬ j < pre.length := by omega
    have hNot' : ¬ j ≤ pre.length := by omega
    simp [List.getElem?_append, hNot, hNot', hk]

/-! ## The listener -/

theorem notice_of_overrun {pre post : List Expectation} {x : Expectation}
    (hs : s.expectations = pre ++ x :: post) (hPre : ∀ y ∈ pre, y.isOverrunBy e = false)
    (hx : x.isOverrunBy e = true) : (s.check e).value.notice = none := by
  unfold check
  rw [hs, sweep_of_overrun hPre hx]
  rfl

/-- A listener is told of an event that triggers the set, with the expectations that are meant, as
they are then. -/
theorem notice_of_clear (h : ∀ x ∈ s.expectations, x.isOverrunBy e = false) {b : Bool}
    (hb : (s.check e).value.result = .ok b) :
    (s.check e).value.notice = if b && s.hasListener then
      some ⟨(s.check e).value.set.expectations.filter (·.pattern.accepts e), e⟩ else none := by
  have hMeant : (s.check e).value.set.expectations.filter (·.pattern.accepts e) =
      (s.expectations.filter (·.pattern.accepts e)).map (·.record e) := by
    rw [(check_of_clear h).1, List.filter_map]
    simp only [Function.comp_def, Expectation.pattern_record]
  rw [hMeant]
  unfold check at hb ⊢
  rw [sweep_of_clear h] at hb ⊢
  cases hb
  rfl

/-! ## The policy -/

/-- Whether a policy is satisfied can be told from the expectations as they are after the event. -/
theorem isSatisfiedBy_iff (trigger : Trigger) (xs : List Expectation) (e : Event) :
    trigger.IsSatisfiedBy xs e ↔ (∃ x ∈ xs, x.pattern.accepts e = true) ∧
      match trigger with
      | .any => ∃ x ∈ xs.map (·.record e),
          x.pattern.accepts e = true ∧ x.quota.min.toNat ≤ x.seen
      | .all => ∀ x ∈ xs.map (·.record e), x.quota.min.toNat ≤ x.seen
      | .firstMatch => True := by
  -- what the policies ask of a tally, as a bound on it
  have hMet (x : Expectation) : x.isMet = true ↔ x.quota.min.toNat ≤ x.seen := by
    simp [Expectation.isMet, Quota.reachedBy]
  cases trigger with
  | any =>
    simp only [Trigger.IsSatisfiedBy, List.mem_map, exists_exists_and_eq_and,
      Expectation.pattern_record, ← hMet]
    constructor
    · rintro ⟨x, hx, he, hx'⟩
      exact ⟨⟨x, hx, he⟩, x, hx, he, hx'⟩
    · exact And.right
  | all => simp only [Trigger.IsSatisfiedBy, List.forall_mem_map, hMet]
  | firstMatch => exact (and_iff_left trivial).symm

/-! ## One event -/

/--
**One event moves tallies up to the first overrun.** In a set of expectations
in any state, look for the first place at which the event is meant and one
more than the tally exceeds the quota.

1. If there is one, the answer is an over-match with the label, the bounds and
   the raised tally of the expectation there. The tallies of the expectations
   that are meant go up by one as far as that place, nothing behind it is
   different, and the listener is not told.
2. If there is none, the tallies of all expectations that are meant go up by
   one, and the answer says whether the event triggers the set: some
   expectation is meant, and, as they are then, some that is meant is met
   (`any`), all are met (`all`), or nothing else is asked (`firstMatch`). The
   listener, if there is one, is told exactly if the event triggers the set,
   and once: which expectations were meant, in order and with their raised
   tallies, and by which event.

In both cases the policy, the listener and the names, patterns and quotas stay.
-/
theorem check_moves_tallies (s : ExpectationSet) (e : Event) :
    let outcome := (s.check e).value
    let first := s.expectations.findIdx? fun x =>
      x.pattern.accepts e && x.quota.exceededBy (x.seen + 1)
    (match first with
      | some i =>
        (∃ x, s.expectations[i]? = some x ∧ outcome.result =
          .error (.overMatch ⟨x.label, x.quota.min, x.quota.max, x.seen + 1⟩)) ∧
        (∀ j, outcome.set.expectations[j]? = s.expectations[j]?.map fun x =>
          if j ≤ i ∧ x.pattern.accepts e = true then x.raised else x) ∧
        outcome.notice = none
      | none =>
        (∀ j : Nat, outcome.set.expectations[j]? = s.expectations[j]?.map fun x =>
          if x.pattern.accepts e = true then x.raised else x) ∧
        ∃ b, outcome.result = .ok b ∧
          (b = true ↔ (∃ x ∈ s.expectations, x.pattern.accepts e = true) ∧
            match s.trigger with
            | .any => ∃ x ∈ outcome.set.expectations,
                x.pattern.accepts e = true ∧ x.quota.min.toNat ≤ x.seen
            | .all => ∀ x ∈ outcome.set.expectations, x.quota.min.toNat ≤ x.seen
            | .firstMatch => True) ∧
          outcome.notice = if b && s.hasListener then
            some ⟨outcome.set.expectations.filter (·.pattern.accepts e), e⟩ else none) ∧
    outcome.set.trigger = s.trigger ∧ outcome.set.hasListener = s.hasListener ∧
    outcome.set.expectations.map (fun x => (x.name, x.pattern, x.quota)) =
      s.expectations.map fun x => (x.name, x.pattern, x.quota) := by
  intro outcome first
  have hFirst : first = s.expectations.findIdx? (·.isOverrunBy e) := by
    simp only [first, Expectation.isOverrunBy_eq_exceededBy]
  rcases exists_first_overrun e s.expectations with hClear | ⟨pre, x, post, hs, hPre, hx⟩
  · -- no expectation is overrun, so every tally that is meant goes up
    obtain ⟨hSet, -⟩ := check_of_clear hClear
    obtain ⟨b, hb, hIff⟩ := check_result_of_clear hClear
    have hNotice := notice_of_clear hClear hb
    rw [hFirst, findIdx?_of_clear hClear]
    refine ⟨⟨fun j => ?_, b, hb, ?_, hNotice⟩, ?_⟩
    · rw [hSet, List.getElem?_map]
      rfl
    · rw [hIff, hSet]
      exact isSatisfiedBy_iff s.trigger s.expectations e
    · rw [hSet, List.map_map]
      exact ⟨rfl, rfl, List.map_congr_left fun x _ => x.identity_record e⟩
  · -- `x` is the first that is overrun, and the sweep stops behind it
    obtain ⟨hSet, hResult⟩ := check_of_overrun hs hPre hx
    have hNotice := notice_of_overrun hs hPre hx
    rw [hFirst, hs, findIdx?_of_overrun hPre hx]
    refine ⟨⟨⟨x, by simp, ?_⟩, fun j => ?_, hNotice⟩, ?_⟩
    · have hRaised : x.record e = x.raised := if_pos (Bool.and_eq_true_iff.mp hx).1
      rw [hResult, hRaised]
      rfl
    · rw [hSet, getElem?_of_overrun]
      congr 1
      funext y
      -- the places up to that of `x` have seen the event, the later ones have not
      by_cases hj : j ≤ pre.length
      · rw [if_pos hj]
        simp only [hj, true_and]
        rfl
      · rw [if_neg hj, if_neg (hj ·.1)]
    · rw [hSet]
      simp [Expectation.identity_record]

end ExpectationSet

end StreamVerdict
