import StreamVerdict.ExpectationSet

/-!
# One event in a set of expectations

An event either overruns no expectation of a set, and then every tally that
it concerns goes up; or there is a first expectation that it overruns, and
then the tallies up to that one go up, the later ones stay, and the answer
is the miscount of that one.

Main results:

* `exists_first_overrun` — the two cases, with the set split at the first
  expectation that is overrun;
* `check_of_clear` / `check_of_overrun` — what a check does in each of them;
* `reset_check` — a check changes nothing but tallies.
-/

namespace StreamVerdict

/-- Whether an event is one too many for an expectation. -/
def Expectation.isOverrunBy (x : Expectation) (e : Event) : Bool :=
  x.pattern.accepts e && (x.record e).isExceeded

/-- An expectation within its quota is overrun by the very events after which it has seen too
many. -/
theorem Expectation.isOverrunBy_eq {x : Expectation} (h : x.isExceeded = false) (e : Event) :
    x.isOverrunBy e = (x.after [e]).isExceeded := by
  unfold isOverrunBy
  rw [x.record_eq_after]
  by_cases ha : x.pattern.accepts e = true
  · rw [ha, Bool.true_and]
  · rw [Bool.not_eq_true] at ha
    have hx : x.after [e] = x := by simp [after, ha]
    rw [ha, hx, h, Bool.false_and]

namespace ExpectationSet

/-! ## The sweep -/

/-- Either an event overruns nothing, or there is a first expectation that it overruns. -/
theorem exists_first_overrun (e : Event) (xs : List Expectation) :
    (∀ x ∈ xs, x.isOverrunBy e = false) ∨
      ∃ pre x post, xs = pre ++ x :: post ∧ (∀ y ∈ pre, y.isOverrunBy e = false) ∧
        x.isOverrunBy e = true := by
  cases h : xs.find? (·.isOverrunBy e) with
  | none =>
    left
    intro x hx
    simpa using List.find?_eq_none.mp h x hx
  | some x =>
    right
    obtain ⟨hx, pre, post, hxs, hPre⟩ := List.find?_eq_some_iff_append.mp h
    exact ⟨pre, x, post, hxs, fun y hy => by simpa using hPre y hy, hx⟩

theorem sweep_of_clear {e : Event} {xs : List Expectation}
    (h : ∀ x ∈ xs, x.isOverrunBy e = false) :
    sweep e xs =
      ⟨xs.map (·.record e), (xs.filter (·.pattern.accepts e)).map (·.record e), none⟩ := by
  induction xs with
  | nil => rfl
  | cons x xs ih =>
    have hx := h x List.mem_cons_self
    have hRest := ih fun y hy => h y (List.mem_cons_of_mem _ hy)
    by_cases ha : x.pattern.accepts e = true
    · have hClear : (x.record e).isExceeded = false := by
        simpa [Expectation.isOverrunBy, ha] using hx
      simp [sweep, ha, hClear, hRest]
    · -- an event that is not meant leaves the tally as it is
      simp [sweep, ha, hRest, Expectation.record]

theorem sweep_of_overrun {e : Event} {pre post : List Expectation} {x : Expectation}
    (hPre : ∀ y ∈ pre, y.isOverrunBy e = false) (hx : x.isOverrunBy e = true) :
    sweep e (pre ++ x :: post) =
      ⟨pre.map (·.record e) ++ x.record e :: post,
        (pre.filter (·.pattern.accepts e)).map (·.record e), some (x.record e)⟩ := by
  induction pre with
  | nil =>
    -- here the sweep stops, and `post` does not see the event
    rw [Expectation.isOverrunBy, Bool.and_eq_true] at hx
    simp [sweep, hx.1, hx.2]
  | cons y pre ih =>
    have hy := hPre y List.mem_cons_self
    have hRest := ih fun z hz => hPre z (List.mem_cons_of_mem _ hz)
    -- `y` stands before the overrun, so the sweep goes on whether or not `e` is meant for it
    by_cases ha : y.pattern.accepts e = true
    · have hClear : (y.record e).isExceeded = false := by
        simpa [Expectation.isOverrunBy, ha] using hy
      simp [sweep, ha, hClear, hRest]
    · simp [sweep, ha, hRest, Expectation.record]

/-! ## The check -/

variable {s : ExpectationSet} {e : Event}

theorem check_of_clear (h : ∀ x ∈ s.expectations, x.isOverrunBy e = false) :
    (s.check e).value.set = { s with expectations := s.expectations.map (·.record e) } ∧
      ∃ b, (s.check e).value.result = .ok b := by
  unfold check
  rw [sweep_of_clear h]
  exact ⟨rfl, _, rfl⟩

theorem check_of_overrun {pre post : List Expectation} {x : Expectation}
    (hs : s.expectations = pre ++ x :: post) (hPre : ∀ y ∈ pre, y.isOverrunBy e = false)
    (hx : x.isOverrunBy e = true) :
    (s.check e).value.set =
        { s with expectations := pre.map (·.record e) ++ x.record e :: post } ∧
      (s.check e).value.result = .error (.overMatch (x.record e).miscount) := by
  unfold check
  rw [hs, sweep_of_overrun hPre hx]
  exact ⟨rfl, rfl⟩

/-- A check changes nothing but tallies. -/
theorem reset_check (s : ExpectationSet) (e : Event) : (s.check e).value.set.reset = s.reset := by
  have hRecord (x : Expectation) : (x.record e).reset = x.reset := by
    rw [x.record_eq_after, Expectation.reset_after]
  rcases exists_first_overrun e s.expectations with hClear | ⟨pre, x, post, hs, hPre, hx⟩
  · rw [(check_of_clear hClear).1]
    simp [reset, hRecord]
  · rw [(check_of_overrun hs hPre hx).1]
    simp [reset, hs, hRecord]

end ExpectationSet

end StreamVerdict
