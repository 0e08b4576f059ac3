import StreamVerdict.Proofs.ExpectationSet.Run

/-!
# Sets of expectations between resets

A set is checked against events and reset from time to time. What counts is
the *stretch* since it was last reset: the events checked since then, and what
the checks answered. A stretch is a run of checks on the set with nothing
seen, whatever came before the reset, so all that is known of such runs holds
of it.

Main results:

* `stretch_eq_checkAll` — what a stretch is;
* `stretch_keeps_count` — tallies, the first error, the final check and
  resets over arbitrary sequences of checks and resets.
-/

namespace StreamVerdict

namespace ExpectationSet

/-! ## Stretches -/

/-- What can be asked of a set while a stream runs. -/
inductive Call where
  | check (e : Event)
  | reset

/-- A set with what has happened to it since it was last reset: the events that it has checked and
what it answered to them. -/
structure Stretch where
  set : ExpectationSet
  events : List Event := []
  answers : List (Except Error Bool) := []

/-- The stretch after one more call. -/
def Stretch.call (t : Stretch) : Call → Stretch
  | .check e =>
    let outcome := (t.set.check e).value
    ⟨outcome.set, t.events ++ [e], t.answers ++ [outcome.result]⟩
  | .reset => { set := t.set.reset }

/-- The stretch that calls on a set end with. -/
def stretch (s : ExpectationSet) (calls : List Call) : Stretch :=
  calls.foldl Stretch.call { set := s }

/-- The stretch is a run of checks on `s`. -/
def Stretch.IsRunOf (t : Stretch) (s : ExpectationSet) : Prop :=
  s.checkAll t.events = (t.set, t.answers)

/-- One more call on a run of a set with nothing seen leaves such a run. -/
theorem Stretch.isRunOf_call {s : ExpectationSet} (hs : s.reset = s) {t : Stretch}
    (h : t.IsRunOf s) (c : Call) : (t.call c).IsRunOf s := by
  unfold IsRunOf at h ⊢
  cases c with
  | check e =>
    simp only [call]
    rw [checkAll_append, h]
    rfl
  | reset =>
    -- whatever the checks have done to the tallies, the reset takes it back
    have hSet : t.set.reset = s := by
      rw [← hs, ← reset_checkAll s t.events, h]
    simp only [call]
    rw [hSet]
    rfl

theorem stretch_eq_checkAll {s : ExpectationSet} (hs : s.reset = s) (calls : List Call) :
    (s.stretch calls).IsRunOf s := by
  have hRun : ∀ (calls : List Call) (t : Stretch), t.IsRunOf s →
      (calls.foldl Stretch.call t).IsRunOf s := by
    intro calls
    induction calls with
    | nil => exact fun t h => h
    | cons c calls ih => exact fun t h => ih _ (Stretch.isRunOf_call hs h c)
  exact hRun calls { set := s } rfl

/-- A reset that brings the first set back starts afresh. -/
theorem stretch_append_reset {s : ExpectationSet} {calls : List Call}
    (h : (s.stretch calls).set.reset = s) (later : List Call) :
    s.stretch (calls ++ .reset :: later) = s.stretch later := by
  have hStart : (s.stretch calls).call .reset = { set := s } := by
    rw [Stretch.call, h]
  rw [stretch, List.foldl_append, List.foldl_cons]
  exact congrArg (List.foldl Stretch.call · later) hStart

/--
**A set keeps count of every stretch.** For a set with nothing seen and any
sequence of checks and resets:

1. the checks since the last reset have all succeeded exactly as long as no
   expectation is meant by more of their events than it may be;
2. while they have, every tally is the number of events that are meant and
   stays within its maximum;
3. the next check then fails exactly if it makes some number of events exceed
   its maximum, and reports the first such expectation, with one event more
   than its maximum;
4. the final check then passes exactly if every tally is in its quota, and
   otherwise lists the expectations below their minimum, in order, with their
   tallies;
5. a reset brings the first set back, whatever came before it.
-/
theorem stretch_keeps_count {s : ExpectationSet} (hs : ∀ x ∈ s.expectations, x.seen = 0)
    (calls : List Call) :
    let t := s.stretch calls
    (IsClean t.answers ↔
      ∀ x ∈ s.expectations, x.quota.exceededBy (t.events.countP x.pattern.accepts) = false) ∧
    (IsClean t.answers →
      t.set = { s with expectations := s.expectations.map fun x =>
        { x with seen := t.events.countP x.pattern.accepts } } ∧
      (∀ x ∈ t.set.expectations, ∀ m, x.quota.max = some m → x.seen ≤ m.toNat) ∧
      (∀ e,
        match s.expectations.find? fun x =>
          x.quota.exceededBy ((t.events ++ [e]).countP x.pattern.accepts) with
        | none => ∃ b, (t.set.check e).value.result = .ok b
        | some x => ∃ m, x.quota.max = some m ∧ (t.set.check e).value.result =
            .error (.overMatch ⟨x.label, x.quota.min, some m, m.toNat + 1⟩)) ∧
      (t.set.checkFinal = .ok true ↔ ∀ x ∈ t.set.expectations, x.quota.contains x.seen = true) ∧
      (t.set.checkFinal ≠ .ok true → t.set.checkFinal = .error (.underMatch
        ((t.set.expectations.filter fun x => x.seen < x.quota.min.toNat).map (·.miscount))))) ∧
    t.set.reset = s ∧
    ∀ later, s.stretch (calls ++ .reset :: later) = s.stretch later := by
  intro t
  have hFresh : s.reset = s := reset_of_seen_zero hs
  have hRun : s.checkAll t.events = (t.set, t.answers) := stretch_eq_checkAll hFresh calls
  have hClean : IsClean t.answers ↔ (s.after t.events).IsWithin := by
    have := checkAll_clean_iff (isWithin_of_seen_zero hs) t.events
    rwa [hRun] at this
  have hBack : t.set.reset = s := by
    have := reset_checkAll s t.events
    rwa [hRun, hFresh] at this
  refine ⟨?_, fun h => ?_, hBack, stretch_append_reset hBack⟩
  · -- clean answers: no tally is beyond its maximum in the end
    rw [hClean, isWithin_after]
    exact forall₂_congr fun x hx => by rw [Expectation.isExceeded_after (hs x hx)]
  · -- and then the tallies are the counts of the stretch
    have hWithin : (s.after t.events).IsWithin := hClean.mp h
    have hSet : t.set = s.after t.events := by
      have := (checkAll_of_within hWithin).1
      rwa [hRun] at this
    have hKept : t.set.IsWithin := hSet ▸ hWithin
    refine ⟨hSet.trans (after_of_seen_zero hs _), ?_, fun e => ?_,
      checkFinal_eq_ok_iff_contains hKept, fun hne => ?_⟩
    · intro x hx m hm
      exact seen_le_of_isWithin hKept hx hm
    · rw [hSet]
      exact check_after_of_seen_zero hs hWithin e
    · rw [checkFinal_of_ne_ok hne, unmet_eq]

/-- The letter `a` once, and the letter `b` at least once. -/
def twoLetters : ExpectationSet where
  expectations :=
    [⟨none, ⟨[⟨Event.valueField, "a", .char 'a'⟩], []⟩, .once, 0⟩,
      ⟨none, ⟨[⟨Event.valueField, "b", .char 'b'⟩], []⟩, .atLeast 1, 0⟩]
  trigger := .all

/-- A second `a` is one too many; a reset forgives it, and then one `a` and one `b` are enough. -/
theorem twoLetters_forgiven :
    (∀ x ∈ twoLetters.expectations, x.seen = 0) ∧
      (twoLetters.stretch [.check (.ofText "a"), .check (.ofText "a"), .reset,
        .check (.ofText "a"), .check (.ofText "b")]).set.checkFinal = .ok true := by
  have hFresh : ∀ x ∈ twoLetters.expectations, x.seen = 0 := by decide
  refine ⟨hFresh, ?_⟩
  have hSpec := stretch_keeps_count hFresh [.check (.ofText "a"), .check (.ofText "a"), .reset,
    .check (.ofText "a"), .check (.ofText "b")]
  have hClean := hSpec.1.mpr (by decide +kernel)
  exact (hSpec.2.1 hClean).2.2.2.1.mpr (by decide +kernel)

end ExpectationSet

end StreamVerdict
