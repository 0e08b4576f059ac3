import StreamVerdict.Proofs.Observer.Life

/-!
# What an observer does to a test

An observer does two kinds of things to a test: it raises its hook, which may
do what it likes, and it reports. Here they are written down in the order in
which they are done (`Deed`), for any test and any hook, and for whatever is
asked of the observer. As the count goes up by one with each event that counts,
it meets the minimum once, so nothing that waits for that is done twice; and
nothing is done after the first end.

Main definitions:

* `Observer.deeds` / `Life.deeds` — what is done on a call and on several;
* `Deed.performAll` — a test after deeds.

Main results:

* `Life.test_run` — the test after calls is the test after their deeds;
* `Life.deeds_start` — what an observer of which nothing has been asked yet does
  on any calls, by the events that count;
* `Life.count_stop`, `Life.length_raised_le`, `Life.length_verdicts` — how often
  the test is stopped, the hook is raised and a verdict is reported;
* `deeds_of_built` — the account for an observer that is built.
-/

namespace StreamVerdict

/-- Something that an observer does to a test. -/
inductive Deed where
  /-- Raises the hook, if there is one. -/
  | raise (e : Event)
  | report (r : Report)
  deriving DecidableEq

namespace Deed

/-- The event for which the hook is raised. -/
def raised? : Deed → Option Event
  | raise e => some e
  | report _ => none

/-- The events for which the hook is raised, in order. -/
def raised (ds : List Deed) : List Event :=
  ds.filterMap raised?

/-- The report, if it is a pass or a failure. -/
def verdict? : Deed → Option Report
  | report .pass => some .pass
  | report (.fail reason) => some (.fail reason)
  | report .stop | raise _ => none

/-- The passes and failures that are reported, in order. -/
def verdicts (ds : List Deed) : List Report :=
  ds.filterMap verdict?

theorem raised_append (ds ds' : List Deed) : raised (ds ++ ds') = raised ds ++ raised ds' :=
  List.filterMap_append

theorem verdicts_append (ds ds' : List Deed) :
    verdicts (ds ++ ds') = verdicts ds ++ verdicts ds' :=
  List.filterMap_append

variable {τ : Type} [TestObject τ]

/-- The test after a deed. -/
def perform (hook : Option (Event → τ → Logged τ)) (t : τ) : Deed → τ
  | raise e =>
    match hook with
    | some hook => (hook e t).value
    | none => t
  | report r => Report.tell t r

/-- The test after deeds. -/
def performAll (hook : Option (Event → τ → Logged τ)) (t : τ) (ds : List Deed) : τ :=
  ds.foldl (perform hook) t

theorem performAll_append (hook : Option (Event → τ → Logged τ)) (t : τ) (ds ds' : List Deed) :
    performAll hook t (ds ++ ds') = performAll hook (performAll hook t ds) ds' :=
  List.foldl_append

theorem performAll_reports (hook : Option (Event → τ → Logged τ)) (t : τ) (rs : List Report) :
    performAll hook t (rs.map .report) = Report.tellAll t rs :=
  List.foldl_map

end Deed

namespace Observer

variable {τ : Type}

/-! ## One call -/

/-- What an observer does on an event that counts: it raises its hook while it passes, and once the
minimum is reached it may stop the test. -/
def deedsOn (o : Observer τ) (e : Event) : List Deed :=
  let after := o.counting [e]
  let reached : Bool := after.count = o.quota.min.toNat
  (if after.passed && (!o.triggerOnCount || reached) then [.raise e] else []) ++
    if reached && o.action = .stop then [.report .stop] else []

/-- What an observer does on a call. -/
def deeds (o : Observer τ) : Call → List Deed
  | .register _ => []
  | .handle c e => if o.counts c e then o.deedsOn e else []
  | .finalize => if o.state = .finalized then [] else o.closing.map .report

/-- On a call that it ignores an observer does nothing. -/
theorem deeds_of_ignores {o : Observer τ} {c : Call} (h : o.ignores c = true) : o.deeds c = [] := by
  cases c with
  | register id => rfl
  | handle id e =>
    have hCounts : o.counts id e = false := by simpa [ignores] using h
    simp [deeds, hCounts]
  | finalize =>
    have hState : o.state = .finalized := by simpa [ignores] using h
    rw [deeds, if_pos hState]

variable [TestObject τ]

/-- An event that counts changes the test by the deeds of the observer: the hook comes before the
stop. -/
theorem handle_test_of_counts {o : Observer τ} {c : ConnectionId} {e : Event}
    (h : o.counts c e = true) (t : τ) :
    (o.handle c e t).value.test = Deed.performAll o.hook t (o.deedsOn e) := by
  have hCond : (o.state = .registered && o.registeredOn = some c && o.pattern.accepts e) = true := h
  have hRaise (o' : Observer τ) (due : Bool) (t : τ) : (o'.raiseHook due e t).value =
      Deed.performAll o'.hook t (if due then [.raise e] else []) := by
    unfold raiseHook
    cases ho : o'.hook <;> cases due <;> simp [Deed.performAll, Deed.perform]
  have hStop (due : Bool) (t : τ) : (if due then TestObject.stop t else t) =
      Deed.performAll o.hook t (if due then [.report .stop] else []) := by
    cases due <;> rfl
  unfold handle deedsOn
  rw [if_pos hCond, Deed.performAll_append]
  -- the hook comes before the stop, as in `deedsOn`
  simp only [Logged.value_bind, Logged.value_pure, hRaise, hStop]
  rfl

namespace Life

/-- The test after a call is the test after what the observer does on it. -/
theorem test_call (l : Life τ) (c : Call) :
    (l.call c).test = Deed.performAll l.observer.hook l.test (l.observer.deeds c) := by
  cases hi : l.observer.ignores c with
  | true =>
    rw [call_of_ignores hi, deeds_of_ignores hi]
    rfl
  | false =>
    cases c with
    | register id => rfl
    | handle id e =>
      have hCounts : l.observer.counts id e = true := by simpa [ignores] using hi
      rw [deeds, if_pos hCounts]
      exact handle_test_of_counts hCounts l.test
    | finalize =>
      have hState : l.observer.state ≠ .finalized := by simpa [ignores] using hi
      rw [deeds, if_neg hState, Deed.performAll_reports]
      exact congrArg Prod.snd (onStreamEnd_value hState l.test)

/-- Calls leave the hook of an observer as it is. -/
theorem hook_call (l : Life τ) (c : Call) : (l.call c).observer.hook = l.observer.hook := by
  rcases l.call_cases c with
    ⟨-, hCall⟩ | ⟨id, -, -, -, hCall⟩ | ⟨id, e, -, -, hCall, -⟩ | ⟨-, -, hCall, -⟩
  · rw [hCall]
  · rw [hCall]
  · rw [hCall]
    rfl
  · rw [hCall]

/-! ## Several calls -/

/-- What an observer does on several calls, in order. -/
def deeds (l : Life τ) : List Call → List Deed
  | [] => []
  | c :: calls => l.observer.deeds c ++ (l.call c).deeds calls

theorem deeds_concat (l : Life τ) (calls : List Call) (c : Call) :
    l.deeds (calls ++ [c]) = l.deeds calls ++ (l.run calls).observer.deeds c := by
  induction calls generalizing l with
  | nil => simp [deeds, run]
  | cons c' calls ih =>
    rw [List.cons_append, deeds, ih, deeds, run_cons, List.append_assoc]

/-- The test after calls is the test after what the observer has done on them. -/
theorem test_run (l : Life τ) (calls : List Call) :
    (l.run calls).test = Deed.performAll l.observer.hook l.test (l.deeds calls) := by
  induction calls generalizing l with
  | nil => rfl
  | cons c calls ih => rw [run_cons, ih, hook_call, test_call, deeds, Deed.performAll_append]

end Life

/-! ## Several events -/

section Events

omit [TestObject τ]

/-- What an observer does on events that count, one after the other. -/
def deedsAll (o : Observer τ) : List Event → List Deed
  | [] => []
  | e :: es => o.deedsOn e ++ (o.counting [e]).deedsAll es

theorem deedsAll_concat (o : Observer τ) (es : List Event) (e : Event) :
    o.deedsAll (es ++ [e]) = o.deedsAll es ++ (o.counting es).deedsOn e := by
  induction es generalizing o with
  | nil => simp [deedsAll]
  | cons e' es ih =>
    rw [List.cons_append, deedsAll, ih, deedsAll, counting_counting, List.append_assoc]
    rfl

variable {o : Observer τ}

/-- What is done on an event that counts, if `es` are all that have counted before. -/
theorem deedsOn_counting (h : o.count = 0) (es : List Event) (e : Event) :
    (o.counting es).deedsOn e =
      (if o.outcome.Holds o.passed (es ++ [e]) ∧
          (o.triggerOnCount = true → es.length + 1 = o.quota.min.toNat) then [.raise e] else []) ++
        if o.action = .stop ∧ es.length + 1 = o.quota.min.toNat then [.report .stop] else [] := by
  have hCount : ((o.counting es).counting [e]).count = es.length + 1 := by simp [counting, h]
  have hPassed : ((o.counting es).counting [e]).passed = true ↔
      o.outcome.Holds o.passed (es ++ [e]) := by
    rw [counting_counting]
    exact o.outcome.applyAll_snd_iff o.passed _
  have hKept : (o.counting es).quota = o.quota ∧ (o.counting es).action = o.action ∧
      (o.counting es).triggerOnCount = o.triggerOnCount := ⟨rfl, rfl, rfl⟩
  unfold deedsOn
  simp only [hCount, hKept, ← hPassed]
  cases o.triggerOnCount <;> simp [and_comm]

/-- What is done at the end, if `es` are all that have counted: one report, by the count and then by
what the events were like. -/
theorem closing_counting (h : o.count = 0) (es : List Event) :
    ∃ r, (o.counting es).closing = [r] ∧ r ≠ .stop ∧
      (o.quota.contains es.length = false →
        r = .fail (Miscount.ofQuota o.label o.quota es.length).describe) ∧
      (o.quota.contains es.length = true → o.outcome.Holds o.passed es → r = .pass) ∧
      (o.quota.contains es.length = true → ¬ o.outcome.Holds o.passed es →
        r = .fail s!"observer '{o.label}': requirements not met") := by
  have hCount : (o.counting es).count = es.length := by simp [counting, h]
  have hPassed : (o.counting es).passed = true ↔ o.outcome.Holds o.passed es :=
    o.outcome.applyAll_snd_iff o.passed es
  have hKept : (o.counting es).quota = o.quota ∧ (o.counting es).label = o.label := ⟨rfl, rfl⟩
  unfold closing
  simp only [hCount, hKept]
  by_cases hq : o.quota.contains es.length = true
  · by_cases hh : o.outcome.Holds o.passed es
    · simp [hq, hh, hPassed.mpr hh]
    · simp [hq, hh, mt hPassed.mp hh]
  · simp [hq]

/-- The test is stopped once if the minimum is not zero and is reached, and not at all otherwise. -/
theorem count_stop_deedsAll (h : o.count = 0) (es : List Event) :
    (o.deedsAll es).count (.report .stop) =
      if o.action = .stop ∧ 1 ≤ o.quota.min.toNat ∧ o.quota.min.toNat ≤ es.length then 1
      else 0 := by
  induction es using List.reverseRecOn with
  | nil =>
    -- no events, and no minimum of zero that would be reached now
    rw [if_neg]
    · rfl
    · rintro ⟨-, hPos, hle⟩
      exact absurd (Nat.le_trans hPos hle) (Nat.not_succ_le_zero 0)
  | append_singleton es e ih =>
    have hRaise (p : Prop) [Decidable p] :
        (if p then [Deed.raise e] else []).count (.report .stop) = 0 := by split <;> rfl
    rw [deedsAll_concat, List.count_append, ih, deedsOn_counting h, List.count_append, hRaise,
      List.length_append, List.length_singleton]
    -- the count goes up by one, and it is now or never that it meets the minimum
    by_cases hStop : o.action = .stop
    · simp only [hStop, true_and]
      split <;> split <;> split <;> simp <;> omega
    · simp [hStop]

/-- A hook that waits for the minimum is raised once if the observer passes when the minimum is
reached, and not at all otherwise. -/
theorem length_raised_deedsAll (h : o.count = 0) (hTrigger : o.triggerOnCount = true)
    (es : List Event) :
    (Deed.raised (o.deedsAll es)).length =
      if 1 ≤ o.quota.min.toNat ∧ o.quota.min.toNat ≤ es.length ∧
        o.outcome.Holds o.passed (es.take o.quota.min.toNat) then 1 else 0 := by
  induction es using List.reverseRecOn with
  | nil =>
    rw [if_neg]
    · rfl
    · rintro ⟨hPos, hle, -⟩
      exact absurd (Nat.le_trans hPos hle) (Nat.not_succ_le_zero 0)
  | append_singleton es e ih =>
    have hStop (p : Prop) [Decidable p] :
        Deed.raised (if p then [.report .stop] else []) = [] := by split <;> rfl
    have hRaise (p : Prop) [Decidable p] :
        (Deed.raised (if p then [.raise e] else [])).length = if p then 1 else 0 := by split <;> rfl
    rw [deedsAll_concat, deedsOn_counting h, Deed.raised_append, Deed.raised_append, hStop,
      List.append_nil, List.length_append, ih, hRaise, List.length_append, List.length_singleton]
    simp only [hTrigger, true_imp_iff]
    by_cases hNow : es.length + 1 = o.quota.min.toNat
    · -- so far the minimum was not reached, and now it is by all events together
      have hAll : (es ++ [e]).take o.quota.min.toNat = es ++ [e] := by
        rw [← hNow]
        exact List.take_of_length_le (by simp)
      have hBefore : ¬ (1 ≤ o.quota.min.toNat ∧ o.quota.min.toNat ≤ es.length ∧
          o.outcome.Holds o.passed (es.take o.quota.min.toNat)) := by
        rintro ⟨-, hle, -⟩
        omega
      rw [hAll, if_neg hBefore, Nat.zero_add]
      refine if_congr ⟨fun ⟨hh, _⟩ => ⟨?_, ?_, hh⟩, fun ⟨_, _, hh⟩ => ⟨hh, hNow⟩⟩ rfl rfl
      · omega
      · omega
    · -- the minimum is not reached by this event, so the hook stays silent
      have hLater : ¬ (o.outcome.Holds o.passed (es ++ [e]) ∧ es.length + 1 = o.quota.min.toNat) :=
        fun hDue => hNow hDue.2
      rw [if_neg hLater, Nat.add_zero]
      refine if_congr (and_congr_right fun _ => ?_) rfl rfl
      -- either it was reached before, or it is still ahead
      by_cases hle : o.quota.min.toNat ≤ es.length
      · rw [List.take_append_of_le_length hle, and_iff_right hle,
          and_iff_right (Nat.le_succ_of_le hle)]
      · refine iff_of_false (fun hDue => hle hDue.1) ?_
        rintro ⟨hle', -⟩
        omega

/-- Events bring about no verdict. -/
theorem verdicts_deedsAll (o : Observer τ) (es : List Event) :
    Deed.verdicts (o.deedsAll es) = [] := by
  have hOn (o : Observer τ) (e : Event) : Deed.verdicts (o.deedsOn e) = [] := by
    unfold deedsOn
    dsimp only
    split <;> split <;> rfl
  induction es generalizing o with
  | nil => rfl
  | cons e es ih => rw [deedsAll, Deed.verdicts_append, hOn, ih, List.append_nil]

end Events

/-! ## The account of all deeds -/

/-- An observer of which nothing has been asked yet. It may have a hook. -/
structure IsUnused (o : Observer τ) : Prop where
  waits : o.state = .unregistered
  count_eq_zero : o.count = 0
  registeredOn_eq_none : o.registeredOn = none

namespace Life

/-- After any calls an unused observer has done what the events that count make for, and once it has
been ended also what the end makes for. -/
theorem deeds_start {o : Observer τ} (h : o.IsUnused) (t : τ) (calls : List Call) :
    let qs := ((start o t).run calls).counted
    (start o t).deeds calls =
      o.deedsAll qs ++ if .finalize ∈ calls then (o.counting qs).closing.map .report else [] := by
  dsimp only
  induction calls using List.reverseRecOn with
  | nil => simp [deeds, run, start, deedsAll]
  | append_singleton calls c ih =>
    have hl : ((start o t).run calls).observer =
        o.afterCalls calls ((start o t).run calls).counted :=
      observer_run h.waits h.registeredOn_eq_none t calls
    rw [deeds_concat, run_concat, ih]
    generalize (start o t).run calls = l at hl
    have hMem (hc : c ≠ .finalize) : Call.finalize ∈ calls ++ [c] ↔ Call.finalize ∈ calls := by
      simp [Ne.symm hc]
    rcases l.call_cases c with
      ⟨hi, hSame⟩ | ⟨id, rfl, -, -, hCall⟩ | ⟨id, e, rfl, hCounts, -, hCounted⟩ |
        ⟨rfl, hState, -, hCounted⟩
    · -- an end that is ignored is not the first one
      have hFinal : Call.finalize ∈ calls ++ [c] ↔ Call.finalize ∈ calls := by
        by_cases hc : c = .finalize
        · subst hc
          have hState : l.observer.state = .finalized := of_decide_eq_true hi
          rw [hl] at hState
          simp [stage_eq_finalized_iff.mp hState]
        · exact hMem hc
      rw [deeds_of_ignores hi, hSame, List.append_nil]
      simp only [hFinal]
    · -- a registration
      rw [hCall, Observer.deeds, List.append_nil]
      simp only [hMem nofun]
    · -- events count only before the end
      have hOpen : Call.finalize ∉ calls := by
        intro hEnd
        have hState : l.observer.state = .finalized := by
          rw [hl]
          exact stage_eq_finalized_iff.mpr hEnd
        rw [(counts_iff.mp hCounts).1] at hState
        cases hState
      rw [if_neg hOpen, if_neg (mt (hMem nofun).mp hOpen), Observer.deeds, if_pos hCounts, hCounted,
        deedsAll_concat, hl, List.append_nil, List.append_nil]
      rfl
    · -- the first end, which closes what has been counted
      have hOpen : Call.finalize ∉ calls := by
        rw [hl] at hState
        exact mt stage_eq_finalized_iff.mpr hState
      rw [if_neg hOpen, if_pos (by simp), Observer.deeds, if_neg hState, hCounted, hl,
        List.append_nil]
      rfl

/-- How often the test has been stopped after calls. -/
theorem count_stop {o : Observer τ} (h : o.IsUnused) (t : τ) (calls : List Call) :
    ((start o t).deeds calls).count (.report .stop) =
      if o.action = .stop ∧ 1 ≤ o.quota.min.toNat ∧
        o.quota.min.toNat ≤ ((start o t).run calls).counted.length then 1 else 0 := by
  obtain ⟨r, hClosing, hr, -⟩ := closing_counting h.count_eq_zero ((start o t).run calls).counted
  have hOther : Deed.report r ≠ .report .stop := mt Deed.report.inj hr
  rw [deeds_start h, hClosing, List.count_append, count_stop_deedsAll h.count_eq_zero]
  split <;> split <;> simp [hOther]

/-- How often a hook that waits for the minimum has been raised after calls. -/
theorem length_raised_le {o : Observer τ} (h : o.IsUnused) (hTrigger : o.triggerOnCount = true)
    (t : τ) (calls : List Call) : (Deed.raised ((start o t).deeds calls)).length ≤ 1 := by
  obtain ⟨r, hClosing, -⟩ := closing_counting h.count_eq_zero ((start o t).run calls).counted
  have hEnd (p : Prop) [Decidable p] : Deed.raised (if p then [.report r] else []) = [] := by
    split <;> rfl
  rw [deeds_start h, hClosing, List.map_singleton, Deed.raised_append, hEnd, List.append_nil,
    length_raised_deedsAll h.count_eq_zero hTrigger]
  split <;> simp

/-- How many verdicts have been reported after calls. -/
theorem length_verdicts {o : Observer τ} (h : o.IsUnused) (t : τ) (calls : List Call) :
    (Deed.verdicts ((start o t).deeds calls)).length = if .finalize ∈ calls then 1 else 0 := by
  obtain ⟨r, hClosing, hr, -⟩ := closing_counting h.count_eq_zero ((start o t).run calls).counted
  rw [deeds_start h, hClosing, Deed.verdicts_append, verdicts_deedsAll, List.nil_append]
  split
  · cases r with
    | pass | fail reason => rfl
    | stop => exact absurd rfl hr
  · rfl

end Life

/--
**What an observer does to a test.** Whatever is asked of an observer that has
been built from a configuration, with or without a hook, for any test:

1. the test is as the deeds of the observer leave it, one after the other, and
   each call adds its own deeds to those before;
2. a registration and an event that does not count add none;
3. on an event that counts, the hook is raised at most once and then the test is
   stopped at most once. The hook is raised exactly if the events that have
   counted, with this one, are as they have to be, and if it waits for the
   minimum, their number is the minimum. The test is stopped exactly if this is
   asked for and their number is the minimum;
4. so in a whole run the test is stopped once if this is asked for and the
   minimum is not zero and has been reached, and not at all otherwise; and a
   hook that waits for the minimum is raised at most once;
5. there is no verdict before the first end and one verdict from then on;
6. the first end reports the count if it is outside the quota, else a pass if
   the events are as they have to be, else a failure, and nothing more;
7. after the first end no call does anything.
-/
theorem deeds_of_built {c : Config} {callbacks : CallbackRegistry} {built : Observer τ}
    (h : ofConfig c callbacks = .ok built) (hook : Option (Event → τ → Logged τ)) (t : τ)
    (calls : List Call) :
    let start := Life.start { built with hook := hook } t
    let life := start.run calls
    let qs := life.counted
    let min := built.quota.min.toNat
    life.test = Deed.performAll hook t (start.deeds calls) ∧
    (∀ call, start.deeds (calls ++ [call]) = start.deeds calls ++ life.observer.deeds call) ∧
    (∀ id, life.observer.deeds (.register id) = []) ∧
    (∀ id e, life.observer.counts id e = false → life.observer.deeds (.handle id e) = []) ∧
    (∀ id e, life.observer.counts id e = true →
      (life.observer.deeds (.handle id e)).Sublist [.raise e, .report .stop] ∧
      (.raise e ∈ life.observer.deeds (.handle id e) ↔
        c.Holds callbacks (qs ++ [e]) ∧ (c.triggerOnCount = true → qs.length + 1 = min)) ∧
      (.report .stop ∈ life.observer.deeds (.handle id e) ↔
        c.action = .stop ∧ qs.length + 1 = min)) ∧
    (start.deeds calls).count (.report .stop) =
      (if c.action = .stop ∧ 1 ≤ min ∧ min ≤ qs.length then 1 else 0) ∧
    (c.triggerOnCount = true → (Deed.raised (start.deeds calls)).length ≤ 1) ∧
    (Deed.verdicts (start.deeds calls)).length = (if .finalize ∈ calls then 1 else 0) ∧
    (.finalize ∉ calls → ∃ r, life.observer.deeds .finalize = [.report r] ∧
      (built.quota.contains qs.length = false →
        r = .fail (Miscount.ofQuota built.label built.quota qs.length).describe) ∧
      (built.quota.contains qs.length = true → c.Holds callbacks qs → r = .pass) ∧
      (built.quota.contains qs.length = true → ¬ c.Holds callbacks qs →
        r = .fail s!"observer '{built.label}': requirements not met")) ∧
    (.finalize ∈ calls → ∀ call, life.observer.deeds call = [] ∧
      start.run (calls ++ [call]) = life) := by
  intro start life qs min
  let o : Observer τ := { built with hook := hook }
  -- the observer as built is unused, and the hook changes nothing about that
  obtain ⟨hFresh, -, -⟩ := ofConfig_eq_ok h
  obtain ⟨hOn, hAction, hTrigger⟩ : built.registeredOn = none ∧ o.action = c.action ∧
      o.triggerOnCount = c.triggerOnCount := by
    obtain ⟨pattern, quota, outcome, -, -, rfl⟩ := exists_of_ofConfig h
    exact ⟨rfl, rfl, rfl⟩
  have hUnused : o.IsUnused := ⟨hFresh.waits, hFresh.count_eq_zero, hOn⟩
  -- all that is known of it after the calls
  have hl : life.observer = o.afterCalls calls qs :=
    Life.observer_run hUnused.waits hUnused.registeredOn_eq_none t calls
  have hStage : life.observer.state = .finalized ↔ .finalize ∈ calls := by
    rw [hl]
    exact stage_eq_finalized_iff
  have hHolds (es : List Event) : o.outcome.Holds o.passed es ↔ c.Holds callbacks es :=
    holds_iff h es
  refine ⟨Life.test_run start calls, Life.deeds_concat start calls, fun id => rfl, ?_, ?_, ?_, ?_,
    Life.length_verdicts hUnused t calls, ?_, ?_⟩
  · -- an event that does not count
    intro id e hCounts
    exact deeds_of_ignores (by simp [ignores, hCounts])
  · -- one that does: the hook is due by what holds then, the stop by the count
    intro id e hCounts
    have hNext : life.observer.deeds (.handle id e) = (o.counting qs).deedsOn e := by
      rw [deeds, if_pos hCounts, hl]
      rfl
    have hQuota : min = o.quota.min.toNat := rfl
    rw [hNext, deedsOn_counting hUnused.count_eq_zero, ← hHolds, ← hAction, ← hTrigger, hQuota]
    refine ⟨?_, by simp, by simp⟩
    show List.Sublist _ ([Deed.raise e] ++ [Deed.report .stop])
    refine List.Sublist.append ?_ ?_
    · split <;> simp
    · split <;> simp
  · -- how often the test is stopped, and how often the hook is called on a count
    rw [← hAction]
    exact Life.count_stop hUnused t calls
  · intro hWaits
    exact Life.length_raised_le hUnused (hTrigger.trans hWaits) t calls
  · -- the verdict of the first end is that on the events that have counted
    intro hOpen
    obtain ⟨r, hClosing, -, hMiscounted, hPassed, hFailed⟩ :=
      closing_counting hUnused.count_eq_zero qs
    refine ⟨r, ?_, hMiscounted, fun hq hh => hPassed hq ((hHolds qs).mpr hh),
      fun hq hh => hFailed hq (mt (hHolds qs).mp hh)⟩
    have hNext : life.observer.deeds .finalize = (o.counting qs).closing.map .report := by
      rw [deeds, if_neg (mt hStage.mp hOpen), hl]
      rfl
    rw [hNext, hClosing]
    rfl
  · -- every call after an end is ignored
    intro hEnd call
    have hi : life.observer.ignores call = true := ignores_of_finalized (hStage.mpr hEnd) call
    refine ⟨deeds_of_ignores hi, ?_⟩
    rw [Life.run_concat]
    exact Life.call_of_ignores hi

/-- A test that keeps what is done to it. -/
structure DeedRecorder where
  deeds : List Deed := []
  deriving DecidableEq

instance : TestObject DeedRecorder where
  setPassed b t := ⟨t.deeds ++ [.report (if b then .pass else .fail "")]⟩
  passed t := (Deed.verdicts t.deeds).all (· = .pass)
  stop t := ⟨t.deeds ++ [.report .stop]⟩
  recordFailure reason t := pure ⟨t.deeds ++ [.report (.fail reason)]⟩

/-- A hook that is recorded as well. -/
def recordedHook (e : Event) (t : DeedRecorder) : Logged DeedRecorder :=
  pure ⟨t.deeds ++ [.raise e]⟩

/-- In such a test the deeds are found as they were done. -/
theorem performAll_recorder (t : DeedRecorder) (ds : List Deed) :
    Deed.performAll (some recordedHook) t ds = ⟨t.deeds ++ ds⟩ := by
  induction ds generalizing t with
  | nil => simp [Deed.performAll]
  | cons d ds ih =>
    have hStep : Deed.perform (some recordedHook) t d = ⟨t.deeds ++ [d]⟩ := by
      cases d with
      | raise e => rfl
      | report r => cases r <;> rfl
    show Deed.performAll (some recordedHook) (Deed.perform (some recordedHook) t d) ds = _
    rw [ih, hStep, List.append_assoc]
    rfl

/-- Alarms have to be loud, and after two of them the test is stopped. -/
def alarmConfig : Config where
  event := "Alarm"
  count := some (.text "2-3")
  kind := .callback
  callback := some "isLoud"
  start := .fail
  action := .stop

/-- The callback of alarms. -/
def alarmCallbacks : CallbackRegistry :=
  ({} : CallbackRegistry).register "isLoud" (·.contains "loud")

def loudAlarm : Event := .ofPairs [("event", "Alarm"), ("loud", "yes")]

def quietAlarm : Event := .ofPairs [("event", "Alarm")]

/-- A loud alarm, a quiet one and a loud one, and two ends. -/
def alarmCalls : List Call :=
  [.handle ⟨"0"⟩ loudAlarm, .register ⟨"0"⟩, .handle ⟨"0"⟩ loudAlarm, .handle ⟨"0"⟩ quietAlarm,
    .handle ⟨"0"⟩ loudAlarm, .finalize, .finalize, .handle ⟨"0"⟩ loudAlarm]

/-- The test is stopped on the second alarm, although the observer does not pass just then. -/
theorem alarmConfig_stops :
    ∃ built : Observer DeedRecorder, ofConfig alarmConfig alarmCallbacks = .ok built ∧
      ((Life.start { built with hook := some recordedHook } {}).run alarmCalls).test.deeds =
        [.raise loudAlarm, .report .stop, .raise loudAlarm, .report .pass] := by
  -- the deeds, as a value of whatever is built
  obtain ⟨built, hBuilt, hDeeds⟩ := Traversal.exists_of_map_toOption
    (x := ofConfig alarmConfig alarmCallbacks)
    (f := fun built : Observer DeedRecorder =>
      (Life.start { built with hook := some recordedHook } {}).deeds alarmCalls)
    (b := [.raise loudAlarm, .report .stop, .raise loudAlarm, .report .pass]) (by decide +kernel)
  obtain ⟨hTest, -⟩ := deeds_of_built hBuilt (some recordedHook) {} alarmCalls
  refine ⟨built, hBuilt, ?_⟩
  rw [hTest, performAll_recorder]
  exact hDeeds

end Observer

end StreamVerdict
