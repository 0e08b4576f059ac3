import StreamVerdict.Proofs.Plan.Built

/-!
# The account of a stream

What a panel reports on a whole stream is its *account*. The monitor looks at
the test when the stream ends, but all that the test has heard of until then
is what the monitor itself has reported, since observers do not fail a test
while the stream lasts. So each part of the panel answers for itself: the
reasons of the account are the complaints of the monitor followed by those of
the observers.

Main results:

* `reasons_account` — the reasons for failure, in order;
* `stop_mem_account_iff` — when the test is asked to stop;
* `content_iff` — when there is nothing to complain of;
* `status_play` / `reasons_play` / `stopped_play` — the test in the end.
-/

namespace StreamVerdict.Panel

variable {τ : Type}

/-- All that a panel reports on a stream to a test that has not failed before. -/
def account (p : Panel τ) (as : List Arrival) : List Report :=
  p.transcript as ++ (p.nextAll as).closing (Report.reasons (p.transcript as)).isEmpty

/-! ## The reports -/

/-- The monitor and the observers each answer for themselves. -/
theorem reasons_account {p : Panel τ} (h : p.IsFresh) (as : List Arrival) :
    Report.reasons (p.account as) =
      p.monitor.toList.flatMap (·.complaints as) ++ p.observers.flatMap (·.complaints as) := by
  have hObservers : Report.reasons ((p.observers.map (·.nextAll as)).flatMap (·.closing)) =
      p.observers.flatMap (·.complaints as) := by
    rw [Report.reasons_flatMap, List.flatMap_map]
    exact List.flatMap_congr fun o ho => Observer.reasons_closing (h.observer_fresh o ho) as
  rw [account, Report.reasons_append, nextAll_eq, closing, Report.reasons_append, hObservers,
    ← List.append_assoc, reasons_transcript]
  congr 1
  -- what is left are the reports of the monitor, before the end of the stream and at it
  cases hm : p.monitor with
  | none => rfl
  | some m =>
    have hOwn : (Report.reasons (m.transcript as)).isEmpty = true ↔
        Report.reasons (m.transcript as) = [] := List.isEmpty_iff
    simpa using m.reasons_transcript_closing as hOwn

theorem stop_notMem_closing (p : Panel τ) (passed : Bool) : Report.stop ∉ p.closing passed := by
  rw [closing, List.mem_append, List.mem_flatMap, List.mem_flatMap]
  rintro (⟨m, -, hm⟩ | ⟨o, -, ho⟩)
  · exact m.stop_notMem_closing passed hm
  · exact o.stop_notMem_closing ho

/-- The test is asked to stop for an event too many, or because an observer that is to stop it has
reached its minimum. -/
theorem stop_mem_account_iff {p : Panel τ} (h : p.IsFresh) (as : List Arrival) :
    Report.stop ∈ p.account as ↔
      (∃ m ∈ p.monitor, ExpectationSet.overMatches (m.answers as) ≠ []) ∨
        ∃ o ∈ p.observers, o.action = .stop ∧ 1 ≤ o.quota.min.toNat ∧
          o.quota.min.toNat ≤ (o.qualifying as).length := by
  rw [account, List.mem_append, or_iff_left (stop_notMem_closing _ _), mem_transcript_iff]
  simp only [Monitor.stop_mem_transcript]
  refine or_congr_right (exists_congr fun o => and_congr_right fun ho => ?_)
  exact Observer.stop_mem_transcript_iff (h.observer_fresh o ho) as

/-- An empty panel reports nothing. -/
theorem account_of_empty {p : Panel τ} (hm : p.monitor = none) (ho : p.observers = [])
    (as : List Arrival) : p.account as = [] := by
  have hTranscript : p.transcript as = [] := by
    refine List.eq_nil_iff_forall_not_mem.mpr fun r hr => ?_
    simp [mem_transcript_iff, hm, ho] at hr
  rw [account, hTranscript, nextAll_eq, hm, ho]
  rfl

/-- A panel that fails no test passes it, unless the panel is empty. -/
theorem pass_mem_account {p : Panel τ} {as : List Arrival}
    (h : Report.reasons (p.account as) = []) (hp : ¬ (p.monitor = none ∧ p.observers = [])) :
    Report.pass ∈ p.account as := by
  rw [account, Report.reasons_append, List.append_eq_nil_iff] at h
  obtain ⟨hTranscript, hClosing⟩ := h
  rw [account, List.mem_append]
  right
  -- so far nobody has complained, and at the end nobody does
  rw [hTranscript] at hClosing ⊢
  rw [nextAll_eq, closing, Report.reasons_append, List.append_eq_nil_iff, Report.reasons_flatMap,
    Report.reasons_flatMap, List.flatMap_eq_nil_iff, List.flatMap_eq_nil_iff] at hClosing
  obtain ⟨hMonitor, hObservers⟩ := hClosing
  rw [nextAll_eq, closing, List.mem_append, List.mem_flatMap, List.mem_flatMap]
  -- the monitor passes the test if there is one, and else the first observer does
  cases hm : p.monitor with
  | some m =>
    left
    refine ⟨m.nextAll as, by simp, Monitor.pass_mem_closing (hMonitor _ ?_)⟩
    simp [hm]
  | none =>
    right
    obtain ⟨o, os, ho⟩ := List.exists_cons_of_ne_nil fun ho => hp ⟨hm, ho⟩
    refine ⟨o.nextAll as, by simp [ho], Observer.pass_mem_closing (hObservers _ ?_)⟩
    simp [ho]

/-! ## Complaints -/

/-- There is nothing to complain of exactly if every expectation is meant by as many events as it
should be, and every observer has counted as many events as it should and holds what it should. -/
theorem content_iff {p : Panel τ} (h : p.IsFresh) (as : List Arrival) :
    Report.reasons (p.account as) = [] ↔
      (∀ m ∈ p.monitor, ∀ x ∈ m.set.expectations,
        x.quota.contains ((Arrival.events as).countP x.pattern.accepts) = true) ∧
      ∀ o ∈ p.observers, o.quota.contains (o.qualifying as).length = true ∧
        o.outcome.Holds o.passed (o.qualifying as) := by
  rw [reasons_account h, List.append_eq_nil_iff, List.flatMap_eq_nil_iff, List.flatMap_eq_nil_iff]
  simp only [Option.mem_toList, Observer.complaints_eq_nil_iff]
  refine and_congr_left' (forall₂_congr fun m hm => ?_)
  exact m.complaints_eq_nil_iff (h.seen_eq_zero m hm) as

theorem ne_empty_of_mem_reasons {p : Panel τ} (h : p.IsFresh) {as : List Arrival}
    {reason : String} (hr : reason ∈ Report.reasons (p.account as)) : reason ≠ "" := by
  rw [reasons_account h, List.mem_append, List.mem_flatMap, List.mem_flatMap] at hr
  rcases hr with ⟨m, -, hm⟩ | ⟨o, -, ho⟩
  · exact m.ne_empty_of_mem_complaints hm
  · exact o.ne_empty_of_mem_complaints ho

/-! ## The test in the end -/

variable {p : Panel TestRun}

/-- A test that has not failed before hears the account of a panel. -/
theorem play_sinks_of_fresh (h : p.IsFresh) {t : TestRun} (ht : t.verdict.status ≠ .failed)
    (as : List Arrival) : EventSink.play p.sinks t as = Report.tellAll t (p.account as) := by
  have hPassed : TestObject.passed (Report.tellAll t (p.transcript as)) =
      (Report.reasons (p.transcript as)).isEmpty := by
    rw [Bool.eq_iff_iff, Report.passed_tellAll_iff ht, List.isEmpty_iff]
  rw [play_sinks h.isOpen, hPassed, account]

/-- The status of a new test after a stream. -/
theorem status_play (h : p.IsFresh) (name : String) (as : List Arrival) :
    (EventSink.play p.sinks { name : TestRun } as).verdict.status =
      if Report.reasons (p.account as) ≠ [] then .failed
      else if p.monitor = none ∧ p.observers = [] then .inconclusive
      else .passed := by
  rw [play_sinks_of_fresh h (by simp), Report.tellAll_status rfl]
  by_cases hr : Report.reasons (p.account as) = []
  · rw [if_neg (not_not_intro hr), if_neg (not_not_intro hr)]
    by_cases hp : p.monitor = none ∧ p.observers = []
    · rw [if_pos hp, account_of_empty hp.1 hp.2, if_neg (by simp)]
    · rw [if_neg hp, if_pos (pass_mem_account hr hp)]
  · rw [if_pos hr, if_pos hr]

theorem inconclusive_play_iff (h : p.IsFresh) (name : String) (as : List Arrival) :
    (EventSink.play p.sinks { name : TestRun } as).verdict.status = .inconclusive ↔
      p.monitor = none ∧ p.observers = [] := by
  rw [status_play h]
  by_cases hp : p.monitor = none ∧ p.observers = []
  · rw [account_of_empty hp.1 hp.2]
    simp [hp]
  · rw [if_neg hp]
    by_cases hr : Report.reasons (p.account as) = []
    · simp [hr, hp]
    · simp [hr, hp]

theorem passed_play_iff (h : p.IsFresh) (hp : ¬ (p.monitor = none ∧ p.observers = []))
    (name : String) (as : List Arrival) :
    (EventSink.play p.sinks { name : TestRun } as).verdict.status = .passed ↔
      Report.reasons (p.account as) = [] := by
  rw [status_play h, if_neg hp]
  by_cases hr : Report.reasons (p.account as) = []
  · simp [hr]
  · simp [hr]

/-- The reasons of a new test after a stream. None is lost for being empty. -/
theorem reasons_play (h : p.IsFresh) (name : String) (as : List Arrival) :
    (EventSink.play p.sinks { name : TestRun } as).verdict.reasons =
      Report.reasons (p.account as) := by
  rw [play_sinks_of_fresh h (by simp), Report.tellAll_reasons, List.nil_append,
    List.filter_eq_self]
  intro reason hr
  simpa using ne_empty_of_mem_reasons h hr

theorem stopped_play (h : p.IsFresh) (name : String) (as : List Arrival) :
    (EventSink.play p.sinks { name : TestRun } as).stopped = true ↔
      Report.stop ∈ p.account as := by
  rw [play_sinks_of_fresh h (by simp), Report.tellAll_stopped]
  simp

end StreamVerdict.Panel
