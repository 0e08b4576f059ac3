import StreamVerdict.Plan
import StreamVerdict.Proofs.Monitor.Stream
import StreamVerdict.Proofs.Observer.Stream
import StreamVerdict.Proofs.Traversal

/-!
# Panels

A plan attaches at most two sinks to its dispatcher: a monitor, and after it a
group of observers. Together they are a *panel*. On every arrival the monitor
reports before the observers do, and none of them looks at the test. Only at
the end of the stream does the monitor do so, and by then the reports of the
whole stream have been made.

Main results:

* `sweep_sinks` — one round through the sinks of a panel;
* `mem_transcript_iff` / `reasons_transcript` — who reports what while the
  stream lasts;
* `play_sinks` — all reports of a stream, in order.
-/

namespace StreamVerdict

/-- A monitor, if there is one, and observers. -/
structure Panel (τ : Type) where
  monitor : Option Monitor
  observers : List (Observer τ)

namespace Panel

variable {τ : Type}

/-- The observers as a sink, unless there are none. -/
def groupSinks : List (Observer τ) → List (Sink τ)
  | [] => []
  | os => [.group ⟨os⟩]

/-- The sinks of a panel, in the order in which they are attached. -/
def sinks (p : Panel τ) : List (Sink τ) :=
  (p.monitor.map Sink.monitor).toList ++ groupSinks p.observers

/-- Nothing has closed yet, and no observer has a hook. -/
structure IsOpen (p : Panel τ) : Prop where
  monitor_open : ∀ m ∈ p.monitor, m.isClosed = false
  observer_open : ∀ o ∈ p.observers, o.state ≠ .finalized
  observer_plain : ∀ o ∈ p.observers, o.hook = none

/-! ## One round -/

/-- The panel after an arrival. -/
def next (p : Panel τ) (a : Arrival) : Panel τ :=
  ⟨p.monitor.map (·.next a), p.observers.map (·.next a)⟩

/-- What a panel reports on an arrival. -/
def reports (p : Panel τ) (a : Arrival) : List Report :=
  p.monitor.toList.flatMap (·.reports a) ++ p.observers.flatMap (·.reports a)

/-- What a panel reports at the end of the stream, given whether the test still passes. -/
def closing (p : Panel τ) (passed : Bool) : List Report :=
  p.monitor.toList.flatMap (·.closing passed) ++ p.observers.flatMap (·.closing)

theorem IsOpen.next {p : Panel τ} (h : p.IsOpen) (a : Arrival) : (p.next a).IsOpen where
  monitor_open m hm := by
    obtain ⟨m', hm', rfl⟩ := Option.map_eq_some_iff.mp hm
    rw [Monitor.isClosed_next]
    exact h.monitor_open m' hm'
  observer_open o ho := by
    obtain ⟨o', ho', rfl⟩ := List.mem_map.mp ho
    exact o'.state_next_ne (h.observer_open o' ho') a
  observer_plain o ho := by
    obtain ⟨o', ho', rfl⟩ := List.mem_map.mp ho
    rw [o'.hook_next]
    exact h.observer_plain o' ho'

/-- The monitor takes its step first, and then the observers take theirs. -/
theorem sweep_sinks [TestObject τ] (step : {σ : Type} → [EventSink σ τ] → σ → τ → Logged (σ × τ))
    {p : Panel τ} {t : τ}
    (hGroup : ∀ (g : ObserverGroup τ) t, step g t = ObserverGroup.sweep step g t)
    {next : Monitor → Monitor} {reports : Monitor → List Report}
    (hm : ∀ m ∈ p.monitor, (step m t).value = (next m, Report.tellAll t (reports m)))
    {next' : Observer τ → Observer τ} {reports' : Observer τ → List Report}
    (ho : ∀ o ∈ p.observers, ∀ t, (step o t).value = (next' o, Report.tellAll t (reports' o))) :
    (EventSink.sweep (Sink.step step) p.sinks t).value =
      ((Panel.mk (p.monitor.map next) (p.observers.map next')).sinks,
        Report.tellAll t (p.monitor.toList.flatMap reports ++ p.observers.flatMap reports')) := by
  have hMonitor : (EventSink.sweep (Sink.step step) (p.monitor.map Sink.monitor).toList t).value =
      (((p.monitor.map next).map Sink.monitor).toList,
        Report.tellAll t (p.monitor.toList.flatMap reports)) := by
    cases hp : p.monitor with
    | none => rfl
    | some m =>
      have := hm m hp
      simp [EventSink.sweep, Sink.step, this]
  have hObservers (t : τ) : (EventSink.sweep (Sink.step step) (groupSinks p.observers) t).value =
      (groupSinks (p.observers.map next'),
        Report.tellAll t (p.observers.flatMap reports')) := by
    -- without observers there is no group among the sinks
    cases hp : p.observers with
    | nil => rfl
    | cons o os =>
      rw [hp] at ho
      -- the group hands the test on from one observer to the next
      have hAll : (step (ObserverGroup.mk (o :: os)) t).value =
          (⟨(o :: os).map next'⟩, Report.tellAll t ((o :: os).flatMap reports')) := by
        rw [hGroup]
        simp only [ObserverGroup.sweep, Logged.value_bind, Logged.value_pure,
          EventSink.sweep_of_reports ho]
      simp [EventSink.sweep, groupSinks, Sink.step, hAll]
  rw [sinks, EventSink.sweep_append, hMonitor, hObservers, Report.tellAll_append]
  rfl

theorem onArrival_sinks [TestObject τ] {p : Panel τ} (h : p.IsOpen) (a : Arrival) (t : τ) :
    (EventSink.sweep (EventSink.onArrival a) p.sinks t).value =
      ((p.next a).sinks, Report.tellAll t (p.reports a)) := by
  have hStep : (EventSink.onArrival a : Sink τ → τ → Logged (Sink τ × τ)) =
      Sink.step (EventSink.onArrival a) := by
    cases a <;> rfl
  have hGroup (g : ObserverGroup τ) (t : τ) :
      EventSink.onArrival a g t = ObserverGroup.sweep (EventSink.onArrival a) g t := by
    cases a <;> rfl
  rw [hStep]
  exact sweep_sinks (EventSink.onArrival a) hGroup
    (fun m hm => Monitor.onArrival_value (h.monitor_open m hm) a t)
    fun o ho => Observer.onArrival_value (h.observer_plain o ho) a

theorem onStreamEnd_sinks [TestObject τ] {p : Panel τ} (h : p.IsOpen) (t : τ) :
    (EventSink.sweep EventSink.onStreamEnd p.sinks t).value.2 =
      Report.tellAll t (p.closing (TestObject.passed t)) := by
  have hSweep := sweep_sinks EventSink.onStreamEnd (fun g t => rfl)
    (fun m hm => Monitor.onStreamEnd_value (h.monitor_open m hm) t)
    fun o ho => Observer.onStreamEnd_value (h.observer_open o ho)
  exact congrArg Prod.snd hSweep

/-! ## Whole streams -/

/-- The panel after arrivals. -/
def nextAll (p : Panel τ) (as : List Arrival) : Panel τ :=
  as.foldl next p

/-- What a panel reports on arrivals. -/
def transcript (p : Panel τ) : List Arrival → List Report
  | [] => []
  | a :: as => p.reports a ++ (p.next a).transcript as

theorem nextAll_eq (p : Panel τ) (as : List Arrival) :
    p.nextAll as = ⟨p.monitor.map (·.nextAll as), p.observers.map (·.nextAll as)⟩ := by
  induction as generalizing p with
  | nil => simp [nextAll, Monitor.nextAll, Observer.nextAll]
  | cons a as ih =>
    rw [nextAll, List.foldl_cons, ← nextAll, ih, next, Option.map_map, List.map_map]
    rfl

/-- A report of a panel is one of its monitor or of its observers. -/
theorem mem_transcript_iff {p : Panel τ} {as : List Arrival} {r : Report} :
    r ∈ p.transcript as ↔
      (∃ m ∈ p.monitor, r ∈ m.transcript as) ∨ ∃ o ∈ p.observers, r ∈ o.transcript as := by
  induction as generalizing p with
  | nil => simp [transcript, Monitor.transcript, Observer.transcript]
  | cons a as ih =>
    -- sorted by arrivals on the left, by sinks on the right
    rw [transcript, List.mem_append, ih]
    simp only [next, reports, Monitor.transcript, Observer.transcript, List.mem_append,
      List.mem_flatMap, Option.mem_toList, Option.mem_def, Option.map_eq_some_iff, List.mem_map,
      exists_exists_and_eq_and, and_or_left, exists_or]
    exact or_or_or_comm

/-- The reasons that a panel gives while the stream lasts are those of its monitor. -/
theorem reasons_transcript (p : Panel τ) (as : List Arrival) :
    Report.reasons (p.transcript as) =
      p.monitor.toList.flatMap fun m => Report.reasons (m.transcript as) := by
  induction as generalizing p with
  | nil => simp [transcript, Monitor.transcript]
  | cons a as ih =>
    have hSilent : Report.reasons (p.observers.flatMap (·.reports a)) = [] := by
      rw [Report.reasons_flatMap, List.flatMap_eq_nil_iff]
      exact fun o _ => o.reasons_reports a
    rw [transcript, Report.reasons_append, ih, reports, Report.reasons_append, hSilent,
      List.append_nil, next]
    cases p.monitor with
    | none => rfl
    | some m => simp [Monitor.transcript]

/-- All that a panel reports on a stream, given whether the test still passes when it ends. -/
theorem play_sinks [TestObject τ] {p : Panel τ} (h : p.IsOpen) (t : τ) (as : List Arrival) :
    EventSink.play p.sinks t as =
      Report.tellAll t (p.transcript as ++
        (p.nextAll as).closing (TestObject.passed (Report.tellAll t (p.transcript as)))) := by
  induction as generalizing p t with
  | nil => exact onStreamEnd_sinks h t
  | cons a as ih =>
    -- the reports on this arrival are heard before all others
    have hRest := ih (h.next a) (Report.tellAll t (p.reports a))
    rw [EventSink.play, onArrival_sinks h, hRest, transcript, List.append_assoc,
      Report.tellAll_append _ (p.reports a), Report.tellAll_append _ (p.reports a)]
    rfl

end Panel

end StreamVerdict
