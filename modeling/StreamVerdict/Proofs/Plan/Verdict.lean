import StreamVerdict.Proofs.Plan.Account

/-!
# The verdict of a plan

From the configuration of a test and from what a source delivers follows what
the test holds when the stream ends, without any regard to how the engine got
there: which event was the first one too many, which tallies were left behind
by it, or when the test was asked to stop.

Main results:

* `Plan.status_of_stream` — the status, in terms of numbers of events;
* `Plan.reasons_of_stream` — the reasons for failure and the stop.
-/

namespace StreamVerdict.Plan

variable {p : Plan} {callbacks : CallbackRegistry} {d : Dispatcher (Sink TestRun)}

/-- The stream of a dispatcher that is built is that of a panel that is built. -/
theorem exists_panel (h : p.buildDispatcher callbacks = .ok d) :
    ∃ panel : Panel TestRun, panel.IsBuiltFrom p callbacks ∧
      ∀ (t : TestRun) as, d.play t as = EventSink.play panel.sinks t as := by
  obtain ⟨panel, hBuilt, rfl⟩ := buildDispatcher_eq_ok_iff.mp h
  exact ⟨panel, hBuilt, fun t as => Dispatcher.play_eq rfl t as⟩

/-- A panel is empty if its plan declares nothing. -/
theorem empty_iff {panel : Panel TestRun} (h : panel.IsBuiltFrom p callbacks) :
    panel.monitor = none ∧ panel.observers = [] ↔ p.conditions = none ∧ p.observers = [] := by
  have hMonitor : panel.monitor = none ↔ p.conditions = none := by
    rcases buildMonitor_eq_ok_iff.mp h.monitor_built with ⟨hc, hm⟩ | ⟨c, m, hc, -, hm⟩
    · simp [hc, hm]
    · simp [hc, hm]
  have hObservers := Traversal.mapM_eq_ok_iff.mp (buildObservers_eq_ok_iff.mp h.observers_built)
  have hLength := hObservers.length_eq
  rw [hMonitor, ← List.length_eq_zero_iff, ← hLength, List.length_eq_zero_iff]

/-- Whatever declares expectations has a monitor for them, each built from its configuration. -/
theorem forall₂_expectations {panel : Panel TestRun} (h : panel.IsBuiltFrom p callbacks) :
    ∀ set ∈ p.conditions, ∃ m ∈ panel.monitor,
      List.Forall₂ (fun c x => x.IsBuiltFrom c) set.expectations m.set.expectations := by
  intro set hSet
  rcases buildMonitor_eq_ok_iff.mp h.monitor_built with ⟨hc, -⟩ | ⟨c, m, hc, hBuilt, hm⟩
  · rw [hc] at hSet
    cases hSet
  · rw [hc] at hSet
    cases hSet
    obtain ⟨xs, hxs, rfl⟩ := Monitor.ofConfig_eq_ok_iff.mp hBuilt
    exact ⟨_, hm,
      (Traversal.mapM_eq_ok_iff.mp hxs).imp fun _ _ => Expectation.ofConfig_eq_ok_iff.mp⟩

/-- What holds of all expectations that a panel was built with holds of each configured one. -/
theorem expectations_iff {panel : Panel TestRun} (h : panel.IsBuiltFrom p callbacks)
    (P : Expectation → Prop) :
    (∀ m ∈ panel.monitor, ∀ x ∈ m.set.expectations, P x) ↔
      ∀ set ∈ p.conditions, ∀ c ∈ set.expectations, ∃ x : Expectation, x.IsBuiltFrom c ∧ P x := by
  simp only [← Expectation.ofConfig_eq_ok_iff]
  rcases buildMonitor_eq_ok_iff.mp h.monitor_built with ⟨hc, hm⟩ | ⟨c, m, hc, hBuilt, hm⟩
  · -- nothing is declared, and there is no monitor
    simp [hc, hm]
  · obtain ⟨xs, hxs, rfl⟩ := Monitor.ofConfig_eq_ok_iff.mp hBuilt
    simp only [hc, hm, Option.mem_some_iff, forall_eq']
    exact Traversal.forall_built_iff P hxs

/--
**The verdict of a plan.** For every plan that a dispatcher can be built from,
every sequence of connections and deliveries, and a new test, once the stream
has ended:

1. the test is inconclusive exactly if the plan declares neither expectations
   nor observers;
2. otherwise it has passed exactly if for every configured expectation the
   number of all events that its pattern accepts is in its quota, where both
   are what the configuration is read as, and for every configured observer
   the number of events that qualify is in its quota and they are as the
   configuration says.
-/
theorem status_of_stream (h : p.buildDispatcher callbacks = .ok d) (name : String)
    (as : List Arrival) :
    let status := (d.play { name : TestRun } as).verdict.status
    (status = .inconclusive ↔ p.conditions = none ∧ p.observers = []) ∧
    (¬ (p.conditions = none ∧ p.observers = []) →
      (status = .passed ↔
        (∀ set ∈ p.conditions, ∀ c ∈ set.expectations, ∃ x : Expectation, x.IsBuiltFrom c ∧
          x.quota.contains ((Arrival.events as).countP x.pattern.accepts) = true) ∧
        ∀ c ∈ p.observers, ∃ o : Observer TestRun, Observer.ofConfig c callbacks = .ok o ∧
          o.quota.contains (o.qualifying as).length = true ∧
          c.Holds callbacks (o.qualifying as))) := by
  intro status
  obtain ⟨panel, hBuilt, hPlay⟩ := exists_panel h
  have hFresh := Panel.isFresh_of_isBuiltFrom hBuilt
  have hStatus : status = (EventSink.play panel.sinks { name : TestRun } as).verdict.status := by
    rw [← hPlay]
  rw [hStatus, ← empty_iff hBuilt]
  refine ⟨Panel.inconclusive_play_iff hFresh name as, fun hDeclared => ?_⟩
  -- from what was built back to what is configured
  rw [Panel.passed_play_iff hFresh hDeclared, Panel.content_iff hFresh,
    expectations_iff hBuilt fun x =>
      x.quota.contains ((Arrival.events as).countP x.pattern.accepts) = true]
  -- the observers, one by one
  refine and_congr_right' ?_
  rw [Traversal.forall_built_iff (fun o : Observer TestRun =>
    o.quota.contains (o.qualifying as).length = true ∧ o.outcome.Holds o.passed (o.qualifying as))
    (buildObservers_eq_ok_iff.mp hBuilt.observers_built)]
  refine forall₂_congr fun c _ => exists_congr fun o => and_congr_right fun ho => ?_
  rw [Observer.holds_iff ho]

/-- A door that is opened once and closed at least once, with a lamp that goes on once and ends the
test. -/
def doorPlan : Plan where
  conditions := some
    { expectations :=
        [.short "open", .full { positive := .text "close", count := some (.text ">0") }] }
  observers := [{ event := "Lamp", count := some (.number 1), action := .stop }]

theorem doorPlan_builds :
    ∃ d : Dispatcher (Sink TestRun), doorPlan.buildDispatcher {} = .ok d :=
  Traversal.exists_of_isOk rfl

/-- A day on which everything happens as it should. The lamp is on connection `0`. -/
def doorDay : List Arrival :=
  [.connect ⟨"0"⟩, .deliver ⟨"0"⟩ (.ofPairs [("event", "Lamp")]),
    .deliver ⟨"1"⟩ (.ofText "open"), .deliver ⟨"1"⟩ (.ofText "close")]

theorem doorPlan_passes :
    ∃ d : Dispatcher (Sink TestRun), doorPlan.buildDispatcher {} = .ok d ∧
      (d.play { name := "door" : TestRun } doorDay).verdict.status = .passed := by
  obtain ⟨d, hd⟩ := doorPlan_builds
  refine ⟨d, hd, ?_⟩
  have hSpec := (status_of_stream hd "door" doorDay).2 (by simp [doorPlan])
  refine hSpec.mpr ⟨?_, ?_⟩
  · simp only [doorPlan, Option.mem_some_iff, forall_eq', List.forall_mem_cons]
    exact ⟨⟨_, Expectation.ofConfig_eq_ok_iff.mp rfl, by decide +kernel⟩,
      ⟨_, Expectation.ofConfig_eq_ok_iff.mp rfl, by decide +kernel⟩, by simp⟩
  · simp only [doorPlan, List.forall_mem_cons]
    exact ⟨⟨_, rfl, by decide +kernel, trivial⟩, by simp⟩

/--
**The reasons for a verdict.** For every plan that a dispatcher can be built
from, every sequence of connections and deliveries, and a new test, the
reasons that the test holds once the stream has ended are, in this order and
without any other:

1. for every event on which the set of expectations has answered that it was
   one too many, that answer;
2. if there was no such event and some tallies are below the minimum in the
   end, one reason that lists the miscounts of their expectations;
3. for each observer, the miscount if the number of events that qualify is
   outside its quota, or else that its requirements are not met if it does not
   hold them.

The expectations and observers are those of the plan, in its order. The test
is stopped exactly if there was an event too many, or some observer that is to
stop it has a minimum above zero and has reached it.
-/
theorem reasons_of_stream (h : p.buildDispatcher callbacks = .ok d) (name : String)
    (as : List Arrival) :
    ∃ (monitor : Option Monitor) (observers : List (Observer TestRun)),
      p.buildMonitor = .ok monitor ∧ p.buildObservers callbacks = .ok ⟨observers⟩ ∧
      (∀ set ∈ p.conditions, ∃ m ∈ monitor,
        List.Forall₂ (fun c x => x.IsBuiltFrom c) set.expectations m.set.expectations) ∧
      let test := d.play { name : TestRun } as
      let overMatches := monitor.toList.flatMap fun m =>
        ExpectationSet.overMatches (m.set.checkAll (Arrival.events as)).2
      let unmet := monitor.toList.flatMap fun m =>
        (m.set.checkAll (Arrival.events as)).1.expectations.filter fun x =>
          x.seen < x.quota.min.toNat
      test.verdict.reasons =
        (overMatches.map fun c => (Error.overMatch c).message) ++
        (if overMatches = [] ∧ unmet ≠ [] then
          [(Error.underMatch (unmet.map (·.miscount))).message] else []) ++
        (observers.flatMap fun o =>
          if o.quota.contains (o.qualifying as).length then
            if o.outcome.Holds o.passed (o.qualifying as) then []
            else [s!"observer '{o.label}': requirements not met"]
          else [(Miscount.ofQuota o.label o.quota (o.qualifying as).length).describe]) ∧
      (test.stopped = true ↔ overMatches ≠ [] ∨
        ∃ o ∈ observers, o.action = .stop ∧ 1 ≤ o.quota.min.toNat ∧
          o.quota.min.toNat ≤ (o.qualifying as).length) := by
  obtain ⟨panel, hBuilt, hPlay⟩ := exists_panel h
  have hFresh := Panel.isFresh_of_isBuiltFrom hBuilt
  refine ⟨panel.monitor, panel.observers, hBuilt.monitor_built, hBuilt.observers_built,
    forall₂_expectations hBuilt, ?_⟩
  intro test overMatches unmet
  have hUnmet : unmet = panel.monitor.toList.flatMap fun m =>
      (m.set.checkAll (Arrival.events as)).1.unmet := by
    simp only [unmet, ExpectationSet.unmet_eq]
  have hTest : test = EventSink.play panel.sinks { name : TestRun } as := hPlay _ as
  rw [hTest]
  refine ⟨?_, ?_⟩
  · -- the complaints of the observers are as they stand in the statement
    rw [Panel.reasons_play hFresh, Panel.reasons_account hFresh]
    refine congrArg (· ++ panel.observers.flatMap (·.complaints as)) ?_
    cases hm : panel.monitor with
    | none => simp [overMatches, hUnmet, hm]
    | some m =>
      simp [overMatches, hUnmet, hm, Monitor.complaints, Monitor.answers, Monitor.nextAll_set]
  · -- only an over-match of the monitor or an action of an observer stops the test
    rw [Panel.stopped_play hFresh, Panel.stop_mem_account_iff hFresh]
    refine or_congr_left ?_
    cases hm : panel.monitor with
    | none => simp [overMatches, hm]
    | some m => simp [overMatches, hm, Monitor.answers]

/-- A night on which the door is opened twice and the lamp stays dark. -/
def doorNight : List Arrival :=
  [.connect ⟨"0"⟩, .deliver ⟨"1"⟩ (.ofText "open"), .deliver ⟨"1"⟩ (.ofText "open")]

/-- An evening on which the lamp goes on and the door stays open. -/
def doorEvening : List Arrival :=
  [.connect ⟨"0"⟩, .deliver ⟨"1"⟩ (.ofText "open"), .deliver ⟨"0"⟩ (.ofPairs [("event", "Lamp")])]

theorem doorPlan_complains :
    ∃ d : Dispatcher (Sink TestRun), doorPlan.buildDispatcher {} = .ok d ∧
      (d.play { name := "door" : TestRun } doorNight).verdict.reasons =
        ["over-match: condition 'value=~/open/': expected between 1 and 1 matches but received 2",
          "condition 'Lamp': expected between 1 and 1 matches but received 0"] ∧
      (d.play { name := "door" : TestRun } doorNight).stopped = true ∧
      (d.play { name := "door" : TestRun } doorEvening).verdict.reasons =
        ["under-match: condition 'value=~/close/': expected at least 1 matches but received 0"] ∧
      (d.play { name := "door" : TestRun } doorEvening).stopped = true := by
  obtain ⟨d, hd⟩ := doorPlan_builds
  refine ⟨d, hd, ?_⟩
  obtain ⟨monitor, observers, hm, ho, -, hNight, hNightStop⟩ :=
    reasons_of_stream hd "door" doorNight
  obtain ⟨monitor', observers', hm', ho', -, hEvening, hEveningStop⟩ :=
    reasons_of_stream hd "door" doorEvening
  -- both runs are about the monitor and the observers that are built from the plan
  have hMonitor := Except.ok.inj (hm.symm.trans rfl)
  have hMonitor' := Except.ok.inj (hm'.symm.trans rfl)
  have hObservers := Except.ok.inj (ho.symm.trans rfl)
  have hObservers' := Except.ok.inj (ho'.symm.trans rfl)
  subst hMonitor hMonitor'
  cases hObservers
  cases hObservers'
  refine ⟨?_, ?_, ?_, ?_⟩
  · rw [hNight]
    decide +kernel
  · -- the second opening is one too many
    rw [hNightStop]
    exact .inl (by decide +kernel)
  · rw [hEvening]
    decide +kernel
  · -- the lamp has gone on, and its observer stops the test
    rw [hEveningStop]
    exact .inr (by decide +kernel)

end StreamVerdict.Plan
