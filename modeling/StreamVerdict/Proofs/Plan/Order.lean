import StreamVerdict.Proofs.Plan.Verdict

/-!
# What order does not matter for

Two runs of a test can take different ways: another expectation is the first
one to be overrun, other tallies fall behind, the test is asked to stop at
another event. But whether there is anything to complain of, and whether the
test is asked to stop at all, depends on which expectations and observers
there are and on how many events each of them is meant by. So the status and
the stop do not depend on the order in which expectations and observers are
declared, and hardly on the order in which events are delivered.

Main results:

* `Panel.agree_of_same_account` — what two runs must have in common;
* `Arrival.qualifying_perm` — the events that qualify, in another order;
* `Panel.agree_of_reordering` / `Panel.agree_of_perm` — declarations and
  deliveries in another order;
* `Plan.agree_in_any_order` — both of these for plans.
-/

namespace StreamVerdict

/-! ## Runs that agree -/

/-- Two tests have the same status, and both or none of them are stopped. -/
def TestRun.Agrees (t t' : TestRun) : Prop :=
  t.verdict.status = t'.verdict.status ∧ t.stopped = t'.stopped

namespace Panel

variable {τ : Type}

/-- A panel asks the test to stop exactly if an expectation is meant by more events than it may be,
or an observer that is to stop the test reaches its minimum. -/
theorem stop_iff {p : Panel τ} (h : p.IsFresh) (as : List Arrival) :
    Report.stop ∈ p.account as ↔
      (∃ m ∈ p.monitor, ∃ x ∈ m.set.expectations,
        x.quota.exceededBy ((Arrival.events as).countP x.pattern.accepts) = true) ∨
      ∃ o ∈ p.observers, o.action = .stop ∧ 1 ≤ o.quota.min.toNat ∧
        o.quota.min.toNat ≤ (o.qualifying as).length := by
  rw [stop_mem_account_iff h]
  refine or_congr_left (exists_congr fun m => and_congr_right fun hm => ?_)
  have hSeen := h.seen_eq_zero m hm
  rw [Monitor.answers, ne_eq, ExpectationSet.overMatches_eq_nil_iff
    (ExpectationSet.isWithin_of_seen_zero hSeen), ExpectationSet.isWithin_after]
  simp only [not_forall, Bool.not_eq_false, exists_prop]
  refine exists_congr fun x => and_congr_right fun hx => ?_
  rw [Expectation.isExceeded_after (hSeen x hx)]

/-- Two runs agree if both or none of their panels are empty, complain, and ask for a stop. -/
theorem agree_of_same_account {p p' : Panel TestRun} (h : p.IsFresh) (h' : p'.IsFresh)
    {as as' : List Arrival} (name : String)
    (hEmpty : p.monitor = none ∧ p.observers = [] ↔ p'.monitor = none ∧ p'.observers = [])
    (hReasons : Report.reasons (p.account as) = [] ↔ Report.reasons (p'.account as') = [])
    (hStop : Report.stop ∈ p.account as ↔ Report.stop ∈ p'.account as') :
    (EventSink.play p.sinks { name : TestRun } as).Agrees
      (EventSink.play p'.sinks { name : TestRun } as') := by
  refine ⟨?_, ?_⟩
  · rw [status_play h, status_play h']
    simp only [ne_eq, hReasons, hEmpty]
  · rw [Bool.eq_iff_iff, stopped_play h, stopped_play h', hStop]

end Panel

/-! ## Declarations in another order -/

/-- Related options are both absent, or both there and related. -/
theorem rel_cases {α β : Type} {r : α → β → Prop} {x : Option α} {y : Option β}
    (h : Option.Rel r x y) :
    (x = none ∧ y = none) ∨ ∃ a b, x = some a ∧ y = some b ∧ r a b := by
  cases h with
  | none => exact .inl ⟨rfl, rfl⟩
  | some hr => exact .inr ⟨_, _, rfl, rfl, hr⟩

/-- The same plan with its expectations and its observers in another order. -/
structure Plan.IsReordering (p p' : Plan) : Prop where
  expectations : Option.Rel (fun c c' => c.expectations.Perm c'.expectations ∧
    c.onAny = c'.onAny ∧ c.onAll = c'.onAll) p.conditions p'.conditions
  observers : p.observers.Perm p'.observers
  capabilities : p.capabilities = p'.capabilities
  timing : p.timing = p'.timing

namespace Panel

variable {τ : Type}

/-- The same panel, but for its triggers, with its expectations and its observers in another
order. -/
structure IsReordering (p p' : Panel τ) : Prop where
  expectations : Option.Rel (fun m m' => m.set.expectations.Perm m'.set.expectations)
    p.monitor p'.monitor
  observers : p.observers.Perm p'.observers

theorem IsReordering.forall_expectation_iff {p p' : Panel τ} (h : p.IsReordering p')
    (P : Expectation → Prop) :
    (∀ m ∈ p.monitor, ∀ x ∈ m.set.expectations, P x) ↔
      ∀ m ∈ p'.monitor, ∀ x ∈ m.set.expectations, P x := by
  rcases rel_cases h.expectations with ⟨hm, hm'⟩ | ⟨m, m', hm, hm', hPerm⟩
  · rw [hm, hm']
  · simp [hm, hm', hPerm.mem_iff]

theorem IsReordering.exists_expectation_iff {p p' : Panel τ} (h : p.IsReordering p')
    (P : Expectation → Prop) :
    (∃ m ∈ p.monitor, ∃ x ∈ m.set.expectations, P x) ↔
      ∃ m ∈ p'.monitor, ∃ x ∈ m.set.expectations, P x := by
  have hNone := not_congr (h.forall_expectation_iff fun x => ¬ P x)
  push Not at hNone
  exact hNone

theorem IsReordering.empty_iff {p p' : Panel τ} (h : p.IsReordering p') :
    p.monitor = none ∧ p.observers = [] ↔ p'.monitor = none ∧ p'.observers = [] := by
  have hObservers : p.observers = [] ↔ p'.observers = [] := by
    rw [← List.length_eq_zero_iff, h.observers.length_eq, List.length_eq_zero_iff]
  rcases rel_cases h.expectations with ⟨hm, hm'⟩ | ⟨m, m', hm, hm', -⟩
  · rw [hm, hm', hObservers]
  · simp [hm, hm']

/-- In another order the same expectations and observers make the same of a stream. -/
theorem agree_of_reordering {p p' : Panel TestRun} (h : p.IsFresh) (h' : p'.IsFresh)
    (hr : p.IsReordering p') (name : String) (as : List Arrival) :
    (EventSink.play p.sinks { name : TestRun } as).Agrees
      (EventSink.play p'.sinks { name : TestRun } as) := by
  refine agree_of_same_account h h' name hr.empty_iff ?_ ?_
  · rw [content_iff h, content_iff h', hr.forall_expectation_iff fun x =>
      x.quota.contains ((Arrival.events as).countP x.pattern.accepts) = true]
    simp only [hr.observers.mem_iff]
  · rw [stop_iff h, stop_iff h', hr.exists_expectation_iff fun x =>
      x.quota.exceededBy ((Arrival.events as).countP x.pattern.accepts) = true]
    simp only [hr.observers.mem_iff]

/-- What a plan builds it builds in another order too. -/
theorem exists_reordering {panel : Panel τ} {p p' : Plan} {callbacks : CallbackRegistry}
    (hb : panel.IsBuiltFrom p callbacks) (h : p'.IsReordering p) :
    ∃ panel' : Panel τ, panel'.IsBuiltFrom p' callbacks ∧ panel'.IsReordering panel := by
  obtain ⟨os, hos, hPerm⟩ := Traversal.exists_mapM_of_perm h.observers
    (Plan.buildObservers_eq_ok_iff.mp hb.observers_built)
  have hos' := Plan.buildObservers_eq_ok_iff.mpr hos
  rcases rel_cases h.expectations with ⟨hc', hc⟩ | ⟨c', c, hc', hc, hSame⟩
  · -- no set on either side
    obtain ⟨-, hm⟩ | ⟨c, m, hc'', -, -⟩ := Plan.buildMonitor_eq_ok_iff.mp hb.monitor_built
    · refine ⟨⟨none, os⟩, ⟨Plan.buildMonitor_eq_ok_iff.mpr (.inl ⟨hc', rfl⟩), hos'⟩, ?_, hPerm⟩
      rw [hm]
      exact .none
    · rw [hc] at hc''
      cases hc''
  · obtain ⟨hc'', -⟩ | ⟨c'', m, hc'', hBuilt, hm⟩ :=
      Plan.buildMonitor_eq_ok_iff.mp hb.monitor_built
    · rw [hc] at hc''
      cases hc''
    · -- the same expectations in another order
      rw [hc] at hc''
      cases hc''
      obtain ⟨xs, hxs, rfl⟩ := Monitor.ofConfig_eq_ok_iff.mp hBuilt
      obtain ⟨xs', hxs', hXsPerm⟩ := Traversal.exists_mapM_of_perm hSame.1 hxs
      have hm' := Monitor.ofConfig_eq_ok_iff.mpr ⟨xs', hxs', rfl⟩
      refine ⟨⟨some { set := { expectations := xs', trigger := c'.trigger } }, os⟩,
        ⟨Plan.buildMonitor_eq_ok_iff.mpr (.inr ⟨c', _, hc', hm', rfl⟩), hos'⟩, ?_, hPerm⟩
      rw [hm]
      exact .some hXsPerm

end Panel

/-! ## Deliveries in another order -/

namespace Arrival

/-- Connections that come up before anything is delivered. -/
def connectsThen (cs : List ConnectionId) (ds : List (ConnectionId × Event)) : List Arrival :=
  cs.map connect ++ ds.map fun d => deliver d.1 d.2

variable {cs : List ConnectionId} {ds ds' : List (ConnectionId × Event)}

/-- In another order the same events are delivered. -/
theorem events_perm (h : ds.Perm ds') :
    (events (connectsThen cs ds)).Perm (events (connectsThen cs ds')) :=
  ((h.map _).append_left _).filterMap _

/-- In another order the same events qualify. -/
theorem qualifying_perm (h : ds.Perm ds') (ids : List ConnectionId) (p : Pattern) :
    (qualifying ids p (connectsThen cs ds)).Perm (qualifying ids p (connectsThen cs ds')) := by
  induction cs with
  | nil =>
    -- no connection is up, so nothing qualifies
    have hNone (ds : List (ConnectionId × Event)) : qualifying ids p (connectsThen [] ds) = [] := by
      induction ds with
      | nil => rfl
      | cons d ds ih => exact ih
    rw [hNone, hNone]
  | cons c cs ih =>
    show (qualifying ids p (connect c :: connectsThen cs ds)).Perm
      (qualifying ids p (connect c :: connectsThen cs ds'))
    -- once a connection is up, all deliveries count, in whatever order
    by_cases hc : c ∈ ids
    · rw [qualifying, qualifying, if_pos hc, if_pos hc]
      exact ((h.map _).append_left _).filterMap _
    · rw [qualifying, qualifying, if_neg hc, if_neg hc]
      exact ih

end Arrival

/-- Requirements that are the same for all events do not depend on their order. -/
theorem Observer.Config.holds_perm {c : Observer.Config} (hk : c.kind = .headerMatch)
    (callbacks : CallbackRegistry) {es es' : List Event} (h : es.Perm es') :
    c.Holds callbacks es ↔ c.Holds callbacks es' := by
  unfold Holds
  rw [hk]
  cases c.requirements with
  | none => rfl
  | some requirements =>
    cases requirements with
    | ordered clauses => rfl
    | single clause => simp only [h.mem_iff]

/-- If observers judge all events alike, a panel makes the same of deliveries in any order. -/
theorem Panel.agree_of_perm {panel : Panel TestRun} {p : Plan} {callbacks : CallbackRegistry}
    (hb : panel.IsBuiltFrom p callbacks) (hk : ∀ c ∈ p.observers, c.kind = .headerMatch)
    {ds ds' : List (ConnectionId × Event)} (h : ds.Perm ds') (name : String)
    (cs : List ConnectionId) :
    (EventSink.play panel.sinks { name : TestRun } (Arrival.connectsThen cs ds)).Agrees
      (EventSink.play panel.sinks { name : TestRun } (Arrival.connectsThen cs ds')) := by
  have hFresh := isFresh_of_isBuiltFrom hb
  have hQualifying (o : Observer TestRun) :
      (o.qualifying (Arrival.connectsThen cs ds)).Perm
        (o.qualifying (Arrival.connectsThen cs ds')) :=
    Arrival.qualifying_perm h o.connections o.pattern
  have hCount (x : Expectation) :
      (Arrival.events (Arrival.connectsThen cs ds)).countP x.pattern.accepts =
        (Arrival.events (Arrival.connectsThen cs ds')).countP x.pattern.accepts :=
    (Arrival.events_perm h).countP_eq _
  refine agree_of_same_account hFresh hFresh name Iff.rfl ?_ ?_
  · -- the content is about counts and about what holds of the events as a multiset
    rw [content_iff hFresh, content_iff hFresh]
    simp only [hCount]
    refine and_congr_right' (forall₂_congr fun o ho => ?_)
    obtain ⟨c, hc, hBuilt⟩ := hb.exists_observer ho
    rw [(hQualifying o).length_eq, Observer.holds_iff hBuilt, Observer.holds_iff hBuilt,
      Observer.Config.holds_perm (hk c hc) callbacks (hQualifying o)]
  · rw [stop_iff hFresh, stop_iff hFresh]
    simp only [hCount, (hQualifying _).length_eq]

/--
**Order does not matter.** For every plan that a dispatcher can be built from
and a new test:

1. with its expectations and its observers in another order a dispatcher can
   be built from the plan as well, and after every stream the status of the
   test and whether it is stopped are the same;
2. if the plan has only observers that judge all events alike, and all
   connections come up before anything is delivered, then the same holds for
   deliveries in another order.
-/
theorem Plan.agree_in_any_order {p : Plan} {callbacks : CallbackRegistry}
    {d : Dispatcher (Sink TestRun)} (h : p.buildDispatcher callbacks = .ok d) (name : String) :
    (∀ p' : Plan, p'.IsReordering p → ∃ d' : Dispatcher (Sink TestRun),
      p'.buildDispatcher callbacks = .ok d' ∧ ∀ as,
        (d'.play { name : TestRun } as).Agrees (d.play { name : TestRun } as)) ∧
    ((∀ c ∈ p.observers, c.kind = .headerMatch) →
      ∀ (cs : List ConnectionId) (ds ds' : List (ConnectionId × Event)), ds.Perm ds' →
        (d.play { name : TestRun } (Arrival.connectsThen cs ds)).Agrees
          (d.play { name : TestRun } (Arrival.connectsThen cs ds'))) := by
  obtain ⟨panel, hBuilt, hPlay⟩ := exists_panel h
  refine ⟨fun p' hp' => ?_, fun hk cs ds ds' hds => ?_⟩
  · obtain ⟨panel', hBuilt', hReordering⟩ := Panel.exists_reordering hBuilt hp'
    refine ⟨{ sinks := panel'.sinks }, buildDispatcher_eq_ok_iff.mpr ⟨panel', hBuilt', rfl⟩,
      fun as => ?_⟩
    rw [hPlay, Dispatcher.play_eq rfl]
    exact Panel.agree_of_reordering (Panel.isFresh_of_isBuiltFrom hBuilt')
      (Panel.isFresh_of_isBuiltFrom hBuilt) hReordering name as
  · rw [hPlay, hPlay]
    exact Panel.agree_of_perm hBuilt hk hds name cs

/-- The door plan with its expectations the other way round. -/
def Plan.doorPlanReversed : Plan :=
  { doorPlan with
    conditions := doorPlan.conditions.map fun c =>
      { c with expectations := c.expectations.reverse } }

theorem Plan.doorPlan_in_any_order :
    ∃ d d' : Dispatcher (Sink TestRun), doorPlan.buildDispatcher {} = .ok d ∧
      doorPlanReversed.buildDispatcher {} = .ok d' ∧
      (d'.play { name := "door" : TestRun } doorNight).Agrees
        (d.play { name := "door" : TestRun } doorNight) ∧
      (d.play { name := "door" : TestRun } (Arrival.connectsThen [⟨"0"⟩]
          [(⟨"1"⟩, .ofText "close"), (⟨"1"⟩, .ofText "open")])).Agrees
        (d.play { name := "door" : TestRun } (Arrival.connectsThen [⟨"0"⟩]
          [(⟨"1"⟩, .ofText "open"), (⟨"1"⟩, .ofText "close")])) := by
  obtain ⟨d, hd⟩ := doorPlan_builds
  obtain ⟨hPlans, hDeliveries⟩ := agree_in_any_order hd "door"
  have hReordering : doorPlanReversed.IsReordering doorPlan :=
    ⟨.some ⟨List.reverse_perm _, rfl, rfl⟩, .rfl, rfl, rfl⟩
  obtain ⟨d', hd', hAgree⟩ := hPlans doorPlanReversed hReordering
  exact ⟨d, d', hd, hd', hAgree doorNight,
    hDeliveries (by simp [doorPlan]) [⟨"0"⟩] _ _ (.swap ..)⟩

end StreamVerdict
