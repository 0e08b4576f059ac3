import StreamVerdict.Proofs.Observer.Built
import StreamVerdict.Proofs.Plan.Panel

/-!
# Plans as they are built

A dispatcher that is built from a plan has the sinks of one panel. Nothing has
been seen by it yet.

Main results:

* `Plan.buildDispatcher_eq_ok_iff` — the panel that a plan attaches;
* `Panel.IsBuiltFrom.exists_expectation`, `Panel.IsBuiltFrom.exists_observer` — what its parts come
  from;
* `Panel.isFresh_of_isBuiltFrom` — its state at the start.
-/

namespace StreamVerdict

variable {τ : Type}

/-- A panel is what a plan builds. -/
structure Panel.IsBuiltFrom (panel : Panel τ) (p : Plan) (callbacks : CallbackRegistry) : Prop where
  monitor_built : p.buildMonitor = .ok panel.monitor
  observers_built : p.buildObservers callbacks = .ok ⟨panel.observers⟩

/-- As it is built, a panel has seen nothing. -/
structure Panel.IsFresh (panel : Panel τ) : Prop where
  monitor_open : ∀ m ∈ panel.monitor, m.isClosed = false
  seen_eq_zero : ∀ m ∈ panel.monitor, ∀ x ∈ m.set.expectations, x.seen = 0
  observer_fresh : ∀ o ∈ panel.observers, o.IsFresh

theorem Panel.IsFresh.isOpen {panel : Panel τ} (h : panel.IsFresh) : panel.IsOpen where
  monitor_open := h.monitor_open
  observer_open o ho := by simp [(h.observer_fresh o ho).waits]
  observer_plain o ho := (h.observer_fresh o ho).plain

/-! ## Observers -/

theorem Plan.buildObservers_eq_ok_iff {p : Plan} {callbacks : CallbackRegistry}
    {os : List (Observer τ)} :
    p.buildObservers callbacks = .ok ⟨os⟩ ↔
      p.observers.mapM (fun c => Observer.ofConfig c callbacks) = .ok os := by
  unfold buildObservers ObserverGroup.ofConfigs
  rw [Traversal.bind_eq_ok_iff]
  constructor
  · rintro ⟨os', hos, h⟩
    cases h
    exact hos
  · intro h
    exact ⟨os, h, rfl⟩

/-! ## Expectations -/

/-- The monitor of a plan is built from its expectations, one by one. -/
theorem Monitor.ofConfig_eq_ok_iff {c : ExpectationSet.Config} {m : Monitor} :
    Monitor.ofConfig c = .ok m ↔ ∃ xs, c.expectations.mapM Expectation.ofConfig = .ok xs ∧
      m = { set := { expectations := xs, trigger := c.trigger } } := by
  unfold Monitor.ofConfig ExpectationSet.ofConfig
  simp only [Traversal.bind_eq_ok_iff]
  constructor
  · rintro ⟨set, ⟨xs, hxs, hSet⟩, hm⟩
    cases hSet
    cases hm
    exact ⟨xs, hxs, rfl⟩
  · rintro ⟨xs, hxs, rfl⟩
    exact ⟨_, ⟨xs, hxs, rfl⟩, rfl⟩

/-- There is a monitor exactly if the plan declares expectations. -/
theorem Plan.buildMonitor_eq_ok_iff {p : Plan} {monitor : Option Monitor} :
    p.buildMonitor = .ok monitor ↔ (p.conditions = none ∧ monitor = none) ∨
      ∃ c m, p.conditions = some c ∧ Monitor.ofConfig c = .ok m ∧ monitor = some m := by
  unfold buildMonitor
  cases hc : p.conditions with
  | none => simp [eq_comm]
  | some c =>
    rw [Traversal.bind_eq_ok_iff]
    simp [eq_comm]

/-! ## Panels -/

/-- If there is a configured observer, there is one in the group. -/
theorem Plan.groupSinks_of_buildObservers {p : Plan} {callbacks : CallbackRegistry}
    {g : ObserverGroup τ} (hp : p.observers ≠ []) (h : p.buildObservers callbacks = .ok g) :
    Panel.groupSinks g.observers = [.group g] := by
  have hBuilt := Traversal.mapM_eq_ok_iff.mp (buildObservers_eq_ok_iff.mp h)
  obtain ⟨os⟩ := g
  cases os with
  | nil => exact absurd (List.forall₂_nil_right_iff.mp hBuilt) hp
  | cons o os => rfl

/-- A dispatcher is built from the monitor and the observers, whether there are any or not. -/
theorem Plan.buildDispatcher_eq (p : Plan) (callbacks : CallbackRegistry) :
    p.buildDispatcher callbacks = (do
      let monitor ← p.buildMonitor
      let group : ObserverGroup τ ← p.buildObservers callbacks
      .ok { sinks := (Panel.mk monitor group.observers).sinks }) := by
  unfold buildDispatcher Panel.sinks
  congr 1
  funext monitor
  by_cases hp : p.observers = []
  · -- a group without observers is not attached, and has no sinks
    have hNone : p.buildObservers callbacks = .ok (⟨[]⟩ : ObserverGroup τ) := by
      rw [buildObservers_eq_ok_iff, hp]
      rfl
    rw [hp, hNone]
    rfl
  · rw [if_neg (by simpa using hp)]
    cases hg : (p.buildObservers callbacks : Except Error (ObserverGroup τ)) with
    | error err => rfl
    | ok g =>
      show Except.ok _ = Except.ok _
      rw [groupSinks_of_buildObservers hp hg]
      rfl

/-- A dispatcher that is built has the sinks of a panel that is built. -/
theorem Plan.buildDispatcher_eq_ok_iff {p : Plan} {callbacks : CallbackRegistry}
    {d : Dispatcher (Sink τ)} :
    p.buildDispatcher callbacks = .ok d ↔
      ∃ panel : Panel τ, panel.IsBuiltFrom p callbacks ∧ d = { sinks := panel.sinks } := by
  rw [buildDispatcher_eq]
  simp only [Traversal.bind_eq_ok_iff]
  constructor
  · rintro ⟨monitor, hMonitor, ⟨os⟩, hos, hd⟩
    cases hd
    exact ⟨⟨monitor, os⟩, ⟨hMonitor, hos⟩, rfl⟩
  · rintro ⟨panel, ⟨hMonitor, hos⟩, rfl⟩
    exact ⟨panel.monitor, hMonitor, ⟨panel.observers⟩, hos, rfl⟩

/-- Each expectation of a panel that is built comes from a configuration, and its monitor is open. -/
theorem Panel.IsBuiltFrom.exists_expectation {panel : Panel τ} {p : Plan}
    {callbacks : CallbackRegistry} (h : panel.IsBuiltFrom p callbacks) {m : Monitor}
    (hm : m ∈ panel.monitor) :
    m.isClosed = false ∧
      ∀ x ∈ m.set.expectations, ∃ c : Expectation.Config, Expectation.ofConfig c = .ok x := by
  rcases Plan.buildMonitor_eq_ok_iff.mp h.monitor_built with ⟨-, hNone⟩ | ⟨c, m', -, hBuilt, hSome⟩
  · rw [hNone] at hm
    cases hm
  · rw [hSome] at hm
    cases hm
    obtain ⟨xs, hxs, rfl⟩ := Monitor.ofConfig_eq_ok_iff.mp hBuilt
    refine ⟨rfl, fun x hx => ?_⟩
    obtain ⟨c, -, hc⟩ := Traversal.exists_of_mem_built hxs hx
    exact ⟨c, hc⟩

/-- Each observer of a panel that is built comes from a configuration of the plan. -/
theorem Panel.IsBuiltFrom.exists_observer {panel : Panel τ} {p : Plan}
    {callbacks : CallbackRegistry} (h : panel.IsBuiltFrom p callbacks) {o : Observer τ}
    (ho : o ∈ panel.observers) :
    ∃ c ∈ p.observers, Observer.ofConfig c callbacks = .ok o :=
  Traversal.exists_of_mem_built (Plan.buildObservers_eq_ok_iff.mp h.observers_built) ho

theorem Panel.isFresh_of_isBuiltFrom {panel : Panel τ} {p : Plan} {callbacks : CallbackRegistry}
    (h : panel.IsBuiltFrom p callbacks) : panel.IsFresh where
  monitor_open m hm := (h.exists_expectation hm).1
  seen_eq_zero m hm x hx := by
    obtain ⟨c, hc⟩ := (h.exists_expectation hm).2 x hx
    exact (Expectation.ofConfig_eq_ok_iff.mp hc).seen_eq_zero
  observer_fresh o ho := by
    obtain ⟨c, -, hc⟩ := h.exists_observer ho
    exact (Observer.ofConfig_eq_ok hc).1

end StreamVerdict
