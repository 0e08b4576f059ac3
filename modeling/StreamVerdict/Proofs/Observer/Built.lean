import StreamVerdict.Proofs.Observer.Stream
import StreamVerdict.Proofs.Traversal

/-!
# Observers as they are built

A configuration says what the qualifying events of an observer have to be
like. The observer that is built from it has seen nothing yet, and holds
exactly what the configuration says.

Main results:

* `Observer.exists_of_ofConfig` / `Observer.ofConfig_eq_ok` — what is built;
* `Observer.holds_iff` — the judgement of the observer and of its
  configuration.
-/

namespace StreamVerdict

namespace Observer

/-- Whether events are as a configuration says that they have to be:

* `headerMatch`: every event satisfies the requirements, if there are any;
* `orderedHeaderMatch`: each event satisfies the requirements at its place in the list, as far as
  both lists go;
* `callback`: the callback answers `true` to the last event, and if there is no event, the
  observer starts with a pass. -/
def Config.Holds (c : Config) (callbacks : CallbackRegistry) (es : List Event) : Prop :=
  match c.kind, c.requirements with
  | .headerMatch, none => True
  | .headerMatch, some (.single clause) =>
    ∃ r : Requirements, Requirements.ofConfig clause = .ok r ∧ ∀ e ∈ es, r.IsSatisfiedBy e
  | .headerMatch, some (.ordered _) => False
  | .orderedHeaderMatch, some (.ordered clauses) =>
    ∃ rs : List Requirements, clauses.mapM Requirements.ofConfig = .ok rs ∧
      ∀ (n : Nat) (r : Requirements) (e : Event),
        rs[n]? = some r → es[n]? = some e → r.IsSatisfiedBy e
  | .orderedHeaderMatch, _ => False
  | .callback, _ =>
    ∃ name callback, c.callback = some name ∧ callbacks.get name = .ok callback ∧
      match es.getLast? with
      | some e => callback e = true
      | none => c.start = .pass

variable {τ : Type}

/-- Everything about an observer that is built. -/
theorem exists_of_ofConfig {c : Config} {callbacks : CallbackRegistry} {o : Observer τ}
    (h : ofConfig c callbacks = .ok o) :
    ∃ pattern quota outcome,
      Pattern.compile ((Event.nameField, subscription c.event) :: c.conditions.positive.entries)
        c.conditions.negative.entries = .ok pattern ∧
      Outcome.ofConfig c callbacks = .ok outcome ∧
      o = { label := c.name.getD c.event, connections := c.connections, pattern, quota, outcome,
            passed := c.kind ≠ .callback || c.start = .pass, action := c.action,
            triggerOnCount := c.triggerOnCount } := by
  -- the guards on the kind are passed, so the pattern is compiled and the rest is read
  unfold ofConfig at h
  split at h
  · cases h
  · split at h
    · cases h
    · obtain ⟨pattern, hPattern, h⟩ := Traversal.bind_eq_ok_iff.mp h
      -- a quota that is written and one that is not are put to the same use
      dsimp only at h
      split at h
      all_goals
        obtain ⟨quota, -, h⟩ := Traversal.bind_eq_ok_iff.mp h
        obtain ⟨outcome, hOutcome, h⟩ := Traversal.bind_eq_ok_iff.mp h
        cases h
        exact ⟨pattern, quota, outcome, hPattern, hOutcome, rfl⟩

/-- An observer that is built is fresh, and its judge and what it starts with are those of its
configuration. -/
theorem ofConfig_eq_ok {c : Config} {callbacks : CallbackRegistry} {o : Observer τ}
    (h : ofConfig c callbacks = .ok o) :
    o.IsFresh ∧ Outcome.ofConfig c callbacks = .ok o.outcome ∧
      o.passed = (c.kind ≠ .callback || c.start = .pass : Bool) := by
  obtain ⟨pattern, quota, outcome, -, hOutcome, rfl⟩ := exists_of_ofConfig h
  exact ⟨⟨rfl, rfl, rfl⟩, hOutcome, rfl⟩

/-- A judge of events in order is built from a list of requirements, and begins with the first. -/
theorem outcome_of_orderedHeaderMatch {c : Config} {callbacks : CallbackRegistry}
    {outcome : Outcome} (h : Outcome.ofConfig c callbacks = .ok outcome)
    (hk : c.kind = .orderedHeaderMatch) :
    ∃ clauses rs, c.requirements = some (.ordered clauses) ∧
      clauses.mapM Requirements.ofConfig = .ok rs ∧ outcome = .orderedHeaderMatch rs 0 := by
  unfold Outcome.ofConfig at h
  rw [hk] at h
  cases hr : c.requirements with
  | none =>
    rw [hr] at h
    cases h
  | some requirements =>
    rw [hr] at h
    cases requirements with
    | single clause => cases h
    | ordered clauses =>
      obtain ⟨rs, hrs, hBuilt⟩ := Traversal.bind_eq_ok_iff.mp h
      cases hBuilt
      exact ⟨clauses, rs, rfl, hrs, rfl⟩

/-- Requirements without clauses ask for nothing. -/
theorem isSatisfiedBy_trivial (e : Event) : Requirements.trivial.IsSatisfiedBy e := by
  simp [Requirements.IsSatisfiedBy, Requirements.trivial]

/-- An observer holds what its configuration says. -/
theorem holds_iff {c : Config} {callbacks : CallbackRegistry} {o : Observer τ}
    (h : ofConfig c callbacks = .ok o) (es : List Event) :
    o.outcome.Holds o.passed es ↔ c.Holds callbacks es := by
  obtain ⟨-, hOutcome, hPassed⟩ := ofConfig_eq_ok h
  rw [hPassed]
  generalize o.outcome = outcome at hOutcome
  unfold Config.Holds
  -- each kind reads its own part of the configuration
  cases hk : c.kind with
  | headerMatch =>
    cases hr : c.requirements with
    | none =>
      unfold Outcome.ofConfig at hOutcome
      rw [hk, hr] at hOutcome
      cases hOutcome
      simp [Outcome.Holds, isSatisfiedBy_trivial]
    | some requirements =>
      unfold Outcome.ofConfig at hOutcome
      rw [hk, hr] at hOutcome
      cases requirements with
      | ordered clauses => cases hOutcome
      | single clause =>
        obtain ⟨r, hClause, hBuilt⟩ := Traversal.bind_eq_ok_iff.mp hOutcome
        cases hBuilt
        simp [Outcome.Holds, hClause]
  | orderedHeaderMatch =>
    -- one requirement to each event
    obtain ⟨clauses, rs, hr, hrs, hBuilt⟩ := outcome_of_orderedHeaderMatch hOutcome hk
    simp [Outcome.Holds, hr, hrs, hBuilt]
  | callback =>
    unfold Outcome.ofConfig at hOutcome
    rw [hk] at hOutcome
    cases hn : c.callback with
    | none =>
      simp only [hn] at hOutcome
      cases hOutcome
    | some name =>
      simp only [hn] at hOutcome
      obtain ⟨callback, hCallback, hBuilt⟩ := Traversal.bind_eq_ok_iff.mp hOutcome
      cases hBuilt
      -- the callback decides by the last event, if there is one
      cases hl : es.getLast? with
      | none => simp [Outcome.Holds, hCallback, hl]
      | some e => simp [Outcome.Holds, hCallback, hl]

end Observer

end StreamVerdict
