import StreamVerdict.Proofs.Pattern.FieldNames
import StreamVerdict.Proofs.Plan.Built
import StreamVerdict.Proofs.Quota.Grammar

/-!
# Offences of a plan

A plan offends in as many places as its author has made mistakes. Here all
of them are listed, in the order in which a reader of the plan comes across
them; which of them is reported is then no more than the head of the list. A
plan without any is valid, and is built.

Building stops at the first error. So what is to be shown of each builder is
one thing (`FailsWithFirst`): it fails with the head of a list, and succeeds
if the list is empty. This goes through chains and lists of builds by
appending the lists.

Main definitions:

* `Expectation.Config.offences`, `Observer.Config.offences`, `Plan.offences` —
  the offences in order;
* `Expectation.Config.IsValid`, `Observer.Config.IsValid`, `Plan.IsValid` —
  what has none.

Main results:

* `FailsWithFirst.bind` / `FailsWithFirst.mapM` — chains and lists of builds;
* `Quota.isOrdered_of_parse` — a quota that was read has its minimum below its
  maximum;
* `Plan.rejected_with_first_offence` — the builder of dispatchers.
-/

namespace StreamVerdict

/-! ## First offences -/

/-- Fails with the first of some errors, and only if there are any. -/
def FailsWithFirst {α : Type} (x : Except Error α) (offences : List Error) : Prop :=
  ∀ err, x = .error err ↔ offences.head? = some err

/-- An error, if there is a reason for it. -/
def Error.when (p : Prop) [Decidable p] (err : Error) : List Error :=
  if p then [err] else []

theorem Error.when_eq_nil_iff {p : Prop} [Decidable p] {err : Error} :
    Error.when p err = [] ↔ ¬ p := by
  unfold when
  split <;> simp [*]

namespace FailsWithFirst

variable {α β : Type} {offences : List Error}

theorem ok (a : α) : FailsWithFirst (.ok a : Except Error α) [] := by
  intro err
  simp

theorem error (err : Error) (later : List Error) :
    FailsWithFirst (.error err : Except Error α) (err :: later) := by
  intro err'
  simp

/-- A build succeeds if there is no offence. -/
theorem exists_ok_iff {x : Except Error α} (h : FailsWithFirst x offences) :
    (∃ a, x = .ok a) ↔ offences = [] := by
  cases x with
  | error err =>
    have hHead := (h err).mp rfl
    constructor
    · rintro ⟨a, ha⟩
      cases ha
    · rintro rfl
      cases hHead
  | ok a =>
    refine ⟨fun _ => ?_, fun _ => ⟨a, rfl⟩⟩
    cases offences with
    | nil => rfl
    | cons err later => cases (h err).mpr rfl

/-- The offences of a chain are those of its steps, one after the other. -/
theorem bind {x : Except Error α} {f : α → Except Error β} {later : List Error}
    (hx : FailsWithFirst x offences) (hf : ∀ a, x = .ok a → FailsWithFirst (f a) later) :
    FailsWithFirst (x >>= f) (offences ++ later) := by
  intro err
  cases x with
  | error first =>
    obtain ⟨rest, rfl⟩ := List.head?_eq_some_iff.mp ((hx first).mp rfl)
    simp [Bind.bind, Except.bind]
  | ok a =>
    rw [hx.exists_ok_iff.mp ⟨a, rfl⟩, List.nil_append]
    exact hf a rfl err

/-- A last step that cannot fail adds no offence. -/
theorem bind_ok {x : Except Error α} (hx : FailsWithFirst x offences) (f : α → β) :
    FailsWithFirst (x >>= fun a => .ok (f a)) offences := by
  have hChain := hx.bind fun a _ => ok (f a)
  rwa [List.append_nil] at hChain

/-- The offences of a list are those of its entries. -/
theorem mapM {f : α → Except Error β} {offencesOf : α → List Error} {xs : List α}
    (hf : ∀ x ∈ xs, FailsWithFirst (f x) (offencesOf x)) :
    FailsWithFirst (xs.mapM f) (xs.flatMap offencesOf) := by
  induction xs with
  | nil => exact ok []
  | cons x xs ih =>
    rw [List.mapM_cons, List.flatMap_cons]
    refine (hf x List.mem_cons_self).bind fun y _ => ?_
    exact (ih fun z hz => hf z (List.mem_cons_of_mem _ hz)).bind_ok (y :: ·)

/-- An offence that is looked for before anything is built. -/
theorem when {p : Prop} [Decidable p] {err : Error} {x : Except Error α}
    (hx : ¬ p → FailsWithFirst x offences) :
    FailsWithFirst (if p then .error err else x) (Error.when p err ++ offences) := by
  unfold Error.when
  split
  · exact error err offences
  next hp => exact hx hp

end FailsWithFirst

/-! ## Clauses -/

/-- A text that is a regular expression, once it is anchored. -/
def Clause.Compiles (source : String) : Prop :=
  ∃ regex, Regex.compile source = .ok regex

/-- The offence of a field and its expression: that it is none. -/
def Clause.offences (clause : String × String) : List Error :=
  match Regex.compile clause.2 with
  | .ok _ => []
  | .error fault => [.invalidRegex clause.1 clause.2 fault.message]

theorem Clause.offences_eq_nil_iff {clause : String × String} :
    Clause.offences clause = [] ↔ Clause.Compiles clause.2 := by
  unfold offences Compiles
  cases Regex.compile clause.2 with
  | error fault => simp
  | ok regex => simp

theorem Clause.compile_failsWithFirst (clause : String × String) :
    FailsWithFirst (Clause.compile clause.1 clause.2) (Clause.offences clause) := by
  unfold compile offences
  cases Regex.compile clause.2 with
  | error fault => exact .error _ _
  | ok regex => exact .ok _

/-- The offences of clauses are those of the positive ones and then those of the negative ones. -/
theorem Pattern.compile_failsWithFirst (positive negative : List (String × String)) :
    FailsWithFirst (Pattern.compile positive negative)
      (positive.flatMap Clause.offences ++ negative.flatMap Clause.offences) := by
  refine (FailsWithFirst.mapM fun clause _ => Clause.compile_failsWithFirst clause).bind
    fun _ _ => ?_
  have hNegative : FailsWithFirst
      (negative.mapM fun clause => Clause.compile clause.1 clause.2)
      (negative.flatMap Clause.offences) :=
    .mapM fun clause _ => Clause.compile_failsWithFirst clause
  exact hNegative.bind_ok _

/-! ## Quotas -/

/-- The offence of a quota: that its text cannot be read. -/
def Quota.Written.offences (w : Quota.Written) : List Error :=
  match w.quota with
  | .ok _ => []
  | .error err => [err]

theorem Quota.Written.offences_eq_nil_iff {w : Quota.Written} :
    w.offences = [] ↔ ∃ q, w.quota = .ok q := by
  unfold offences
  cases w.quota with
  | error err => simp
  | ok q => simp

theorem Quota.Written.quota_failsWithFirst (w : Quota.Written) :
    FailsWithFirst w.quota w.offences := by
  unfold offences
  cases w.quota with
  | error err => exact .error err []
  | ok q => exact .ok q

/-- The minimum of a quota does not lie above its maximum. -/
def Quota.IsOrdered (q : Quota) : Prop :=
  ∀ max ∈ q.max, q.min ≤ max

theorem Quota.isOrdered_exactly (n : UInt64) : (exactly n).IsOrdered := by
  simp [IsOrdered, exactly]

theorem Quota.isOrdered_optional : optional.IsOrdered := by
  simp [IsOrdered, optional]

theorem Quota.isOrdered_any : any.IsOrdered := by
  simp [IsOrdered, any]

/-- A quota that was read is ordered, in whatever form it was written. -/
theorem Quota.isOrdered_of_parse {text : String} {q : Quota} (h : parse text = .ok q) :
    q.IsOrdered :=
  min_le_max_of_parse h

theorem Quota.Written.isOrdered {w : Quota.Written} {q : Quota} (h : w.quota = .ok q) :
    q.IsOrdered := by
  cases w with
  | number n =>
    cases h
    exact isOrdered_exactly n
  | text s =>
    change parse s = .ok q at h
    exact isOrdered_of_parse h

/-! ## Expectations -/

namespace Expectation

/-- The offences in how often a configured expectation is to be met. That a count is given besides
`optional` comes before what may be wrong with the count. -/
def Config.quotaOffences (c : Config) : List Error :=
  Error.when (c.toFields.isOptional = true ∧ c.toFields.count ≠ none)
    (.configuration "'optional' and 'count' are mutually exclusive") ++
  c.toFields.count.toList.flatMap (·.offences)

/-- The offences of a configured expectation. -/
def Config.offences (c : Config) : List Error :=
  let positive := c.toFields.positive.toFields
  c.quotaOffences ++
  ((positive.flatMap Clause.offences ++ c.toFields.negative.entries.flatMap Clause.offences) ++
  Error.when (positive = []) .emptyPattern)

/-- A configured expectation that can be built. -/
structure Config.IsValid (c : Config) : Prop where
  not_both : ¬ (c.toFields.isOptional = true ∧ c.toFields.count ≠ none)
  count_reads : ∀ count ∈ c.toFields.count, ∃ q, count.quota = .ok q
  clauses_compile :
    ∀ clause ∈ c.toFields.positive.toFields ++ c.toFields.negative.entries,
      Clause.Compiles clause.2
  positive_ne_nil : c.toFields.positive.toFields ≠ []

theorem Config.offences_eq_nil_iff {c : Config} : c.offences = [] ↔ c.IsValid := by
  unfold offences quotaOffences
  simp only [List.append_eq_nil_iff, List.flatMap_eq_nil_iff, Error.when_eq_nil_iff,
    Clause.offences_eq_nil_iff, Quota.Written.offences_eq_nil_iff, Option.mem_toList]
  constructor
  · rintro ⟨⟨hBoth, hCount⟩, ⟨hPositive, hNegative⟩, hne⟩
    refine ⟨hBoth, hCount, fun clause hClause => ?_, hne⟩
    exact (List.mem_append.mp hClause).elim (hPositive clause) (hNegative clause)
  · intro h
    exact ⟨⟨h.not_both, h.count_reads⟩,
      ⟨fun clause hClause => h.clauses_compile clause (List.mem_append_left _ hClause),
        fun clause hClause => h.clauses_compile clause (List.mem_append_right _ hClause)⟩,
      h.positive_ne_nil⟩

theorem Config.quota_failsWithFirst (c : Config) : FailsWithFirst c.quota c.quotaOffences := by
  unfold quotaOffences
  cases c with
  | short source =>
    -- the short form has no count that could fail
    show FailsWithFirst (.ok Quota.once) _
    simpa [Config.toFields, Error.when] using FailsWithFirst.ok Quota.once
  | full f =>
    show FailsWithFirst f.quota _
    unfold Fields.quota Config.toFields
    cases hCount : f.count with
    | none =>
      cases hOptional : f.isOptional with
      | true => simpa [Error.when] using FailsWithFirst.ok Quota.optional
      | false => simpa [Error.when] using FailsWithFirst.ok Quota.once
    | some count =>
      cases hOptional : f.isOptional with
      | true => simpa [Error.when] using FailsWithFirst.error _ count.offences
      | false => simpa [Error.when] using count.quota_failsWithFirst

theorem ofConfig_failsWithFirst (c : Config) : FailsWithFirst (ofConfig c) c.offences := by
  unfold ofConfig Config.offences
  refine c.quota_failsWithFirst.bind fun quota _ => ?_
  refine (Pattern.compile_failsWithFirst _ _).bind fun pattern hPattern => ?_
  -- a pattern is empty exactly if there are no positive clauses in its configuration
  have hEmpty : pattern.isEmpty = true ↔ c.toFields.positive.toFields = [] := by
    rw [Pattern.isEmpty_of_compile hPattern, List.isEmpty_iff]
  simp only [hEmpty]
  rw [← List.append_nil (Error.when _ _)]
  exact .when fun _ => .ok _

/-- An expectation that may be shown its first event. -/
structure IsReady (x : Expectation) : Prop where
  seen_eq_zero : x.seen = 0
  quota_ordered : x.quota.IsOrdered
  positive_ne_nil : x.pattern.positive ≠ []

theorem Config.isOrdered_quota {c : Config} {q : Quota} (h : c.quota = .ok q) : q.IsOrdered := by
  cases c with
  | short source =>
    cases h
    exact Quota.isOrdered_exactly 1
  | full f =>
    change f.quota = .ok q at h
    unfold Fields.quota at h
    split at h
    · cases h
    · cases h
      exact Quota.isOrdered_optional
    · exact Quota.Written.isOrdered h
    · cases h
      exact Quota.isOrdered_exactly 1

theorem isReady_of_ofConfig {c : Config} {x : Expectation} (h : ofConfig c = .ok x) :
    x.IsReady := by
  have hBuilt := ofConfig_eq_ok_iff.mp h
  have hNe : x.pattern.positive ≠ [] := by
    simpa [Pattern.isEmpty] using hBuilt.isEmpty_eq_false
  exact ⟨hBuilt.seen_eq_zero, Config.isOrdered_quota hBuilt.quota_built, hNe⟩

end Expectation

/-! ## Observers -/

/-- Nothing is left of a list of characters exactly if all of them are blanks. -/
theorem Text.trimChars_eq_nil_iff {cs : List Char} :
    trimChars cs = [] ↔ ∀ c ∈ cs, isBlank c = true := by
  unfold trimChars
  rw [List.reverse_eq_nil_iff, List.dropWhile_eq_nil_iff]
  constructor
  · intro h
    refine List.dropWhile_eq_nil_iff.mp ?_
    cases hRest : cs.dropWhile isBlank with
    | nil => rfl
    | cons c rest =>
      -- what the blanks in front leave would begin with a character that is none
      have hHead : ¬ isBlank c = true := by
        have hNot := List.head?_dropWhile_not isBlank cs
        simpa [hRest] using hNot
      exact absurd (h c (by simp [hRest])) hHead
  · intro h c hc
    exact h c ((List.dropWhile_sublist isBlank).mem (List.mem_reverse.mp hc))

/-- The offences of configured requirements. -/
def ClauseConfig.offences (c : ClauseConfig) : List Error :=
  c.positive.entries.flatMap Clause.offences ++ c.negative.entries.flatMap Clause.offences

/-- All expressions of configured requirements compile. -/
def ClauseConfig.Compiles (c : ClauseConfig) : Prop :=
  ∀ clause ∈ c.positive.entries ++ c.negative.entries, Clause.Compiles clause.2

theorem ClauseConfig.offences_eq_nil_iff {c : ClauseConfig} : c.offences = [] ↔ c.Compiles := by
  unfold offences Compiles
  rw [← List.flatMap_append, List.flatMap_eq_nil_iff]
  exact forall₂_congr fun clause _ => Clause.offences_eq_nil_iff

theorem Requirements.ofConfig_failsWithFirst (c : ClauseConfig) :
    FailsWithFirst (Requirements.ofConfig c) c.offences :=
  (Pattern.compile_failsWithFirst c.positive.entries c.negative.entries).bind_ok Requirements.mk

theorem CallbackRegistry.get_failsWithFirst (r : CallbackRegistry) (name : String) :
    FailsWithFirst (r.get name) (Error.when (r.contains name = false) (.unknownCallback name)) := by
  unfold get contains
  cases h : r.entries.find? (·.1 == name) with
  | none =>
    have hNo : r.entries.any (·.1 == name) = false := by
      simpa using List.find?_eq_none.mp h
    rw [hNo]
    exact .error _ []
  | some entry =>
    have hYes : r.entries.any (·.1 == name) = true :=
      List.any_eq_true.mpr ⟨entry, List.mem_of_find?_eq_some h,
        List.find?_some (p := fun entry : String × Callback => entry.1 == name) h⟩
    rw [hYes]
    exact .ok entry.2

namespace Observer

/-- The offences in how a configured observer judges events. Only what its kind reads can offend. -/
def Config.judgeOffences (c : Config) (callbacks : CallbackRegistry) : List Error :=
  let wrong (reason : String) : Error := .configuration s!"observer '{c.event}': {reason}"
  match c.kind, c.requirements with
  | .headerMatch, none => []
  | .headerMatch, some (.single clause) => clause.offences
  | .headerMatch, some (.ordered _) => [wrong "headermatch takes a single requirements clause"]
  | .orderedHeaderMatch, some (.ordered clauses) => clauses.flatMap (·.offences)
  | .orderedHeaderMatch, _ => [wrong "orderedheadermatch needs a list of requirements"]
  | .callback, _ =>
    match c.callback with
    | none => [wrong "callback type needs a 'callback' name"]
    | some name => Error.when (callbacks.contains name = false) (.unknownCallback name)

/-- The offences of a configured observer. -/
def Config.offences (c : Config) (callbacks : CallbackRegistry) : List Error :=
  Error.when (Text.trimChars c.event.toList = [])
    (.configuration "observer has no event to subscribe to") ++
  (Error.when (c.connections = [])
    (.configuration s!"observer '{c.event}': empty connection id list") ++
  (c.conditions.offences ++
  (c.count.toList.flatMap (·.offences) ++ c.judgeOffences callbacks)))

/-- A way to judge events that can be built: the requirements have the shape that the kind asks
for, and compile, and the callback is known. -/
def Config.HasValidJudge (c : Config) (callbacks : CallbackRegistry) : Prop :=
  match c.kind, c.requirements with
  | .headerMatch, none => True
  | .headerMatch, some (.single clause) => clause.Compiles
  | .headerMatch, some (.ordered _) => False
  | .orderedHeaderMatch, some (.ordered clauses) => ∀ clause ∈ clauses, clause.Compiles
  | .orderedHeaderMatch, _ => False
  | .callback, _ => ∃ name, c.callback = some name ∧ callbacks.contains name = true

/-- A configured observer that can be built. -/
structure Config.IsValid (c : Config) (callbacks : CallbackRegistry) : Prop where
  event_not_blank : ∃ char ∈ c.event.toList, Text.isBlank char = false
  exists_listed : ∃ id : ConnectionId, id.IsListedIn c.id
  conditions_compile : c.conditions.Compiles
  count_reads : ∀ count ∈ c.count, ∃ q, count.quota = .ok q
  judge_valid : c.HasValidJudge callbacks

theorem Config.judgeOffences_eq_nil_iff {c : Config} {callbacks : CallbackRegistry} :
    c.judgeOffences callbacks = [] ↔ c.HasValidJudge callbacks := by
  unfold judgeOffences HasValidJudge
  cases c.kind with
  | headerMatch =>
    rcases c.requirements with - | ⟨clauses⟩ | ⟨clause⟩
    · simp
    · simp
    · exact ClauseConfig.offences_eq_nil_iff
  | orderedHeaderMatch =>
    rcases c.requirements with - | ⟨clauses⟩ | ⟨clause⟩
    · simp
    · simp [ClauseConfig.offences_eq_nil_iff]
    · simp
  | callback =>
    cases c.callback with
    | none => simp
    | some name => simp [Error.when_eq_nil_iff]

theorem Config.connections_eq_nil_iff {c : Config} :
    c.connections = [] ↔ ¬ ∃ id : ConnectionId, id.IsListedIn c.id := by
  simp only [connections, List.eq_nil_iff_forall_not_mem, ConnectionId.mem_readList, not_exists]

theorem Config.offences_eq_nil_iff {c : Config} {callbacks : CallbackRegistry} :
    c.offences callbacks = [] ↔ c.IsValid callbacks := by
  unfold offences
  simp only [List.append_eq_nil_iff, List.flatMap_eq_nil_iff, Error.when_eq_nil_iff,
    ClauseConfig.offences_eq_nil_iff, Quota.Written.offences_eq_nil_iff, Option.mem_toList,
    judgeOffences_eq_nil_iff, connections_eq_nil_iff, not_not, Text.trimChars_eq_nil_iff]
  constructor
  · rintro ⟨hEvent, hListed, hConditions, hCount, hJudge⟩
    exact ⟨by simpa using hEvent, hListed, hConditions, hCount, hJudge⟩
  · intro h
    exact ⟨by simpa using h.event_not_blank, h.exists_listed, h.conditions_compile,
      h.count_reads, h.judge_valid⟩

theorem judge_failsWithFirst (c : Config) (callbacks : CallbackRegistry) :
    FailsWithFirst (Outcome.ofConfig c callbacks) (c.judgeOffences callbacks) := by
  unfold Outcome.ofConfig Config.judgeOffences
  cases c.kind with
  | headerMatch =>
    rcases c.requirements with - | ⟨clauses⟩ | ⟨clause⟩
    · exact .ok _
    · exact .error _ []
    · exact (Requirements.ofConfig_failsWithFirst clause).bind_ok Outcome.headerMatch
  | orderedHeaderMatch =>
    rcases c.requirements with - | ⟨clauses⟩ | ⟨clause⟩
    · exact .error _ []
    · have hClauses : FailsWithFirst (clauses.mapM Requirements.ofConfig)
          (clauses.flatMap (·.offences)) :=
        .mapM fun clause _ => Requirements.ofConfig_failsWithFirst clause
      exact hClauses.bind_ok (Outcome.orderedHeaderMatch · 0)
    · exact .error _ []
  | callback =>
    cases c.callback with
    | none => exact .error _ []
    | some name => exact (callbacks.get_failsWithFirst name).bind_ok (Outcome.callback name)

variable {τ : Type}

/-- The expression for the name of an event is no offence if it compiles. -/
theorem ofConfig_failsWithFirst {c : Config} (callbacks : CallbackRegistry)
    (hName : Clause.Compiles (subscription c.event)) :
    FailsWithFirst (ofConfig c callbacks : Except Error (Observer τ)) (c.offences callbacks) := by
  unfold ofConfig Config.offences
  refine FailsWithFirst.when fun _ => ?_
  refine FailsWithFirst.when fun _ => ?_
  have hSubscription : Clause.offences (Event.nameField, subscription c.event) = [] :=
    Clause.offences_eq_nil_iff.mpr hName
  have hConditions := Pattern.compile_failsWithFirst
    ((Event.nameField, subscription c.event) :: c.conditions.positive.entries)
    c.conditions.negative.entries
  rw [List.flatMap_cons, hSubscription, List.nil_append] at hConditions
  refine hConditions.bind fun pattern _ => ?_
  have hJudge := judge_failsWithFirst c callbacks
  -- a count that is left out cannot fail, and one that is written may
  dsimp only
  cases c.count with
  | none => exact (FailsWithFirst.ok Quota.any).bind fun quota _ => hJudge.bind_ok _
  | some count =>
    rw [Option.toList_some, List.flatMap_singleton]
    exact count.quota_failsWithFirst.bind fun quota _ => hJudge.bind_ok _

/-- An observer that may be told of its first connection. -/
structure IsReady (o : Observer τ) : Prop where
  state_eq : o.state = .unregistered
  count_eq_zero : o.count = 0
  quota_ordered : o.quota.IsOrdered
  positive_ne_nil : o.pattern.positive ≠ []
  connections_ne_nil : o.connections ≠ []

theorem isReady_of_ofConfig {c : Config} {callbacks : CallbackRegistry} {o : Observer τ}
    (h : ofConfig c callbacks = .ok o) : o.IsReady := by
  unfold ofConfig at h
  split at h
  · cases h
  split at h
  · cases h
  next hConnections =>
    obtain ⟨pattern, hPattern, h⟩ := Traversal.bind_eq_ok_iff.mp h
    -- whatever else is configured, the name of the event is a positive clause
    have hPositive : pattern.positive ≠ [] := by
      simpa [Pattern.isEmpty] using Pattern.isEmpty_of_compile hPattern
    dsimp only at h
    cases hCount : c.count with
    | none =>
      rw [hCount] at h
      obtain ⟨quota, hQuota, h⟩ := Traversal.bind_eq_ok_iff.mp h
      obtain ⟨outcome, -, h⟩ := Traversal.bind_eq_ok_iff.mp h
      cases hQuota
      cases h
      exact ⟨rfl, rfl, Quota.isOrdered_any, hPositive, hConnections⟩
    | some count =>
      rw [hCount] at h
      obtain ⟨quota, hQuota, h⟩ := Traversal.bind_eq_ok_iff.mp h
      obtain ⟨outcome, -, h⟩ := Traversal.bind_eq_ok_iff.mp h
      cases h
      exact ⟨rfl, rfl, Quota.Written.isOrdered hQuota, hPositive, hConnections⟩

end Observer

/-! ## Plans -/

namespace Plan

/-- The offences of a plan: those of its expectations, and then those of its observers. -/
def offences (p : Plan) (callbacks : CallbackRegistry) : List Error :=
  (p.conditions.toList.flatMap fun c => c.expectations.flatMap (·.offences)) ++
    p.observers.flatMap (·.offences callbacks)

/-- A plan that a dispatcher can be built from. -/
structure IsValid (p : Plan) (callbacks : CallbackRegistry) : Prop where
  conditions_valid : ∀ set ∈ p.conditions, ∀ c ∈ set.expectations, c.IsValid
  observers_valid : ∀ c ∈ p.observers, c.IsValid callbacks

theorem offences_eq_nil_iff {p : Plan} {callbacks : CallbackRegistry} :
    p.offences callbacks = [] ↔ p.IsValid callbacks := by
  unfold offences
  simp only [List.append_eq_nil_iff, List.flatMap_eq_nil_iff, Option.mem_toList,
    Expectation.Config.offences_eq_nil_iff, Observer.Config.offences_eq_nil_iff]
  exact ⟨fun h => ⟨h.1, h.2⟩, fun h => ⟨h.conditions_valid, h.observers_valid⟩⟩

theorem buildMonitor_failsWithFirst (p : Plan) :
    FailsWithFirst p.buildMonitor
      (p.conditions.toList.flatMap fun c => c.expectations.flatMap (·.offences)) := by
  unfold buildMonitor
  cases p.conditions with
  | none => exact .ok _
  | some c =>
    rw [Option.toList_some, List.flatMap_singleton]
    have hSet : FailsWithFirst (ExpectationSet.ofConfig c) (c.expectations.flatMap (·.offences)) :=
      (FailsWithFirst.mapM fun c _ => Expectation.ofConfig_failsWithFirst c).bind_ok _
    have hMonitor : FailsWithFirst (Monitor.ofConfig c) (c.expectations.flatMap (·.offences)) :=
      hSet.bind_ok _
    exact hMonitor.bind_ok some

variable {τ : Type}

theorem buildObservers_failsWithFirst {p : Plan} (callbacks : CallbackRegistry)
    (hName : ∀ c ∈ p.observers, Clause.Compiles (Observer.subscription c.event)) :
    FailsWithFirst (p.buildObservers callbacks : Except Error (ObserverGroup τ))
      (p.observers.flatMap (·.offences callbacks)) := by
  have hObservers := FailsWithFirst.mapM fun c hc =>
    Observer.ofConfig_failsWithFirst (τ := τ) callbacks (hName c hc)
  exact hObservers.bind_ok ObserverGroup.mk

/--
**A plan is rejected with its first offence.** For every plan and all
callbacks, if the names of the events that observers subscribe to make regular
expressions once they are escaped:

1. a dispatcher can be built exactly if every configured expectation and every
   configured observer is valid;
2. if none can be built, the error is the first offence: expectations come
   before observers, both in the order of the plan, and each lists its own
   offences in the order in which it is read;
3. in what is built, nothing has been counted yet, every quota has its minimum
   no higher than its maximum, every pattern has a positive clause, and every
   observer has a connection to wait for.
-/
theorem rejected_with_first_offence (p : Plan) (callbacks : CallbackRegistry)
    (hName : ∀ c ∈ p.observers, Clause.Compiles (Observer.subscription c.event)) :
    let built : Except Error (Dispatcher (Sink τ)) := p.buildDispatcher callbacks
    ((∃ d, built = .ok d) ↔ p.IsValid callbacks) ∧
    (∀ err, built = .error err ↔ (p.offences callbacks).head? = some err) ∧
    ∀ d, built = .ok d → ∃ panel : Panel τ, panel.IsBuiltFrom p callbacks ∧
      d = { sinks := panel.sinks } ∧
      (∀ m ∈ panel.monitor, ∀ x ∈ m.set.expectations, x.IsReady) ∧
      ∀ o ∈ panel.observers, o.IsReady := by
  intro built
  have hBuilt : FailsWithFirst built (p.offences callbacks) := by
    have hObservers := buildObservers_failsWithFirst (τ := τ) callbacks hName
    rw [show built = _ from p.buildDispatcher_eq callbacks]
    exact p.buildMonitor_failsWithFirst.bind fun monitor _ => hObservers.bind_ok _
  refine ⟨?_, hBuilt, fun d hd => ?_⟩
  · rw [hBuilt.exists_ok_iff, offences_eq_nil_iff]
  · obtain ⟨panel, hPanel, rfl⟩ := buildDispatcher_eq_ok_iff.mp hd
    -- the parts are ready because each comes from a configuration
    refine ⟨panel, hPanel, rfl, fun m hm x hx => ?_, fun o ho => ?_⟩
    · obtain ⟨c, hc⟩ := (hPanel.exists_expectation hm).2 x hx
      exact Expectation.isReady_of_ofConfig hc
    · obtain ⟨c, -, hc⟩ := hPanel.exists_observer ho
      exact Observer.isReady_of_ofConfig hc

/-- A plan with a count in reverse, an open group after it, and an observer without connections. -/
def muddledPlan : Plan where
  conditions := some
    { expectations :=
        [.short "open", .full { positive := .text "(", count := some (.text "4-2") }] }
  observers := [{ event := "Lamp", id := " , " }]

theorem muddledPlan_rejected :
    (∀ c ∈ muddledPlan.observers, Clause.Compiles (Observer.subscription c.event)) ∧
    (muddledPlan.buildDispatcher {} : Except Error (Dispatcher (Sink TestRun))) =
      .error (.countRange 4 2) ∧ ¬ muddledPlan.IsValid {} := by
  have hName : ∀ c ∈ muddledPlan.observers, Clause.Compiles (Observer.subscription c.event) := by
    simp only [muddledPlan, List.forall_mem_singleton]
    exact ⟨_, rfl⟩
  obtain ⟨hValid, hError, -⟩ := rejected_with_first_offence (τ := TestRun) muddledPlan {} hName
  have hFirst := (hError (.countRange 4 2)).mpr (by decide +kernel)
  refine ⟨hName, hFirst, fun h => ?_⟩
  obtain ⟨d, hd⟩ := hValid.mpr h
  rw [hFirst] at hd
  cases hd

end Plan

end StreamVerdict
