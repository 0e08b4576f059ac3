import StreamVerdict.Configuration.Text
import StreamVerdict.Controller
import StreamVerdict.Proofs.ExpectationSet.OneEvent

/-!
# Errors while a test is set up, and while it runs

Whatever reads, writes or builds a part of a test fails with a mistake in the
configuration, and such an error never reports a miscount. Once the test
runs, no error is such a mistake: a check of an event reports the one
expectation that has seen too many, the check at the end reports all those
that have seen too few, and a stream that has ended reports nothing.

A build is a chain of smaller builds, and hands on their errors as they are.
So it is enough to look at the places where an error comes into being; the
lemmas on `FailsInSetup` carry what is found there through every chain.

Main results:

* `FailsInSetup.bind` / `FailsInSetup.mapM` — chains and lists of builds;
* `ExpectationSet.error_of_check` / `ExpectationSet.error_of_checkFinal` — the
  errors of a running test;
* `Error.setup_and_run_apart` — the two kinds never mix.
-/

namespace StreamVerdict

/-- Fails with mistakes in a configuration only, if at all. -/
def FailsInSetup {α : Type} (x : Except Error α) : Prop :=
  ∀ err, x = .error err → err.isConfiguration = true ∧ err.miscounts = []

/-- A mistake in a configuration is about no count of events. -/
theorem Error.miscounts_of_isConfiguration {err : Error} (h : err.isConfiguration = true) :
    err.miscounts = [] := by
  cases err with
  | overMatch m => cases h
  | underMatch ms => cases h
  | _ => rfl

/-! ## Chains of builds -/

namespace FailsInSetup

variable {α β : Type}

theorem ok (a : α) : FailsInSetup (.ok a : Except Error α) := by
  intro err h
  cases h

theorem error {err : Error} (h : err.isConfiguration = true) :
    FailsInSetup (.error err : Except Error α) := by
  intro err' h'
  cases h'
  exact ⟨h, err.miscounts_of_isConfiguration h⟩

/-- A chain fails as one of its steps does. -/
theorem bind {x : Except Error α} {f : α → Except Error β} (hx : FailsInSetup x)
    (hf : ∀ a, FailsInSetup (f a)) : FailsInSetup (x >>= f) := by
  cases x with
  | error err =>
    intro err' h
    cases h
    exact hx err rfl
  | ok a => exact hf a

theorem map {x : Except Error α} (hx : FailsInSetup x) (f : α → β) :
    FailsInSetup (x.map f) := by
  cases x with
  | error err =>
    intro err' h
    cases h
    exact hx err rfl
  | ok a => exact ok (f a)

/-- A list of builds fails as one of its entries does. -/
theorem mapM {f : α → Except Error β} (hf : ∀ a, FailsInSetup (f a)) (xs : List α) :
    FailsInSetup (xs.mapM f) := by
  induction xs with
  | nil => exact ok []
  | cons x xs ih =>
    rw [List.mapM_cons]
    exact (hf x).bind fun _ => ih.bind fun _ => ok _

end FailsInSetup

/-! ## Quotas -/

namespace Quota

theorem failsInSetup_range (min max : UInt64) : FailsInSetup (range min max) := by
  unfold range
  split
  · exact .error rfl
  · exact .ok _

theorem failsInSetup_readBound (text : String) (part : List Char) :
    FailsInSetup (readBound text part) := by
  unfold readBound
  dsimp only
  split
  · exact .ok _
  · exact .error rfl

theorem failsInSetup_parse (text : String) : FailsInSetup (parse text) := by
  unfold parse
  dsimp only
  split
  · exact .ok _
  split
  · exact .ok _
  split
  · -- `>n`: one above the bound, which must fit in a word
    refine (failsInSetup_readBound text _).bind fun n => ?_
    split
    · exact .error rfl
    · exact .ok _
  · -- `<n`: one below the bound, which must not be zero
    refine (failsInSetup_readBound text _).bind fun n => ?_
    split
    · exact .error rfl
    · exact .ok _
  · split
    · -- `m-n`
      exact (failsInSetup_readBound text _).bind fun min =>
        (failsInSetup_readBound text _).bind fun max => failsInSetup_range min max
    · -- `n`
      exact (failsInSetup_readBound text _).bind fun n => .ok _

theorem Written.failsInSetup_quota (w : Written) : FailsInSetup w.quota := by
  cases w with
  | number n => exact .ok _
  | text s => exact failsInSetup_parse s

end Quota

/-! ## Patterns and expectations -/

theorem Clause.failsInSetup_compile (field source : String) :
    FailsInSetup (Clause.compile field source) := by
  unfold compile
  split
  · exact .ok _
  · exact .error rfl

theorem Pattern.failsInSetup_compile (positive negative : List (String × String)) :
    FailsInSetup (Pattern.compile positive negative) :=
  (FailsInSetup.mapM (fun _ => Clause.failsInSetup_compile _ _) positive).bind fun _ =>
    (FailsInSetup.mapM (fun _ => Clause.failsInSetup_compile _ _) negative).bind fun _ => .ok _

theorem Expectation.Config.failsInSetup_quota (c : Expectation.Config) :
    FailsInSetup c.quota := by
  cases c with
  | short source => exact .ok _
  | full fields =>
    show FailsInSetup fields.quota
    unfold Fields.quota
    split
    · exact .error rfl
    · exact .ok _
    next count _ _ => exact count.failsInSetup_quota
    · exact .ok _

theorem Expectation.failsInSetup_ofConfig (c : Expectation.Config) :
    FailsInSetup (Expectation.ofConfig c) := by
  refine c.failsInSetup_quota.bind fun quota =>
    (Pattern.failsInSetup_compile _ _).bind fun pattern => ?_
  split
  · exact .error rfl
  · exact .ok _

theorem ExpectationSet.failsInSetup_ofConfig (c : ExpectationSet.Config) :
    FailsInSetup (ExpectationSet.ofConfig c) :=
  (FailsInSetup.mapM Expectation.failsInSetup_ofConfig c.expectations).bind fun _ => .ok _

theorem Monitor.failsInSetup_ofConfig (c : ExpectationSet.Config) :
    FailsInSetup (Monitor.ofConfig c) :=
  (ExpectationSet.failsInSetup_ofConfig c).bind fun _ => .ok _

/-! ## Observers -/

theorem CallbackRegistry.failsInSetup_get (r : CallbackRegistry) (name : String) :
    FailsInSetup (r.get name) := by
  unfold get
  split
  · exact .ok _
  · exact .error rfl

theorem Requirements.failsInSetup_ofConfig (c : ClauseConfig) :
    FailsInSetup (Requirements.ofConfig c) :=
  (Pattern.failsInSetup_compile _ _).bind fun _ => .ok _

theorem Outcome.failsInSetup_ofConfig (c : Observer.Config) (callbacks : CallbackRegistry) :
    FailsInSetup (Outcome.ofConfig c callbacks) := by
  unfold ofConfig
  dsimp only
  split
  · exact .ok _
  · exact (Requirements.failsInSetup_ofConfig _).bind fun _ => .ok _
  · exact .error rfl
  · exact (FailsInSetup.mapM Requirements.failsInSetup_ofConfig _).bind fun _ => .ok _
  · exact .error rfl
  · split
    · exact .error rfl
    · exact (callbacks.failsInSetup_get _).bind fun _ => .ok _

variable {τ : Type}

theorem Observer.failsInSetup_ofConfig (c : Config) (callbacks : CallbackRegistry) :
    FailsInSetup (ofConfig c callbacks : Except Error (Observer τ)) := by
  unfold ofConfig
  split
  · exact .error rfl
  split
  · exact .error rfl
  refine (Pattern.failsInSetup_compile _ _).bind fun pattern => ?_
  dsimp only
  split
  next count _ =>
    -- an ordered observer has a count to read first
    exact count.failsInSetup_quota.bind fun _ =>
      (Outcome.failsInSetup_ofConfig c callbacks).bind fun _ => .ok _
  · exact (FailsInSetup.ok _).bind fun _ =>
      (Outcome.failsInSetup_ofConfig c callbacks).bind fun _ => .ok _

theorem ObserverGroup.failsInSetup_ofConfigs (cs : List Observer.Config)
    (callbacks : CallbackRegistry) :
    FailsInSetup (ofConfigs cs callbacks : Except Error (ObserverGroup τ)) :=
  (FailsInSetup.mapM (fun c => Observer.failsInSetup_ofConfig c callbacks) cs).bind fun _ => .ok _

/-! ## Plans -/

namespace Plan

theorem failsInSetup_ofJson (text : String) : FailsInSetup (ofJson text) := by
  unfold ofJson
  split
  · exact .ok _
  · exact .error rfl

theorem failsInSetup_ofToml (text : String) : FailsInSetup (ofToml text) := by
  unfold ofToml
  split
  · exact .ok _
  · exact .error rfl

theorem failsInSetup_toToml (p : Plan) : FailsInSetup p.toToml := by
  unfold toToml
  split
  · exact .ok _
  · exact .error rfl

theorem failsInSetup_buildMonitor (p : Plan) : FailsInSetup p.buildMonitor := by
  unfold buildMonitor
  split
  · exact .ok _
  · exact (Monitor.failsInSetup_ofConfig _).bind fun _ => .ok _

theorem failsInSetup_buildDispatcher (p : Plan) (callbacks : CallbackRegistry) :
    FailsInSetup (p.buildDispatcher callbacks : Except Error (Dispatcher (Sink τ))) := by
  refine p.failsInSetup_buildMonitor.bind fun monitor => ?_
  dsimp only
  split
  · exact (FailsInSetup.ok _).bind fun _ => .ok _
  · exact ((ObserverGroup.failsInSetup_ofConfigs p.observers callbacks).map _).bind fun _ => .ok _

end Plan

/-! ## Registration -/

namespace Controller

variable {κ : Type}

theorem failsInSetup_registerPre (c : Controller κ) (check : Check κ) :
    FailsInSetup (c.registerPre check) := by
  unfold registerPre
  split
  · exact .error rfl
  · exact .ok _

theorem failsInSetup_registerPost (c : Controller κ) (check : Check κ)
    (preName : Option String) : FailsInSetup (c.registerPost check preName).value := by
  unfold registerPost
  split
  · exact .ok _
  · split
    · exact .ok _
    · exact .error rfl

end Controller

/-! ## A running test -/

namespace ExpectationSet

/-- A check of an event fails with the one expectation that has now seen too many. -/
theorem error_of_check {s : ExpectationSet} {e : Event} {err : Error}
    (h : (s.check e).value.result = .error err) :
    ∃ x ∈ (s.check e).value.set.expectations,
      err = .overMatch x.miscount ∧ ∃ max, x.quota.max = some max ∧ max.toNat < x.seen := by
  rcases exists_first_overrun e s.expectations with hClear | ⟨pre, x, post, hs, hPre, hx⟩
  · obtain ⟨-, b, hOk⟩ := check_of_clear hClear
    rw [hOk] at h
    cases h
  · obtain ⟨hSet, hErr⟩ := check_of_overrun hs hPre hx
    rw [hErr] at h
    cases h
    rw [Expectation.isOverrunBy, Bool.and_eq_true] at hx
    refine ⟨x.record e, ?_, rfl, Quota.exceededBy_iff.mp hx.2⟩
    rw [hSet]
    exact List.mem_append_right _ List.mem_cons_self

/-- The check at the end fails with all expectations that have seen too few. -/
theorem error_of_checkFinal {s : ExpectationSet} {err : Error} (h : s.checkFinal = .error err) :
    s.unmet ≠ [] ∧ err = .underMatch (s.unmet.map (·.miscount)) := by
  unfold checkFinal at h
  split at h
  · cases h
  next hUnmet =>
    cases h
    exact ⟨hUnmet, rfl⟩

theorem seen_lt_of_mem_unmet {s : ExpectationSet} {x : Expectation} (h : x ∈ s.unmet) :
    x ∈ s.expectations ∧ x.seen < x.quota.min.toNat := by
  simpa [unmet, Expectation.isMet, Quota.reachedBy] using h

end ExpectationSet

namespace Dispatcher

variable {σ τ : Type} [EventSink σ τ]

theorem error_of_connect {d : Dispatcher σ} {connection : ConnectionId} {t : τ} {err : Error}
    (h : (d.connect connection t).value.result = .error err) : err = .streamEnded := by
  unfold connect at h
  split at h
  · cases h
    rfl
  · cases h

theorem error_of_deliver {d : Dispatcher σ} {connection : ConnectionId} {e : Event} {t : τ}
    {err : Error} (h : (d.deliver connection e t).value.result = .error err) :
    err = .streamEnded := by
  unfold deliver at h
  split at h
  · cases h
    rfl
  · cases h

end Dispatcher

/-! ## Both kinds -/

/--
**Errors of the setup and of the run never mix.** For all inputs:

1. whatever makes or reads a quota, compiles clauses and patterns, builds expectations, sets of
   them, monitors, requirements, judges and observers, reads or writes a plan or builds something
   from it, looks up a callback or registers a check, fails with mistakes in the configuration only,
   and these report no miscount;
2. a set of expectations in any state fails on an event with an error of the run, which reports
   one expectation of the set, and this has seen more than its maximum;
3. it fails at the end of the stream with an error of the run, which reports expectations of the
   set, at least one, and each has seen less than its minimum;
4. a dispatcher in any state fails with an error of the run that reports no miscount.
-/
theorem Error.setup_and_run_apart {σ τ κ : Type} [EventSink σ τ] :
    ((∀ min max, FailsInSetup (Quota.range min max)) ∧
      (∀ text, FailsInSetup (Quota.parse text)) ∧
      (∀ written : Quota.Written, FailsInSetup written.quota) ∧
      (∀ c : Expectation.Config, FailsInSetup c.quota) ∧
      (∀ field source, FailsInSetup (Clause.compile field source)) ∧
      (∀ positive negative, FailsInSetup (Pattern.compile positive negative)) ∧
      (∀ source, FailsInSetup (Pattern.ofText source)) ∧
      (∀ c, FailsInSetup (Expectation.ofConfig c)) ∧
      (∀ c, FailsInSetup (ExpectationSet.ofConfig c)) ∧
      (∀ c, FailsInSetup (Monitor.ofConfig c)) ∧
      (∀ c, FailsInSetup (Requirements.ofConfig c)) ∧
      (∀ c callbacks, FailsInSetup (Outcome.ofConfig c callbacks)) ∧
      (∀ c callbacks, FailsInSetup (Observer.ofConfig c callbacks : Except Error (Observer τ))) ∧
      (∀ cs callbacks,
        FailsInSetup (ObserverGroup.ofConfigs cs callbacks : Except Error (ObserverGroup τ))) ∧
      (∀ text, FailsInSetup (Plan.ofJson text)) ∧
      (∀ text, FailsInSetup (Plan.ofToml text)) ∧
      (∀ p : Plan, FailsInSetup p.toToml) ∧
      (∀ p : Plan, FailsInSetup p.buildMonitor) ∧
      (∀ (p : Plan) callbacks,
        FailsInSetup (p.buildObservers callbacks : Except Error (ObserverGroup τ))) ∧
      (∀ (p : Plan) callbacks,
        FailsInSetup (p.buildDispatcher callbacks : Except Error (Dispatcher (Sink τ)))) ∧
      (∀ (callbacks : CallbackRegistry) name, FailsInSetup (callbacks.get name)) ∧
      (∀ (c : Controller κ) check, FailsInSetup (c.registerPre check)) ∧
      (∀ (c : Controller κ) check preName, FailsInSetup (c.registerPost check preName).value)) ∧
    (∀ (s : ExpectationSet) (e : Event) (err : Error), (s.check e).value.result = .error err →
      err.isConfiguration = false ∧ ∃ x ∈ (s.check e).value.set.expectations,
        err.miscounts = [x.miscount] ∧ ∃ max, x.quota.max = some max ∧ max.toNat < x.seen) ∧
    (∀ (s : ExpectationSet) (err : Error), s.checkFinal = .error err →
      err.isConfiguration = false ∧ err.miscounts ≠ [] ∧
        ∀ m ∈ err.miscounts, ∃ x ∈ s.expectations, m = x.miscount ∧ m.seen < m.min.toNat) ∧
    (∀ (d : Dispatcher σ) (connection : ConnectionId) (e : Event) (t : τ) (err : Error),
      (d.connect connection t).value.result = .error err ∨
        (d.deliver connection e t).value.result = .error err →
      err.isConfiguration = false ∧ err.miscounts = []) := by
  refine ⟨⟨Quota.failsInSetup_range, Quota.failsInSetup_parse, Quota.Written.failsInSetup_quota,
    Expectation.Config.failsInSetup_quota, Clause.failsInSetup_compile,
    Pattern.failsInSetup_compile,
    fun source => Pattern.failsInSetup_compile _ _, Expectation.failsInSetup_ofConfig,
    ExpectationSet.failsInSetup_ofConfig, Monitor.failsInSetup_ofConfig,
    Requirements.failsInSetup_ofConfig, Outcome.failsInSetup_ofConfig,
    Observer.failsInSetup_ofConfig, ObserverGroup.failsInSetup_ofConfigs,
    Plan.failsInSetup_ofJson, Plan.failsInSetup_ofToml, Plan.failsInSetup_toToml,
    Plan.failsInSetup_buildMonitor,
    fun p callbacks => ObserverGroup.failsInSetup_ofConfigs p.observers callbacks,
    Plan.failsInSetup_buildDispatcher, CallbackRegistry.failsInSetup_get,
    Controller.failsInSetup_registerPre, Controller.failsInSetup_registerPost⟩, ?_, ?_, ?_⟩
  · -- `check`: an over-match
    intro s e err h
    obtain ⟨x, hx, rfl, hMax⟩ := ExpectationSet.error_of_check h
    exact ⟨rfl, x, hx, rfl, hMax⟩
  · -- `check_final`: an under-match for each set member below its minimum
    intro s err h
    obtain ⟨hUnmet, rfl⟩ := ExpectationSet.error_of_checkFinal h
    refine ⟨rfl, by simpa [miscounts] using hUnmet, fun m hm => ?_⟩
    obtain ⟨x, hx, rfl⟩ := List.mem_map.mp hm
    obtain ⟨hMem, hLow⟩ := ExpectationSet.seen_lt_of_mem_unmet hx
    exact ⟨x, hMem, rfl, hLow⟩
  · -- the stream: the only error is that it has ended
    rintro d connection e t err (h | h)
    · rw [Dispatcher.error_of_connect h]
      exact ⟨rfl, rfl⟩
    · rw [Dispatcher.error_of_deliver h]
      exact ⟨rfl, rfl⟩

end StreamVerdict
