import StreamVerdict.Proofs.Observer.Built
import StreamVerdict.Proofs.Pattern.FieldNames
import StreamVerdict.Proofs.Regex.Escaped

/-!
# What an observer subscribes to

The name that an observer waits for is put into the first clause of its pattern
as an expression. It is escaped, so that no character of it has a meaning of its
own, and the end of the text is asked for behind it. The clause matches the
events of this name and no others, whatever characters there are in the name.
All other clauses are those of the configuration.

Main results:

* `Observer.check_subscription_iff` — what the first clause matches;
* `Observer.subscribes_to_exact_name` — the events that an observer waits for.
-/

namespace StreamVerdict

open Text (lowercase)

theorem Event.lowercase_nameField : lowercase Event.nameField = Event.nameField := by
  decide +kernel

/-- The name of an event is the value of the first pair that is called so, case not counting. -/
theorem Event.name?_ofPairs (pairs : List (String × String)) :
    (Event.ofPairs pairs).name? = Event.firstNamed? pairs Event.nameField := by
  have hLower := Event.get?_ofPairs_lowercase pairs Event.nameField
  rwa [Event.lowercase_nameField] at hLower

namespace Observer

theorem compile_subscription (event : String) :
    Regex.compile (subscription event) =
      if Regex.maxRoom < (Regex.Expr.exactly event.toList).anchored.room then
        .error (.tooLarge Regex.maxRoom)
      else .ok (Regex.Expr.exactly event.toList).anchored :=
  Regex.compile_escaped event

/-- The clause of a subscription matches the events of one name and no others. -/
theorem check_subscription_iff {event : String} {clause : Clause}
    (h : Clause.compile Event.nameField (subscription event) = .ok clause) (e : Event) :
    clause.check e = .matched ↔ e.name? = some event := by
  obtain ⟨hRegex, hClause⟩ := Clause.compile_eq_ok_iff.mp h
  rw [compile_subscription] at hRegex
  split_ifs at hRegex
  -- the clause is about the name, and its expression is the anchored exact one
  have hField : clause.field = Event.nameField := by
    rw [hClause, Event.lowercase_nameField]
  have hExact : clause.regex = (Regex.Expr.exactly event.toList).anchored :=
    (Except.ok.inj hRegex).symm
  rw [Clause.check_eq_matched_iff, hField, hExact]
  simp only [Regex.Expr.isMatch_anchored_exactly_iff, String.toList_inj]
  constructor
  · rintro ⟨value, hValue, rfl⟩
    exact hValue
  · intro hName
    exact ⟨event, hName, rfl⟩

/-- A pattern with a subscription asks for the name, and for all other clauses that it was built
from. -/
theorem accepts_subscription_iff {event : String} {positive negative : List (String × String)}
    {p : Pattern}
    (h : Pattern.compile ((Event.nameField, subscription event) :: positive) negative = .ok p)
    (e : Event) :
    p.accepts e = true ↔ e.name? = some event ∧
      (∀ x ∈ positive,
        ∃ clause, Clause.compile x.1 x.2 = .ok clause ∧ clause.check e = .matched) ∧
      ∀ x ∈ negative,
        ∃ clause, Clause.compile x.1 x.2 = .ok clause ∧ clause.check e ≠ .matched := by
  obtain ⟨hPos, hNeg⟩ := Pattern.compile_eq_ok_iff.mp h
  rw [Pattern.accepts_iff, Traversal.forall_built_iff (fun c => c.check e = .matched) hPos,
    Traversal.forall_built_iff (fun c => c.check e ≠ .matched) hNeg, List.forall_mem_cons]
  -- the subscription is the first clause of the pattern
  obtain ⟨clause, hClause, hMem⟩ : ∃ clause,
      Clause.compile Event.nameField (subscription event) = .ok clause ∧ clause ∈ p.positive := by
    rw [Traversal.mapM_eq_ok_iff] at hPos
    generalize p.positive = clauses at hPos
    cases hPos with
    | cons hClause _ => exact ⟨_, hClause, List.mem_cons_self⟩
  have hne : p.positive ≠ [] := List.ne_nil_of_mem hMem
  have hName : (∃ c, Clause.compile Event.nameField (subscription event) = .ok c ∧
      c.check e = .matched) ↔ e.name? = some event := by
    simp [hClause, check_subscription_iff hClause]
  simp only [hName, hne, ne_eq, not_false_eq_true, true_and, and_assoc]

variable {τ : Type}

/-- **An observer waits for the events of exactly its name.** For every configuration:

1. Its name can be read as an expression, and can be subscribed to unless this takes too much room.
2. An event has this name exactly if it is the value of the first pair called `event`, case not
   counting.
3. An observer that is built from it without further conditions waits for the events of this name
   and no others. With further conditions they also have to match all positive clauses and none of
   the negative ones. -/
theorem subscribes_to_exact_name (c : Config) (callbacks : CallbackRegistry) :
    (∃ r, Regex.parse (Regex.anchor (subscription c.event)).toList = .ok r ∧
      (Regex.compile (subscription c.event) = .ok r ↔ r.room ≤ Regex.maxRoom)) ∧
    (∀ pairs, (Event.ofPairs pairs).name? = some c.event ↔ ∃ before field after,
      pairs = before ++ (field, c.event) :: after ∧ lowercase field = Event.nameField ∧
        ∀ p ∈ before, lowercase p.1 ≠ Event.nameField) ∧
    ∀ o : Observer τ, ofConfig c callbacks = .ok o →
      (c.conditions = {} → ∀ e, o.pattern.accepts e = true ↔ e.name? = some c.event) ∧
      ∀ e, o.pattern.accepts e = true ↔ e.name? = some c.event ∧
        (∀ x ∈ c.conditions.positive.entries,
          ∃ clause, Clause.compile x.1 x.2 = .ok clause ∧ clause.check e = .matched) ∧
        ∀ x ∈ c.conditions.negative.entries,
          ∃ clause, Clause.compile x.1 x.2 = .ok clause ∧ clause.check e ≠ .matched := by
  refine ⟨?_, ?_, ?_⟩
  · have hRead := Regex.parse_escaped c.event
    refine ⟨_, hRead, ?_⟩
    exact Regex.compileChars_eq_ok_iff.trans (and_iff_right hRead)
  · intro pairs
    rw [Event.name?_ofPairs, Event.firstNamed?_eq_some_iff, Event.lowercase_nameField]
  · intro o ho
    obtain ⟨pattern, quota, outcome, hPattern, -, hBuilt⟩ := exists_of_ofConfig ho
    have hAccepts := accepts_subscription_iff hPattern
    rw [hBuilt]
    refine ⟨?_, hAccepts⟩
    -- without further conditions the name is all there is to accept
    intro hConditions e
    rw [hAccepts, hConditions]
    simp [KeyMap.empty]

/-- A call on a local channel that is not down. Its name is full of characters with meanings of
their own, and ends in a line break. -/
def callConfig : Config where
  event := "Ring? (#1|é)\n"
  conditions := { positive := .ofList [("Channel", "L")], negative := .ofList [("State", "d")] }

/-- Without its conditions the call is known by its name. With them it is accepted on its channel,
but not if its line break comes twice. -/
theorem callConfig_subscribes :
    (∃ o : Observer TestRun, ofConfig { callConfig with conditions := {} } {} = .ok o ∧
      ∀ e, o.pattern.accepts e = true ↔ e.name? = some "Ring? (#1|é)\n") ∧
    ∃ o : Observer TestRun, ofConfig callConfig {} = .ok o ∧
      o.pattern.accepts (.ofPairs [("Event", "Ring? (#1|é)\n"), ("channel", "Local")]) = true ∧
      o.pattern.accepts (.ofPairs [("Event", "Ring? (#1|é)\n\n"), ("channel", "Local")]) =
        false := by
  obtain ⟨plain, hPlain⟩ :
      ∃ o, ofConfig (τ := TestRun) { callConfig with conditions := {} } {} = .ok o :=
    Traversal.exists_of_isOk (by decide +kernel)
  obtain ⟨full, hFull⟩ : ∃ o, ofConfig (τ := TestRun) callConfig {} = .ok o :=
    Traversal.exists_of_isOk (by decide +kernel)
  obtain ⟨-, -, hPattern⟩ :=
    subscribes_to_exact_name (τ := TestRun) { callConfig with conditions := {} } {}
  obtain ⟨-, hName, hPattern'⟩ := subscribes_to_exact_name (τ := TestRun) callConfig {}
  have hAccepts := (hPattern' full hFull).2
  have hEvent : lowercase "Event" = Event.nameField := by decide +kernel
  have hTwice : ¬ (Event.ofPairs [("Event", "Ring? (#1|é)\n\n"), ("channel", "Local")]).name? =
      some callConfig.event := by decide +kernel
  refine ⟨⟨plain, hPlain, (hPattern plain hPlain).1 rfl⟩, full, hFull, ?_, ?_⟩
  · -- the name is exact, `channel` starts with `L`, and there is no `state`
    refine (hAccepts _).mpr ⟨?_, ?_, ?_⟩
    · exact (hName _).mpr ⟨[], "Event", _, rfl, hEvent, nofun⟩
    · exact List.forall_mem_singleton.mpr
        ⟨⟨"channel", "L", .anchored (.char 'L')⟩, by decide +kernel⟩
    · exact List.forall_mem_singleton.mpr
        ⟨⟨"state", "d", .anchored (.char 'd')⟩, by decide +kernel⟩
  · -- a line end too many
    rw [Bool.eq_false_iff]
    intro h
    exact hTwice ((hAccepts _).mp h).1

end Observer

end StreamVerdict
