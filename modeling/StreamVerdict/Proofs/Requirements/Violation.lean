import StreamVerdict.Proofs.Pattern.FieldNames

/-!
# Violated requirements

A pattern and requirements can be built from the same clauses, and they do not
ask for the same. A pattern says which events are meant. It is through with an
event at the first clause that says no, and a field that is not there says no
only where it has to match. Requirements say what is wrong with an event. They
go through all clauses, and a field that is not there is wrong in any case.

To compare them, each configured clause is taken as a demand on the value of a
field. A demand that is not met is violated in one way, which the record in the
log tells. Requirements are satisfied where all demands are met. A pattern, if
it has a positive clause at all, accepts where no demands are violated but
negative ones for fields that are not there.

Main definitions:

* `ClauseConfig.demands` — what clauses ask for, in order;
* `Demand.IsMetBy` — when an event does as it is asked;
* `Demand.Violation` — how it can fail to, and the record about it.

Main results:

* `Demand.check_eq_iff` — a demand and the clause that is built from it;
* `Requirements.forall₂_violation` — the records of a check;
* `Pattern.accepts_iff_demands` — the pattern of the same clauses;
* `Requirements.every_violation_is_logged` — both together.
-/

namespace StreamVerdict

open Text (lowercase)

/-! ## Demands -/

/-- Whether the value of a field has to match an expression, or must not match it. -/
inductive Sign where
  | positive
  | negative
  deriving DecidableEq

/-- What a configured clause asks of an event. -/
structure Demand where
  sign : Sign
  field : String
  source : String
  deriving DecidableEq

/-- The demand of a field and its expression. -/
def Demand.ofEntry (sign : Sign) (entry : String × String) : Demand :=
  ⟨sign, entry.1, entry.2⟩

/-- What clauses ask for: first the positive ones and then the negative ones, both in the order of
their fields. -/
def ClauseConfig.demands (c : ClauseConfig) : List Demand :=
  c.positive.entries.map (.ofEntry .positive) ++ c.negative.entries.map (.ofEntry .negative)

namespace Demand

/-- The expression, taken as that of a clause, matches a value. -/
def Fits (d : Demand) (value : String) : Prop :=
  ∃ regex, Regex.compile d.source = .ok regex ∧ regex.isMatch value = true

/-- The value matches if it has to, and does not match if it must not. -/
def Allows (d : Demand) (value : String) : Prop :=
  match d.sign with
  | .positive => d.Fits value
  | .negative => ¬ d.Fits value

/-- The field is there, and its value is as it has to be. -/
def IsMetBy (d : Demand) (e : Event) : Prop :=
  ∃ value, e.get? (lowercase d.field) = some value ∧ d.Allows value

/-- The field is not there. -/
def IsAbsentFrom (d : Demand) (e : Event) : Prop :=
  e.get? (lowercase d.field) = none

/-- How an event can violate a demand, and the record about it. -/
inductive Violation (e : Event) (d : Demand) : LogRecord → Prop where
  | missing (hAbsent : d.IsAbsentFrom e) :
      Violation e d (.warn "requirement does not exist in event"
        [("field", lowercase d.field), ("event", e.name?.getD "")])
  | mismatch {value : String} (hSign : d.sign = .positive)
      (hValue : e.get? (lowercase d.field) = some value) (hFits : ¬ d.Fits value) :
      Violation e d (.warn "requirement does not match"
        [("field", lowercase d.field), ("regex", d.source), ("value", value)])
  | matched {value : String} (hSign : d.sign = .negative)
      (hValue : e.get? (lowercase d.field) = some value) (hFits : d.Fits value) :
      Violation e d (.warn "nomatch requirement matches"
        [("field", lowercase d.field), ("regex", d.source), ("value", value)])

variable {d : Demand} {e : Event}

instance (d : Demand) (value : String) : Decidable (d.Fits value) :=
  match h : Regex.compile d.source with
  | .ok regex => decidable_of_iff (regex.isMatch value = true) (by simp [Fits, h])
  | .error _ => .isFalse (by simp [Fits, h])

instance (d : Demand) (value : String) : Decidable (d.Allows value) :=
  match h : d.sign with
  | .positive => decidable_of_iff (d.Fits value) (by simp [Allows, h])
  | .negative => decidable_of_iff (¬ d.Fits value) (by simp [Allows, h])

instance (d : Demand) (e : Event) : Decidable (d.IsMetBy e) :=
  match h : e.get? (lowercase d.field) with
  | none => .isFalse (by simp [IsMetBy, h])
  | some value => decidable_of_iff (d.Allows value) (by simp [IsMetBy, h])

instance (d : Demand) (e : Event) : Decidable (d.IsAbsentFrom e) :=
  inferInstanceAs (Decidable (_ = none))

/-- Records about violations are warnings. -/
theorem Violation.severity_eq {record : LogRecord} (h : Violation e d record) :
    record.severity = .warning := by
  cases h <;> rfl

/-- A demand is violated in one way only. -/
theorem Violation.unique {record record' : LogRecord} (h : Violation e d record)
    (h' : Violation e d record') : record = record' := by
  -- each kind of violation says what the finding was, and a field has one finding
  cases h with
  | missing hAbsent =>
    cases h' with
    | missing => rfl
    | mismatch _ hValue | matched _ hValue => cases hAbsent.symm.trans hValue
  | mismatch hSign hValue =>
    cases h' with
    | missing hAbsent => cases hAbsent.symm.trans hValue
    | mismatch _ hValue' =>
      cases hValue.symm.trans hValue'
      rfl
    | matched hSign' => cases hSign.symm.trans hSign'
  | matched hSign hValue =>
    cases h' with
    | missing hAbsent => cases hAbsent.symm.trans hValue
    | mismatch hSign' => cases hSign.symm.trans hSign'
    | matched _ hValue' =>
      cases hValue.symm.trans hValue'
      rfl

/-! ## Demands and clauses -/

section Compile

variable {c : Clause}

theorem fits_iff (h : Clause.compile d.field d.source = .ok c) {value : String} :
    d.Fits value ↔ c.regex.isMatch value = true := by
  simp [Fits, (Clause.compile_eq_ok_iff.mp h).1]

/-- What the clause of a demand finds in an event. -/
theorem check_eq_iff (h : Clause.compile d.field d.source = .ok c) (e : Event)
    (finding : Finding) : c.check e = finding ↔ match finding with
      | .missing => d.IsAbsentFrom e
      | .matched => ∃ value, e.get? (lowercase d.field) = some value ∧ d.Fits value
      | .mismatch => ∃ value, e.get? (lowercase d.field) = some value ∧ ¬ d.Fits value := by
  have hField : c.field = lowercase d.field := by
    rw [(Clause.compile_eq_ok_iff.mp h).2]
  simp only [Clause.check, hField, ← fits_iff h, IsAbsentFrom]
  cases e.get? (lowercase d.field) with
  | none => cases finding <;> simp
  | some value => by_cases hFits : d.Fits value <;> cases finding <;> simp [hFits]

/-- A demand is met if its clause finds what the sign says. -/
theorem isMetBy_iff (h : Clause.compile d.field d.source = .ok c) :
    d.IsMetBy e ↔ c.check e = match d.sign with
      | .positive => .matched
      | .negative => .mismatch := by
  unfold IsMetBy Allows
  cases d.sign with
  | positive => exact (check_eq_iff h e .matched).symm
  | negative => exact (check_eq_iff h e .mismatch).symm

end Compile

end Demand

/-- What a clause of a sign may find in an event that a pattern accepts. -/
def Sign.Passes : Sign → Finding → Prop
  | positive, finding => finding = .matched
  | negative, finding => finding ≠ .matched

/-- A clause is in the way of a pattern unless its demand is met or is a negative one for a field
that is not there. -/
theorem Demand.passes_iff {d : Demand} {c : Clause}
    (h : Clause.compile d.field d.source = .ok c) (e : Event) :
    d.sign.Passes (c.check e) ↔ (¬ d.IsMetBy e → d.sign = .negative ∧ d.IsAbsentFrom e) := by
  have hAbsent : d.IsAbsentFrom e ↔ c.check e = .missing := (check_eq_iff h e .missing).symm
  rw [isMetBy_iff h, hAbsent]
  -- all that is left of the event is what the clause finds in it
  generalize c.check e = finding
  cases d.sign <;> cases finding <;> simp [Sign.Passes]

/-! ## Records -/

open Requirements (positiveViolation? negativeViolation? missingRecord valueRecord)

/-- The record about a clause of a sign, if it is violated. -/
def Sign.violation? (e : Event) (c : Clause) : Sign → Option LogRecord
  | positive => positiveViolation? e c
  | negative => negativeViolation? e c

namespace Demand

variable {d : Demand} {e : Event} {c : Clause}

/-- There is no record about the clause of a demand that is met. -/
theorem violation?_eq_none_iff (h : Clause.compile d.field d.source = .ok c) :
    d.sign.violation? e c = none ↔ d.IsMetBy e := by
  rw [isMetBy_iff h]
  cases d.sign with
  | positive => exact Requirements.positiveViolation?_eq_none_iff
  | negative => exact Requirements.negativeViolation?_eq_none_iff

theorem missingRecord_eq (h : Clause.compile d.field d.source = .ok c) (e : Event) :
    missingRecord c e = .warn "requirement does not exist in event"
      [("field", lowercase d.field), ("event", e.name?.getD "")] := by
  rw [missingRecord, (Clause.compile_eq_ok_iff.mp h).2]

theorem valueRecord_eq (h : Clause.compile d.field d.source = .ok c) {value : String}
    (hValue : e.get? (lowercase d.field) = some value) (message : String) :
    valueRecord message c e = .warn message
      [("field", lowercase d.field), ("regex", d.source), ("value", value)] := by
  rw [valueRecord, (Clause.compile_eq_ok_iff.mp h).2, hValue, Option.getD_some]

/-- The record about the clause of a demand says how the demand is violated. -/
theorem violation_of_eq_some (h : Clause.compile d.field d.source = .ok c) {record : LogRecord}
    (hRecord : d.sign.violation? e c = some record) : Violation e d record := by
  -- for each sign one finding is right, and the other two are violations of their own kind
  cases hSign : d.sign with
  | positive =>
    rw [hSign, Sign.violation?, positiveViolation?] at hRecord
    split at hRecord
    · cases hRecord
    next hFinding =>
      obtain ⟨value, hValue, hFits⟩ := (check_eq_iff h e _).mp hFinding
      rw [valueRecord_eq h hValue, Option.some_inj] at hRecord
      exact hRecord ▸ .mismatch hSign hValue hFits
    next hFinding =>
      rw [missingRecord_eq h, Option.some_inj] at hRecord
      exact hRecord ▸ .missing ((check_eq_iff h e _).mp hFinding)
  | negative =>
    rw [hSign, Sign.violation?, negativeViolation?] at hRecord
    split at hRecord
    · cases hRecord
    next hFinding =>
      obtain ⟨value, hValue, hFits⟩ := (check_eq_iff h e _).mp hFinding
      rw [valueRecord_eq h hValue, Option.some_inj] at hRecord
      exact hRecord ▸ .matched hSign hValue hFits
    next hFinding =>
      rw [missingRecord_eq h, Option.some_inj] at hRecord
      exact hRecord ▸ .missing ((check_eq_iff h e _).mp hFinding)

section Lists

variable {entries : List (String × String)} {cs : List Clause}

/-- Clauses of one sign are built from their demands, one from each. -/
theorem forall₂_compile (sign : Sign)
    (h : (entries.mapM fun x => Clause.compile x.1 x.2) = .ok cs) :
    List.Forall₂ (fun d c => d.sign = sign ∧ Clause.compile d.field d.source = .ok c)
      (entries.map (ofEntry sign)) cs := by
  rw [List.forall₂_map_left_iff]
  exact (Traversal.mapM_eq_ok_iff.mp h).imp fun _ _ hc => ⟨rfl, hc⟩

/-- Clauses of one sign leave a record for each of their demands that is not met. -/
theorem forall₂_violation_of_mapM (sign : Sign) (e : Event)
    (h : (entries.mapM fun x => Clause.compile x.1 x.2) = .ok cs) :
    List.Forall₂ (Violation e) ((entries.map (ofEntry sign)).filter fun d => ¬ d.IsMetBy e)
      (cs.filterMap (sign.violation? e)) := by
  refine Traversal.forall₂_filterMap (forall₂_compile sign h) ?_ ?_
  · rintro d c ⟨rfl, hc⟩
    exact violation?_eq_none_iff hc
  · rintro d c record ⟨rfl, hc⟩ hRecord
    exact violation_of_eq_some hc hRecord

/-- Clauses of one sign are not in the way of a pattern if none of their demands is. -/
theorem forall_passes_iff (sign : Sign) (e : Event)
    (h : (entries.mapM fun x => Clause.compile x.1 x.2) = .ok cs) :
    (∀ c ∈ cs, sign.Passes (c.check e)) ↔ ∀ d ∈ entries.map (ofEntry sign),
      ¬ d.IsMetBy e → d.sign = .negative ∧ d.IsAbsentFrom e := by
  refine (Traversal.forall_mem_iff_of_forall₂ (forall₂_compile sign h) ?_).symm
  rintro d c ⟨rfl, hc⟩
  exact (passes_iff hc e).symm

end Lists

end Demand

/-! ## Requirements and patterns -/

section Built

variable {config : ClauseConfig}

/-- A check leaves one record for each demand that is not met, in the order of the demands. -/
theorem Requirements.forall₂_violation {r : Requirements} (h : ofConfig config = .ok r)
    (e : Event) : List.Forall₂ (Demand.Violation e)
      (config.demands.filter fun d => ¬ d.IsMetBy e) (r.check e).records := by
  obtain ⟨hPositive, hNegative⟩ := Pattern.compile_eq_ok_iff.mp (ofConfig_eq_ok_iff.mp h)
  -- the records come in two parts, and so do the demands
  rw [records_check, violations, ClauseConfig.demands, List.filter_append]
  exact List.rel_append (Demand.forall₂_violation_of_mapM .positive e hPositive)
    (Demand.forall₂_violation_of_mapM .negative e hNegative)

/-- A pattern with positive clauses accepts an event that violates no demands, or only negative ones
for fields that are not there. -/
theorem Pattern.accepts_iff_demands {p : Pattern}
    (h : compile config.positive.entries config.negative.entries = .ok p) (e : Event) :
    p.accepts e = true ↔ config.positive.entries ≠ [] ∧
      ∀ d ∈ config.demands, ¬ d.IsMetBy e → d.sign = .negative ∧ d.IsAbsentFrom e := by
  obtain ⟨hPositive, hNegative⟩ := compile_eq_ok_iff.mp h
  have hne : p.positive ≠ [] ↔ config.positive.entries ≠ [] := by
    rw [← List.isEmpty_eq_false_iff, ← List.isEmpty_eq_false_iff, ← isEmpty_of_compile h, isEmpty]
  -- the condition is the same for demands of both signs, so each list of clauses can take its part
  rw [accepts_iff, hne, ClauseConfig.demands, List.forall_mem_append,
    ← Demand.forall_passes_iff .positive e hPositive,
    ← Demand.forall_passes_iff .negative e hNegative]
  rfl

/-- **Every violation is logged, and a pattern is less strict.** Requirements that are built from
clauses are checked on an event as follows:

1. They are satisfied exactly if all demands are met: all fields are there, those of the positive
   clauses match and those of the negative ones do not.
2. The log has one record for each demand that is not met, in the order of the demands, and no
   others. All of them are warnings. So they are satisfied exactly if nothing is logged.
3. The pattern of the same clauses can be built too. It accepts the event exactly if there is a
   positive clause and the only demands that are not met are negative ones for fields that are not
   there. So it does if the requirements are satisfied and there is a positive clause. -/
theorem Requirements.every_violation_is_logged {r : Requirements} (h : ofConfig config = .ok r)
    (e : Event) :
    let unmet := config.demands.filter fun d => ¬ d.IsMetBy e
    ((r.check e).value = true ↔ ∀ d ∈ config.demands, d.IsMetBy e) ∧
    (∀ records, List.Forall₂ (Demand.Violation e) unmet records ↔
      records = (r.check e).records) ∧
    (∀ record ∈ (r.check e).records, record.severity = .warning) ∧
    ((r.check e).value = true ↔ (r.check e).records = []) ∧
    ∃ p, Pattern.compile config.positive.entries config.negative.entries = .ok p ∧
      (p.accepts e = true ↔ config.positive.entries ≠ [] ∧
        ∀ d ∈ unmet, d.sign = .negative ∧ d.IsAbsentFrom e) ∧
      ((r.check e).value = true → config.positive.entries ≠ [] → p.accepts e = true) := by
  intro unmet
  have hRecords : List.Forall₂ (Demand.Violation e) unmet (r.check e).records :=
    forall₂_violation h e
  have hSilent : (r.check e).value = true ↔ (r.check e).records = [] := by
    rw [value_check_iff, records_check]
  -- what holds of all that is unmet, as a statement about the demands
  have hMem (P : Demand → Prop) : (∀ d ∈ unmet, P d) ↔
      ∀ d ∈ config.demands, ¬ d.IsMetBy e → P d := by
    simp [unmet]
  have hSatisfied : (r.check e).value = true ↔ ∀ d ∈ config.demands, d.IsMetBy e := by
    have hNil : (r.check e).records = [] ↔ unmet = [] := by
      rw [← List.length_eq_zero_iff, ← hRecords.length_eq, List.length_eq_zero_iff]
    rw [hSilent, hNil]
    simp [unmet]
  have hPattern := ofConfig_eq_ok_iff.mp h
  have hAccepts : r.pattern.accepts e = true ↔ config.positive.entries ≠ [] ∧
      ∀ d ∈ unmet, d.sign = .negative ∧ d.IsAbsentFrom e := by
    rw [Pattern.accepts_iff_demands hPattern, hMem]
  refine ⟨hSatisfied, fun records => ⟨fun hRecords' => ?_, ?_⟩, ?_, hSilent, r.pattern, hPattern,
    hAccepts, fun hValue hne => ?_⟩
  · -- there is no choice of records, since no demand can be violated in two ways
    have hUnique : Relator.RightUnique (Demand.Violation e) := fun _ _ _ h h' => h.unique h'
    exact hUnique.forall₂ hRecords' hRecords
  · -- the records that are logged do belong to them
    rintro rfl
    exact hRecords
  · -- each violation has the severity of a warning
    have hWarnings := (hRecords.imp fun _ _ h => And.intro h.severity_eq h).flip
    exact ((List.forall₂_and_left _ _).mp hWarnings).1
  · -- nothing is unmet, so nothing stands in the way of the pattern
    exact hAccepts.mpr ⟨hne, (hMem _).mpr fun d hd hNot => absurd (hSatisfied.mp hValue d hd) hNot⟩

end Built

namespace Requirements

/-- Clauses for the end of a call on a channel that is up. -/
def callClauses : ClauseConfig where
  positive := .ofList [("Channel", "SIP/"), ("Event", "Hang"), ("State", "Up")]
  negative := .ofList [("Cause", "16"), ("Exten", "1"), ("Uid", "z")]

/-- A call that ends in all the wrong ways. -/
def wrongCall : Event :=
  .ofPairs [("Event", "Hangup"), ("Channel", "Local/7"), ("Cause", "16"), ("Exten", "200")]

/-- A call that ends as it has to, but does not say who has made it. -/
def namelessCall : Event :=
  .ofPairs [("event", "Hangup"), ("CHANNEL", "SIP/7"), ("State", "Up"), ("Cause", "17"),
    ("Exten", "200")]

/-- Of the first call each kind of violation is logged, in the order of the clauses. The second call
does not satisfy the requirements either, but it is accepted by the pattern. -/
theorem callClauses_violations :
    ∃ r p, ofConfig callClauses = .ok r ∧
      Pattern.compile callClauses.positive.entries callClauses.negative.entries = .ok p ∧
      (r.check wrongCall).records = [
        .warn "requirement does not match"
          [("field", "channel"), ("regex", "SIP/"), ("value", "Local/7")],
        .warn "requirement does not exist in event" [("field", "state"), ("event", "Hangup")],
        .warn "nomatch requirement matches"
          [("field", "cause"), ("regex", "16"), ("value", "16")],
        .warn "requirement does not exist in event" [("field", "uid"), ("event", "Hangup")]] ∧
      (r.check namelessCall).value = false ∧ p.accepts namelessCall = true := by
  obtain ⟨r, hr⟩ : ∃ r, ofConfig callClauses = .ok r :=
    Traversal.exists_of_isOk (by decide +kernel)
  have hWrong : (callClauses.demands.filter fun d => ¬ d.IsMetBy wrongCall) =
      [⟨.positive, "Channel", "SIP/"⟩, ⟨.positive, "State", "Up"⟩,
        ⟨.negative, "Cause", "16"⟩, ⟨.negative, "Uid", "z"⟩] := by
    decide +kernel
  have hNameless : (callClauses.demands.filter fun d => ¬ d.IsMetBy namelessCall) =
      [⟨.negative, "Uid", "z"⟩] := by
    decide +kernel
  obtain ⟨-, hRecords, -⟩ := every_violation_is_logged hr wrongCall
  obtain ⟨hSatisfied, -, -, -, p, hp, hAccepts, -⟩ := every_violation_is_logged hr namelessCall
  refine ⟨r, p, hr, hp, ?_, ?_, ?_⟩
  · -- one violation of each kind, and one more of a negative field
    refine ((hRecords _).mp ?_).symm
    rw [hWrong]
    have hChannel : ¬ Demand.Fits ⟨.positive, "Channel", "SIP/"⟩ "Local/7" := by decide +kernel
    have hCause : Demand.Fits ⟨.negative, "Cause", "16"⟩ "16" := by decide +kernel
    refine .cons ?_ (.cons ?_ (.cons ?_ (.cons ?_ .nil)))
    · exact .mismatch rfl (by decide +kernel) hChannel
    · exact .missing (by decide +kernel)
    · exact .matched rfl (by decide +kernel) hCause
    · exact .missing (by decide +kernel)
  · rw [Bool.eq_false_iff]
    intro hValue
    have hUid := (hSatisfied.mp hValue) ⟨.negative, "Uid", "z"⟩ (by decide +kernel)
    exact absurd hUid (by decide +kernel)
  · -- only the negative field is missing, which the pattern does not mind
    refine hAccepts.mpr ⟨by decide +kernel, ?_⟩
    rw [hNameless]
    exact List.forall_mem_singleton.mpr ⟨rfl, by decide +kernel⟩

end Requirements

end StreamVerdict
