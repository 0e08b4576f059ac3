import StreamVerdict.Expectation.Config
import StreamVerdict.Log

/-!
# Requirements

Requirements judge an event that an observer counts. They are stricter than a pattern: a field
that is missing violates negative clauses as well as positive ones. Every violation is written to
the log.
-/

namespace StreamVerdict

/-- Clauses as they are configured: an expression for each of several fields, positive and
negative. -/
structure ClauseConfig where
  positive : TextMap := .empty
  negative : TextMap := .empty
  deriving DecidableEq

/-- What an event must satisfy. -/
structure Requirements where
  pattern : Pattern
  deriving DecidableEq

namespace Requirements

/-- Requirements without any clause, which every event satisfies. -/
def trivial : Requirements :=
  ⟨⟨[], []⟩⟩

/-- Reads the clauses. -/
def ofConfig (c : ClauseConfig) : Except Error Requirements := do
  let pattern ← Pattern.compile c.positive.entries c.negative.entries
  .ok ⟨pattern⟩

/-- The record about a field that is not there. -/
def missingRecord (c : Clause) (e : Event) : LogRecord :=
  .warn "requirement does not exist in event" [("field", c.field), ("event", e.name?.getD "")]

/-- The record about a value that is not as it must be. -/
def valueRecord (message : String) (c : Clause) (e : Event) : LogRecord :=
  .warn message [("field", c.field), ("regex", c.source), ("value", (e.get? c.field).getD "")]

/-- The violation of a positive clause, if there is one. -/
def positiveViolation? (e : Event) (c : Clause) : Option LogRecord :=
  match c.check e with
  | .matched => none
  | .mismatch => some (valueRecord "requirement does not match" c e)
  | .missing => some (missingRecord c e)

/-- The violation of a negative clause, if there is one. -/
def negativeViolation? (e : Event) (c : Clause) : Option LogRecord :=
  match c.check e with
  | .mismatch => none
  | .matched => some (valueRecord "nomatch requirement matches" c e)
  | .missing => some (missingRecord c e)

/-- Judges one clause after the other, given whether all before them were kept. A violation is
written to the log and settles the answer, but the clauses behind it are judged all the same. -/
def judge (violation? : Clause → Option LogRecord) (kept : Bool) : List Clause → Logged Bool
  | [] => return kept
  | c :: cs =>
    match violation? c with
    | none => judge violation? kept cs
    | some record => do
      Logged.write record
      judge violation? false cs

/-- Whether no clause is violated. The positive clauses are judged first. -/
def check (r : Requirements) (e : Event) : Logged Bool := do
  let kept ← judge (positiveViolation? e) true r.pattern.positive
  judge (negativeViolation? e) kept r.pattern.negative

/-! ## Violations in order -/

/-- All violations, those of the positive clauses first. -/
def violations (r : Requirements) (e : Event) : List LogRecord :=
  r.pattern.positive.filterMap (positiveViolation? e) ++
    r.pattern.negative.filterMap (negativeViolation? e)

/-- Clauses that are judged one after the other leave a record for each violation. -/
theorem judge_eq (violation? : Clause → Option LogRecord) (kept : Bool) (cs : List Clause) :
    judge violation? kept cs =
      ⟨kept && (cs.filterMap violation?).isEmpty, cs.filterMap violation?⟩ := by
  induction cs generalizing kept with
  | nil =>
    rw [judge, List.filterMap_nil, List.isEmpty_nil, Bool.and_true]
    rfl
  | cons c cs ih =>
    rw [judge, List.filterMap_cons]
    cases violation? c with
    | none => exact ih kept
    | some record =>
      simp only [ih, List.isEmpty_cons, Bool.and_false, Bool.false_and]
      rfl

/-- All violations are written to the log. -/
theorem records_check (r : Requirements) (e : Event) : (r.check e).records = r.violations e := by
  rw [check, Logged.records_bind, judge_eq, judge_eq, violations]

/-- The answer is whether there are none. -/
theorem value_check_iff (r : Requirements) (e : Event) :
    (r.check e).value = true ↔ r.violations e = [] := by
  rw [check, Logged.value_bind, judge_eq, judge_eq, violations, Bool.true_and, Bool.and_eq_true,
    List.isEmpty_iff, List.isEmpty_iff, List.append_eq_nil_iff]

end Requirements

end StreamVerdict
