import StreamVerdict.Expectation
import StreamVerdict.KeyMap

/-!
# Configured expectations

An expectation is configured in short, as the regular expression of a text, or in full. The
expression of the short form is expected to match exactly once.
-/

namespace StreamVerdict

/-- The positive clauses as they are configured: one expression for the text of an event, or an
expression for each of several fields. -/
inductive MatchClause where
  | text (source : String)
  | fields (map : TextMap)
  deriving DecidableEq

/-- The clauses, field by field. -/
def MatchClause.toFields : MatchClause → List (String × String)
  | text source => [(Event.valueField, source)]
  | fields map => map.entries

namespace Expectation

/-- The full form of a configured expectation. -/
structure Fields where
  name : Option String := none
  positive : MatchClause := .fields .empty
  negative : TextMap := .empty
  count : Option Quota.Written := none
  isOptional : Bool := false
  deriving DecidableEq

/-- A configured expectation. -/
inductive Config where
  | short (source : String)
  | full (fields : Fields)
  deriving DecidableEq

/-- The full form. -/
def Config.toFields : Config → Fields
  | short source => { positive := .text source }
  | full fields => fields

/-- The quota of a full form: an optional expectation must not give a count as well. -/
def Fields.quota (f : Fields) : Except Error Quota :=
  match f.count, f.isOptional with
  | some _, true => .error (.configuration "'optional' and 'count' are mutually exclusive")
  | none, true => .ok .optional
  | some count, false => count.quota
  | none, false => .ok .once

/-- The quota of a configured expectation. -/
def Config.quota : Config → Except Error Quota
  | short _ => .ok .once
  | full fields => fields.quota

/-- Builds an expectation: first its quota, then its pattern, which must have a positive clause. -/
def ofConfig (c : Config) : Except Error Expectation := do
  -- a wrong count is reported before a wrong pattern
  let quota ← c.quota
  let fields := c.toFields
  let pattern ← Pattern.compile fields.positive.toFields fields.negative.entries
  if pattern.isEmpty then .error .emptyPattern
  else .ok { name := fields.name, pattern, quota }

/-! ## What is built -/

/-- An expectation as its configuration asks for it, before it is shown an event. -/
structure IsBuiltFrom (x : Expectation) (c : Config) : Prop where
  quota_built : c.quota = .ok x.quota
  pattern_built : Pattern.compile c.toFields.positive.toFields c.toFields.negative.entries =
    .ok x.pattern
  isEmpty_eq_false : x.pattern.isEmpty = false
  name_eq : x.name = c.toFields.name
  seen_eq_zero : x.seen = 0

/-- What is built is in every part what its configuration asks for. -/
theorem ofConfig_eq_ok_iff {c : Config} {x : Expectation} :
    ofConfig c = .ok x ↔ x.IsBuiltFrom c := by
  constructor
  · intro h
    simp only [ofConfig, bind, Except.bind] at h
    -- each of the three steps that can fail ends the build
    split at h
    · cases h
    next quota hQuota =>
      split at h
      · cases h
      next pattern hPattern =>
        split at h
        · cases h
        next hEmpty =>
          cases h
          exact ⟨hQuota, hPattern, Bool.eq_false_iff.mpr hEmpty, rfl, rfl⟩
  · intro h
    obtain ⟨name, pattern, quota, seen⟩ := x
    obtain ⟨hQuota, hPattern, hEmpty, rfl, rfl⟩ := h
    simp [ofConfig, bind, Except.bind, hQuota, hPattern, hEmpty]

end Expectation

end StreamVerdict
