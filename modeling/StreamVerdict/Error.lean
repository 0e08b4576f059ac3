import StreamVerdict.Miscount

/-!
# Errors

Everything that can go wrong, by cause. Most errors arise while a test is set up; four arise
while it runs. `Error.isConfiguration` tells the two kinds apart.
-/

namespace StreamVerdict

/-- What went wrong. -/
inductive Error where
  /-- The text of a count follows none of the accepted forms. -/
  | invalidCount (text reason : String)
  /-- The lower bound of a count lies above the upper one, which may be negative. -/
  | countRange (min : UInt64) (max : Int)
  /-- The pattern of a field is no regular expression. -/
  | invalidRegex (field pattern reason : String)
  /-- A condition names no field that must match. -/
  | emptyPattern
  /-- A check after the test refers to an unknown one before it. -/
  | unresolvedPreCondition (name : String)
  /-- Two checks before the test have one name. -/
  | duplicateCondition (name : String)
  /-- An observer refers to an unknown callback. -/
  | unknownCallback (name : String)
  /-- Any other mistake in a configuration. -/
  | configuration (reason : String)
  /-- A condition matched more often than it may. -/
  | overMatch (miscount : Miscount)
  /-- Conditions that did not match often enough. -/
  | underMatch (miscounts : List Miscount)
  /-- A check could not be carried out. -/
  | evaluationFailed (condition reason : String)
  /-- Something was delivered after the end of the stream. -/
  | streamEnded
  deriving DecidableEq

namespace Error

/-- The error in words. -/
def message : Error → String
  | invalidCount text reason => s!"invalid count '{text}': {reason}"
  | countRange min max => s!"invalid count: minimum {min} can't be greater than maximum {max}"
  | invalidRegex field pattern reason =>
    s!"invalid regex for field '{field}': '{pattern}': {reason}"
  | emptyPattern => "pattern has no 'match' fields; at least one is required"
  | unresolvedPreCondition name => s!"no pre condition found matching '{name}'"
  | duplicateCondition name => s!"a pre condition named '{name}' is already registered"
  | unknownCallback name => s!"unknown observer callback '{name}'"
  | configuration reason => s!"configuration error: {reason}"
  | overMatch m => s!"over-match: {m.describe}"
  | underMatch ms => "under-match: " ++ "; ".intercalate (ms.map Miscount.describe)
  | evaluationFailed condition reason => s!"evaluation of '{condition}' failed: {reason}"
  | streamEnded => "event delivered after the stream ended"

open Text in
/-- A failure that is recorded for an error leaves a reason. -/
theorem message_ne_empty (err : Error) : err.message ≠ "" := by
  cases err with
  | invalidCount text reason =>
    exact append_ne_empty (append_ne_empty (append_ne_empty (by decide) _) _) _
  | countRange min max =>
    exact append_ne_empty (append_ne_empty (append_ne_empty (by decide) _) _) _
  | invalidRegex field pattern reason =>
    exact append_ne_empty (append_ne_empty (append_ne_empty (append_ne_empty (append_ne_empty
      (by decide) _) _) _) _) _
  | emptyPattern =>
    show "pattern has no 'match' fields; at least one is required" ≠ ""
    decide
  | unresolvedPreCondition name => exact append_ne_empty (append_ne_empty (by decide) _) _
  | duplicateCondition name =>
    exact append_ne_empty (append_ne_empty (by decide) _) _
  | unknownCallback name => exact append_ne_empty (append_ne_empty (by decide) _) _
  | configuration reason => exact append_ne_empty (by decide) _
  | overMatch m => exact append_ne_empty (by decide) _
  | underMatch ms => exact append_ne_empty (by decide) _
  | evaluationFailed condition reason =>
    exact append_ne_empty (append_ne_empty (append_ne_empty (by decide) _) _) _
  | streamEnded =>
    show "event delivered after the stream ended" ≠ ""
    decide

/-- Whether the error arises while a test is set up, before any event. -/
def isConfiguration : Error → Bool
  | invalidCount .. | countRange .. | invalidRegex .. | emptyPattern | unresolvedPreCondition _
  | duplicateCondition _ | unknownCallback _ | configuration _ => true
  | overMatch _ | underMatch _ | evaluationFailed .. | streamEnded => false

/-- The miscounts that the error reports. -/
def miscounts : Error → List Miscount
  | overMatch m => [m]
  | underMatch ms => ms
  | _ => []

/-- What a user can do about it, where that is known. -/
def suggestion? : Error → Option String
  | invalidCount .. | countRange .. =>
    some "Use 'N', 'N-M', '>N', '<N' or set 'optional: true' for the count."
  | emptyPattern => some "Add at least one field to the condition's 'match' clause."
  | unresolvedPreCondition _ =>
    some "Register the pre condition before the post condition that references it."
  | unknownCallback _ =>
    some "Register the callback in the CallbackRegistry before building observers."
  | streamEnded => some "Events must be delivered before the stream-end notification."
  | _ => none

end Error

end StreamVerdict
