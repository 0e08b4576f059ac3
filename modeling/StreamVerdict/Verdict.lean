import StreamVerdict.Error

/-!
# Verdicts

The outcome of a test or of one check of it: inconclusive until something is decided, then passed
or failed, with the reasons of every failure. A failure is never taken back.
-/

namespace StreamVerdict

/-- What is known of a test so far. -/
inductive Status where
  | inconclusive
  | passed
  | failed
  deriving DecidableEq

namespace Status

/-- The name of a status. -/
def name : Status → String
  | inconclusive => "Inconclusive"
  | passed => "Passed"
  | failed => "Failed"

/-- The status of a name, spelled exactly. -/
def ofName? : String → Option Status
  | "Inconclusive" => some inconclusive
  | "Passed" => some passed
  | "Failed" => some failed
  | _ => none

@[simp] theorem ofName?_name (s : Status) : ofName? s.name = some s := by
  cases s <;> rfl

/-- Reads the name of a status. -/
def parse (text : String) : Except Error Status :=
  match ofName? text with
  | some s => .ok s
  | none => .error (.configuration s!"unknown status '{text}'")

end Status

/-- A status with the reasons for failure, in the order in which they were given. -/
structure Verdict where
  status : Status := .inconclusive
  reasons : List String := []
  deriving DecidableEq

namespace Verdict

/-- Passes what is still inconclusive. -/
def passCheck (v : Verdict) : Verdict :=
  if v.status = .inconclusive then { v with status := .passed } else v

/-- Fails, and keeps the reason unless it is empty. -/
def failCheck (v : Verdict) (reason : String) : Verdict :=
  { status := .failed, reasons := if reason = "" then v.reasons else v.reasons ++ [reason] }

/-- Whether the verdict is a failure. -/
def isFailed (v : Verdict) : Bool :=
  v.status == .failed

/-- Whether the verdict is a pass. -/
def isPassed (v : Verdict) : Bool :=
  v.status == .passed

/-- Folds another verdict into this one. A failure brings its reasons along, a pass passes what is
inconclusive, and an inconclusive verdict changes nothing. -/
def merge (v w : Verdict) : Verdict :=
  match w.status with
  | .failed => { status := .failed, reasons := v.reasons ++ w.reasons }
  | .passed => v.passCheck
  | .inconclusive => v

/-- The status in brackets, and after a failure one line for each reason. -/
def describe (v : Verdict) : String :=
  let reasons := if v.isFailed then v.reasons else []
  s!"[{v.status.name}]" ++ String.join (reasons.map fun r => "\n\tReason: " ++ r)

end Verdict

end StreamVerdict
