import StreamVerdict.Log
import StreamVerdict.Verdict

/-!
# Test objects

The engine reports into a test object. It is handed to every step and handed back changed, so
that nothing depends on anything global.

Main definitions:

* `TestObject`: what the engine needs of a test;
* `TestRun`: a test that keeps a verdict;
* `CallRecorder`: a test that keeps the calls that were made on it.
-/

namespace StreamVerdict

/-- A test under way. -/
class TestObject (τ : Type) where
  /-- Reports a pass or a failure. -/
  setPassed : Bool → τ → τ
  /-- False once a failure was reported. -/
  passed : τ → Bool
  /-- Asks the test to stop. -/
  stop : τ → τ
  /-- Reports a failure with its reason. Unless a test does more with the reason, it is written to
  the log and a failure is reported. -/
  recordFailure : String → τ → Logged τ := fun reason t =>
    ⟨setPassed false t, [LogRecord.error reason]⟩

/-- A test that keeps the verdict. -/
structure TestRun where
  name : String
  verdict : Verdict := {}
  stopped : Bool := false
  deriving DecidableEq

instance : TestObject TestRun where
  setPassed b t :=
    { t with verdict := if b then t.verdict.passCheck else t.verdict.failCheck "" }
  passed t := !t.verdict.isFailed
  stop t := { t with stopped := true }
  recordFailure reason t :=
    ⟨{ t with verdict := t.verdict.failCheck reason },
      [LogRecord.error reason [("test", t.name)]]⟩

/-- A call on a test object. -/
inductive TestCall where
  | setPassed (b : Bool)
  | stop
  deriving DecidableEq

/-- The call in words. -/
def TestCall.describe : TestCall → String
  | setPassed true => "set_passed true"
  | setPassed false => "set_passed false"
  | stop => "stop"

/-- A test that keeps the calls made on it, in order, and reports failures without their reason. -/
structure CallRecorder where
  calls : List TestCall := []
  deriving DecidableEq

instance : TestObject CallRecorder where
  setPassed b t := ⟨t.calls ++ [.setPassed b]⟩
  passed t := .setPassed false ∉ t.calls
  stop t := ⟨t.calls ++ [.stop]⟩

end StreamVerdict
