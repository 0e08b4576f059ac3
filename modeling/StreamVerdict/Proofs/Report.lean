import StreamVerdict.Proofs.Verdict
import StreamVerdict.TestObject

/-!
# Reports to a test

Whatever monitors, observers and dispatchers do to a test is a sequence of
reports: it passes, it fails for a reason, it is to stop. A test that keeps a
verdict makes three things of such a sequence, and for none of them does it
matter how passes and stops stand between the failures.

Main results:

* `tellAll_failed_iff` / `tellAll_inconclusive_iff` — failed if any report
  is a failure, undecided if none is a failure or a pass;
* `tellAll_status` — the status of a test of which nothing was known before;
* `tellAll_reasons` — the reasons of the failures, in order;
* `tellAll_stopped` — stopped if any report asks for it.

Other tests may keep something else, as long as a failure stays a failure
(`TestObject.KeepsFailures`).
-/

namespace StreamVerdict

/-- What the engine says to a test. -/
inductive Report where
  | pass
  | fail (reason : String)
  | stop
  deriving DecidableEq

namespace Report

/-- The reason for a failure. -/
def reason? : Report → Option String
  | fail reason => some reason
  | _ => none

/-- The reasons for all failures, in order. -/
def reasons (rs : List Report) : List String :=
  rs.filterMap reason?

@[simp] theorem reasons_nil : reasons [] = [] := rfl

@[simp] theorem reasons_append (rs ss : List Report) :
    reasons (rs ++ ss) = reasons rs ++ reasons ss :=
  List.filterMap_append ..

@[simp] theorem reasons_pass_cons (rs : List Report) : reasons (pass :: rs) = reasons rs := rfl

@[simp] theorem reasons_stop_cons (rs : List Report) : reasons (stop :: rs) = reasons rs := rfl

@[simp] theorem reasons_fail_cons (reason : String) (rs : List Report) :
    reasons (fail reason :: rs) = reason :: reasons rs := rfl

/-- The reasons of several sequences are theirs one after the other. -/
theorem reasons_flatMap {α : Type} (f : α → List Report) (xs : List α) :
    reasons (xs.flatMap f) = xs.flatMap fun x => reasons (f x) := by
  induction xs with
  | nil => rfl
  | cons x xs ih => rw [List.flatMap_cons, reasons_append, ih, List.flatMap_cons]

variable {τ : Type} [TestObject τ]

/-- The test after a report. -/
def tell (t : τ) : Report → τ
  | pass => TestObject.setPassed true t
  | fail reason => (TestObject.recordFailure reason t).value
  | stop => TestObject.stop t

/-- The test after reports. -/
def tellAll (t : τ) (rs : List Report) : τ :=
  rs.foldl tell t

@[simp] theorem tellAll_nil (t : τ) : tellAll t [] = t := rfl

@[simp] theorem tellAll_cons (t : τ) (r : Report) (rs : List Report) :
    tellAll t (r :: rs) = tellAll (tell t r) rs := rfl

@[simp] theorem tellAll_append (t : τ) (rs ss : List Report) :
    tellAll t (rs ++ ss) = tellAll (tellAll t rs) ss :=
  List.foldl_append ..

/-! ## Tests that keep a verdict -/

theorem tell_pass (t : TestRun) :
    tell t pass = { t with verdict := t.verdict.passCheck } := rfl

theorem tell_fail (t : TestRun) (reason : String) :
    tell t (fail reason) = { t with verdict := t.verdict.failCheck reason } := rfl

theorem tell_stop (t : TestRun) : tell t stop = { t with stopped := true } := rfl

theorem tellAll_stopped (t : TestRun) (rs : List Report) :
    (tellAll t rs).stopped = true ↔ t.stopped = true ∨ stop ∈ rs := by
  induction rs generalizing t with
  | nil => simp
  | cons r rs ih =>
    rw [tellAll_cons, ih]
    cases r <;> simp [tell_pass, tell_fail, tell_stop]

theorem tellAll_reasons (t : TestRun) (rs : List Report) :
    (tellAll t rs).verdict.reasons = t.verdict.reasons ++ (reasons rs).filter (· ≠ "") := by
  induction rs generalizing t with
  | nil => simp
  | cons r rs ih =>
    rw [tellAll_cons, ih]
    cases r with
    | pass => simp [tell_pass]
    | fail reason => by_cases hr : reason = "" <;> simp [tell_fail, Verdict.failCheck, hr]
    | stop => simp [tell_stop]

/-- A failure is final. -/
theorem tellAll_failed_iff (t : TestRun) (rs : List Report) :
    (tellAll t rs).verdict.status = .failed ↔ t.verdict.status = .failed ∨ reasons rs ≠ [] := by
  induction rs generalizing t with
  | nil => simp
  | cons r rs ih =>
    rw [tellAll_cons, ih]
    cases r with
    | pass => cases h : t.verdict.status <;> simp [tell_pass, Verdict.passCheck, h]
    | fail reason => simp [tell_fail, Verdict.failCheck]
    | stop => simp [tell_stop]

/-- Nothing is decided until a pass or a failure is reported. -/
theorem tellAll_inconclusive_iff (t : TestRun) (rs : List Report) :
    (tellAll t rs).verdict.status = .inconclusive ↔
      t.verdict.status = .inconclusive ∧ reasons rs = [] ∧ pass ∉ rs := by
  induction rs generalizing t with
  | nil => simp
  | cons r rs ih =>
    rw [tellAll_cons, ih]
    cases r with
    | pass => cases h : t.verdict.status <;> simp [tell_pass, Verdict.passCheck, h]
    | fail reason => simp [tell_fail, Verdict.failCheck]
    | stop => simp [tell_stop]

/-- The status that reports give a test of which nothing is known. -/
theorem tellAll_status {t : TestRun} (ht : t.verdict.status = .inconclusive) (rs : List Report) :
    (tellAll t rs).verdict.status =
      if reasons rs ≠ [] then .failed else if pass ∈ rs then .passed else .inconclusive := by
  have hFailed := tellAll_failed_iff t rs
  have hUndecided := tellAll_inconclusive_iff t rs
  simp only [ht, true_and, reduceCtorEq, false_or] at hFailed hUndecided
  by_cases hr : reasons rs = []
  · by_cases hp : pass ∈ rs
    · -- two of the three statuses are ruled out
      rw [if_neg (not_not_intro hr), if_pos hp]
      cases hs : (tellAll t rs).verdict.status with
      | passed => rfl
      | failed => exact absurd hr (hFailed.mp hs)
      | inconclusive => exact absurd hp (hUndecided.mp hs).2
    · rw [if_neg (not_not_intro hr), if_neg hp]
      exact hUndecided.mpr ⟨hr, hp⟩
  · rw [if_pos hr]
    exact hFailed.mpr hr

/-- A test has not failed as long as it has heard of no failure. -/
theorem passed_tellAll_iff {t : TestRun} (ht : t.verdict.status ≠ .failed) (rs : List Report) :
    TestObject.passed (tellAll t rs) = true ↔ reasons rs = [] := by
  have hPassed : TestObject.passed (tellAll t rs) = true ↔
      (tellAll t rs).verdict.status ≠ .failed := by
    show (!(tellAll t rs).verdict.isFailed) = true ↔ _
    simp [Verdict.isFailed]
  rw [hPassed, ne_eq, tellAll_failed_iff]
  simp [ht]

end Report

/-! ## Tests that keep failures -/

/-- Tests that have failed once a failure was recorded, whatever they are told afterwards. -/
class TestObject.KeepsFailures (τ : Type) [TestObject τ] : Prop where
  recordFailure (reason : String) (t : τ) :
    TestObject.passed (TestObject.recordFailure reason t).value = false
  setPassed (b : Bool) {t : τ} :
    TestObject.passed t = false → TestObject.passed (TestObject.setPassed b t) = false
  stop {t : τ} : TestObject.passed t = false → TestObject.passed (TestObject.stop t) = false

instance : TestObject.KeepsFailures TestRun where
  recordFailure _ _ := rfl
  setPassed b {t} h := by
    have hFailed : t.verdict.status = .failed := by
      simpa [TestObject.passed, Verdict.isFailed] using h
    cases b with
    | false => rfl
    | true => simp [TestObject.passed, TestObject.setPassed, Verdict.passCheck, Verdict.isFailed,
        hFailed]
  stop h := h

instance : TestObject.KeepsFailures CallRecorder where
  recordFailure _ t := by simp [TestObject.passed, TestObject.recordFailure]
  setPassed b {t} h := by
    have hFailed : .setPassed false ∈ t.calls := by simpa [TestObject.passed] using h
    simp [TestObject.passed, TestObject.setPassed, hFailed]
  stop {t} h := by
    have hFailed : .setPassed false ∈ t.calls := by simpa [TestObject.passed] using h
    simp [TestObject.passed, TestObject.stop, hFailed]

namespace Report

variable {τ : Type} [TestObject τ] [TestObject.KeepsFailures τ]

theorem passed_tell_of_failed {t : τ} (h : TestObject.passed t = false) (r : Report) :
    TestObject.passed (tell t r) = false := by
  cases r with
  | pass => exact TestObject.KeepsFailures.setPassed true h
  | fail reason => exact TestObject.KeepsFailures.recordFailure reason t
  | stop => exact TestObject.KeepsFailures.stop h

/-- A failed test stays failed. -/
theorem passed_tellAll_of_failed {t : τ} (h : TestObject.passed t = false) (rs : List Report) :
    TestObject.passed (tellAll t rs) = false := by
  induction rs generalizing t with
  | nil => exact h
  | cons r rs ih => exact ih (passed_tell_of_failed h r)

end Report

end StreamVerdict
