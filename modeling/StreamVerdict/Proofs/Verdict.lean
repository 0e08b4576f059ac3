import StreamVerdict.Verdict

/-!
# Verdicts by what was said

A verdict that complaints are made to, or that other verdicts are folded into,
in terms of these.

Main results:

* `Verdict.status_foldl_failCheck` — after complaints;
* `Verdict.status_foldl_merge_eq_failed_iff` /
  `Verdict.status_foldl_merge_eq_inconclusive_iff` /
  `Verdict.reasons_foldl_merge` — after other verdicts.
-/

namespace StreamVerdict.Verdict

theorem status_passCheck (v : Verdict) :
    v.passCheck.status = if v.status = .inconclusive then .passed else v.status := by
  unfold passCheck
  split <;> rfl

@[simp] theorem status_passCheck_ne_inconclusive (v : Verdict) :
    v.passCheck.status ≠ .inconclusive := by
  rw [status_passCheck]
  split
  · nofun
  next h => exact h

@[simp] theorem status_passCheck_eq_failed_iff {v : Verdict} :
    v.passCheck.status = .failed ↔ v.status = .failed := by
  rw [status_passCheck]
  split
  next h => simp [h]
  · rfl

@[simp] theorem reasons_passCheck (v : Verdict) : v.passCheck.reasons = v.reasons := by
  unfold passCheck
  split <;> rfl

@[simp] theorem status_failCheck (v : Verdict) (reason : String) :
    (v.failCheck reason).status = .failed := rfl

/-- One complaint is enough for a failure. -/
theorem status_foldl_failCheck (v : Verdict) (reasons : List String) :
    (reasons.foldl failCheck v).status = if reasons = [] then v.status else .failed := by
  induction reasons generalizing v with
  | nil => rfl
  | cons reason reasons ih =>
    rw [List.foldl_cons, ih]
    simp

/-! ## Merged verdicts -/

/-- One failure among verdicts that are merged is enough for a failure. -/
theorem status_foldl_merge_eq_failed_iff (v : Verdict) (ws : List Verdict) :
    (ws.foldl merge v).status = .failed ↔ v.status = .failed ∨ ∃ w ∈ ws, w.status = .failed := by
  induction ws generalizing v with
  | nil => simp
  | cons w ws ih =>
    simp only [List.foldl_cons, ih, List.mem_cons, exists_eq_or_imp, ← or_assoc]
    refine or_congr_left ?_
    unfold merge
    cases hw : w.status <;> simp

/-- Merged verdicts are inconclusive if all of them are. -/
theorem status_foldl_merge_eq_inconclusive_iff (v : Verdict) (ws : List Verdict) :
    (ws.foldl merge v).status = .inconclusive ↔
      v.status = .inconclusive ∧ ∀ w ∈ ws, w.status = .inconclusive := by
  induction ws generalizing v with
  | nil => simp
  | cons w ws ih =>
    rw [List.foldl_cons, ih, List.forall_mem_cons, ← and_assoc]
    refine and_congr_left fun _ => ?_
    unfold merge
    cases hw : w.status <;> simp

/-- Only a failure brings its reasons along. -/
theorem reasons_merge (v w : Verdict) :
    (v.merge w).reasons = v.reasons ++ if w.status = .failed then w.reasons else [] := by
  cases hw : w.status <;> simp [merge, hw]

/-- The reasons of merged verdicts are those of the failures among them, in order. -/
theorem reasons_foldl_merge (v : Verdict) (ws : List Verdict) :
    (ws.foldl merge v).reasons =
      v.reasons ++ ws.flatMap fun w => if w.status = .failed then w.reasons else [] := by
  induction ws generalizing v with
  | nil => simp
  | cons w ws ih =>
    rw [List.foldl_cons, ih, reasons_merge, List.flatMap_cons, List.append_assoc]

end StreamVerdict.Verdict
