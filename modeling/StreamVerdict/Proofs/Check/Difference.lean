import StreamVerdict.Check.Snapshot
import StreamVerdict.Proofs.KeyMap
import StreamVerdict.Proofs.Verdict

/-!
# Differences between snapshots

The complaints about two snapshots go through the instances and resources of
both. If there are none, the same is found in both under every name, and
then the snapshots are equal. So the verdict after a comparison depends on
nothing but whether they are.

Main results:

* `complaints_eq_nil_iff` — no complaint is made exactly about equal
  snapshots;
* `status_judge` — the status after a comparison.
-/

namespace StreamVerdict

namespace Snapshot

/-! ## Resources of one instance -/

/-- Sets are equal if each holds what the other holds. -/
theorem eq_of_keys {before after : TextSet} (hAfter : ∀ r ∈ before.keys, after.contains r = true)
    (hBefore : ∀ r ∈ after.keys, before.contains r = true) : before = after := by
  refine KeyMap.ext_get? fun r => ?_
  have hIff : before.contains r = true ↔ after.contains r = true :=
    ⟨fun h => hAfter r (KeyMap.mem_keys_iff.mpr h), fun h => hBefore r (KeyMap.mem_keys_iff.mpr h)⟩
  -- there is only one value that may be found
  unfold KeyMap.contains at hIff
  cases hb : before.get? r <;> cases ha : after.get? r <;> simp_all

theorem instanceComplaints_eq_nil_iff {name : String} {before after : TextSet} :
    instanceComplaints name before after = [] ↔ before = after := by
  unfold instanceComplaints
  simp only [List.append_eq_nil_iff, List.map_eq_nil_iff, List.filter_eq_nil_iff,
    Bool.not_eq_true', Bool.not_eq_false]
  constructor
  · rintro ⟨hAfter, hBefore⟩
    exact eq_of_keys hAfter hBefore
  · rintro rfl
    exact ⟨fun r => KeyMap.mem_keys_iff.mp, fun r => KeyMap.mem_keys_iff.mp⟩

/-! ## All instances -/

theorem baselineComplaints_eq_nil_iff {current : Snapshot} {name : String} {before : TextSet} :
    baselineComplaints current name before = [] ↔ current.get? name = some before := by
  unfold baselineComplaints
  cases current.get? name with
  | none => simp
  | some after =>
    show instanceComplaints name before after = [] ↔ _
    rw [instanceComplaints_eq_nil_iff, Option.some.injEq, eq_comm]

/-- No complaint is made exactly about snapshots that are equal. -/
theorem complaints_eq_nil_iff {baseline current : Snapshot} :
    complaints baseline current = [] ↔ baseline = current := by
  unfold complaints
  simp only [List.append_eq_nil_iff, List.flatMap_eq_nil_iff, List.map_eq_nil_iff,
    List.filter_eq_nil_iff, Bool.not_eq_true', Bool.not_eq_false, Prod.forall,
    baselineComplaints_eq_nil_iff]
  constructor
  · rintro ⟨hBaseline, hCurrent⟩
    -- instance by instance, as a lookup finds it in either snapshot
    refine KeyMap.ext_get? fun name => ?_
    cases hName : baseline.get? name with
    | some before => exact (hBaseline name before (KeyMap.mem_entries_iff.mpr hName)).symm
    | none =>
      -- what the baseline lacks would be complained about from the other side
      cases hAfter : current.get? name with
      | none => rfl
      | some after =>
        have hMem : name ∈ current.keys :=
          KeyMap.mem_keys_iff.mpr (by simp [KeyMap.contains, hAfter])
        have hFound := hCurrent name hMem
        simp [KeyMap.contains, hName] at hFound
  · rintro rfl
    exact ⟨fun name before => KeyMap.mem_entries_iff.mp, fun name => KeyMap.mem_keys_iff.mp⟩

/-- A comparison fails exactly if the snapshots are not equal, or it has failed before. -/
theorem status_judge (v : Verdict) (baseline current : Snapshot) :
    (judge v baseline current).status =
      if baseline = current then v.passCheck.status else .failed := by
  unfold judge
  rw [Verdict.status_passCheck, Verdict.status_foldl_failCheck]
  simp only [complaints_eq_nil_iff]
  by_cases h : baseline = current
  · rw [if_pos h, if_pos h, Verdict.status_passCheck]
  · rw [if_neg h, if_neg h]
    rfl

end Snapshot

end StreamVerdict
