import Mathlib.Algebra.BigOperators.Group.Finset.Basic
import Mathlib.Algebra.BigOperators.Group.Finset.Piecewise
import Mathlib.Data.Finset.SymmDiff
import StreamVerdict.Proofs.Check.Difference

/-!
# What a comparison of snapshots complains of

Two snapshots can differ in four ways: an instance is only in one of them, or
an instance that is in both holds a resource in only one of them. Each such
discrepancy is complained of once, and there is a fixed order in which this is
done. An instance that holds nothing is not the same as one that is not there.

The complaints are texts, and the texts do not say by themselves what they are
about. So the discrepancies are listed first, and the complaints are their
descriptions. The list is pinned down by its members and their order, without
regard to how it is computed.

Main definitions:

* `Discrepancy.IsBetween` — the discrepancies between two snapshots;
* `Discrepancy.Precedes` — the order of complaints.

Main results:

* `Snapshot.complaints_eq` — complaints are descriptions of discrepancies;
* `Snapshot.mem_discrepancies_iff`, `Snapshot.pairwise_discrepancies`,
  `Snapshot.length_discrepancies` — which ones, in which order, how many;
* `Snapshot.judge_lists_discrepancies` — the verdict after a comparison.
-/

namespace StreamVerdict

namespace Snapshot

/-! ## Snapshots as sets -/

/-- The instances in a snapshot. -/
def instances (s : Snapshot) : Finset String :=
  s.keys.toFinset

/-- The resources that an instance holds. An instance that is not there holds none. -/
def held (s : Snapshot) (name : String) : Finset String :=
  ((s.get? name).map fun resources => resources.keys.toFinset).getD ∅

theorem mem_instances_iff {s : Snapshot} {name : String} :
    name ∈ s.instances ↔ s.contains name = true := by
  rw [instances, List.mem_toFinset, KeyMap.mem_keys_iff]

theorem mem_instances_of_get? {s : Snapshot} {name : String} {resources : TextSet}
    (h : s.get? name = some resources) : name ∈ s.instances := by
  rw [mem_instances_iff, KeyMap.contains, h]
  rfl

theorem notMem_instances_iff {s : Snapshot} {name : String} :
    name ∉ s.instances ↔ s.get? name = none := by
  rw [mem_instances_iff, KeyMap.contains, Option.isSome_iff_ne_none, not_not]

theorem held_of_get? {s : Snapshot} {name : String} {resources : TextSet}
    (h : s.get? name = some resources) : s.held name = resources.keys.toFinset := by
  rw [held, h]
  rfl

end Snapshot

/-! ## Discrepancies -/

/-- A way in which two snapshots differ. -/
inductive Discrepancy where
  | instanceLost (name : String)
  | resourceLost (name resource : String)
  | resourceGained (name resource : String)
  | instanceGained (name : String)
  deriving DecidableEq

namespace Discrepancy

/-- The complaint about a discrepancy. -/
def describe : Discrepancy → String
  | instanceLost name => s!"instance [{name}] in pre-test check not found in post-test check"
  | resourceLost name r => s!"failed to find [{r}] on instance [{name}] in post-test check"
  | resourceGained name r => s!"failed to find [{r}] on instance [{name}] in pre-test check"
  | instanceGained name => s!"instance [{name}] in post-test check not found in pre-test check"

/-- The instance that differs, or that holds the resource. -/
def name : Discrepancy → String
  | instanceLost name | resourceLost name _ | resourceGained name _ | instanceGained name => name

/-- Two snapshots differ in this way. -/
def IsBetween (baseline current : Snapshot) : Discrepancy → Prop
  | instanceLost name => name ∈ baseline.instances ∧ name ∉ current.instances
  | resourceLost name r => name ∈ baseline.instances ∧ name ∈ current.instances ∧
      r ∈ baseline.held name ∧ r ∉ current.held name
  | resourceGained name r => name ∈ baseline.instances ∧ name ∈ current.instances ∧
      r ∉ baseline.held name ∧ r ∈ current.held name
  | instanceGained name => name ∉ baseline.instances ∧ name ∈ current.instances

/-- The order of two discrepancies of one instance: first what is lost, then what is gained, and
the resources in order. -/
def PrecedesWithin : Discrepancy → Discrepancy → Prop
  | resourceLost _ r, resourceLost _ r' => r < r'
  | resourceLost _ _, resourceGained _ _ => True
  | resourceGained _ r, resourceGained _ r' => r < r'
  | _, _ => False

/-- The order of discrepancies: instance by instance, with the instances that are gained at the
end. -/
def Precedes : Discrepancy → Discrepancy → Prop
  | instanceGained name, instanceGained name' => name < name'
  | instanceGained _, _ => False
  | _, instanceGained _ => True
  | d, d' => d.name < d'.name ∨ d.name = d'.name ∧ d.PrecedesWithin d'

open Text in
theorem describe_ne_empty (d : Discrepancy) : d.describe ≠ "" := by
  cases d with
  | instanceLost name | instanceGained name =>
    exact append_ne_empty (append_ne_empty (by decide) _) _
  | resourceLost name r | resourceGained name r =>
    exact append_ne_empty (append_ne_empty (append_ne_empty (append_ne_empty (by decide) _) _) _) _

theorem not_precedes_self (d : Discrepancy) : ¬ d.Precedes d := by
  have hName (s : String) : ¬ s < s := String.lt_irrefl s
  cases d with
  | instanceGained name => exact hName name
  | instanceLost name => exact fun h => h.elim (hName name) And.right
  | resourceLost name r | resourceGained name r =>
    exact fun h => h.elim (hName name) fun h => hName r h.2

end Discrepancy

namespace Snapshot

/-! ## The list of all discrepancies -/

/-- The discrepancies of an instance that is in both snapshots. -/
def instanceDiscrepancies (name : String) (before after : TextSet) : List Discrepancy :=
  (before.keys.filter (!after.contains ·)).map (.resourceLost name) ++
    (after.keys.filter (!before.contains ·)).map (.resourceGained name)

/-- The discrepancies of an instance of the earlier snapshot. -/
def baselineDiscrepancies (current : Snapshot) (name : String) (before : TextSet) :
    List Discrepancy :=
  match current.get? name with
  | none => [.instanceLost name]
  | some after => instanceDiscrepancies name before after

/-- All discrepancies between two snapshots. -/
def discrepancies (baseline current : Snapshot) : List Discrepancy :=
  (baseline.entries.flatMap fun (name, before) => baselineDiscrepancies current name before) ++
    (current.keys.filter (!baseline.contains ·)).map .instanceGained

/-- Complaints are the descriptions of the discrepancies. -/
theorem complaints_eq (baseline current : Snapshot) :
    complaints baseline current = (discrepancies baseline current).map Discrepancy.describe := by
  -- one entry of the baseline at a time
  have hInstance (name : String) (before : TextSet) : baselineComplaints current name before =
      (baselineDiscrepancies current name before).map Discrepancy.describe := by
    unfold baselineComplaints baselineDiscrepancies
    cases current.get? name with
    | none => rfl
    | some after =>
      simp only [instanceComplaints, instanceDiscrepancies, List.map_append, List.map_map]
      rfl
  simp only [complaints, discrepancies, List.map_append, List.map_flatMap, List.map_map, hInstance]
  rfl

/-! ### Which ones -/

theorem mem_instanceDiscrepancies_iff {name : String} {before after : TextSet} {d : Discrepancy} :
    d ∈ instanceDiscrepancies name before after ↔
      (∃ r, r ∈ before.keys ∧ r ∉ after.keys ∧ d = .resourceLost name r) ∨
        ∃ r, r ∉ before.keys ∧ r ∈ after.keys ∧ d = .resourceGained name r := by
  simp only [instanceDiscrepancies, List.mem_append, List.mem_map, List.mem_filter,
    Bool.not_eq_true', ← Bool.not_eq_true, ← KeyMap.mem_keys_iff, and_assoc, eq_comm (b := d)]
  refine or_congr_right (exists_congr fun r => ?_)
  rw [and_left_comm]

theorem mem_baselineDiscrepancies_iff {baseline current : Snapshot} {name : String}
    {before : TextSet} (h : baseline.get? name = some before) {d : Discrepancy} :
    d ∈ baselineDiscrepancies current name before ↔
      d.name = name ∧ d.IsBetween baseline current := by
  have hMem : name ∈ baseline.instances := mem_instances_of_get? h
  unfold baselineDiscrepancies
  cases hAfter : current.get? name with
  | none =>
    have hNot : name ∉ current.instances := notMem_instances_iff.mpr hAfter
    rw [List.mem_singleton]
    constructor
    · rintro rfl
      exact ⟨rfl, hMem, hNot⟩
    · rintro ⟨rfl, hd⟩
      -- the instance is not in the later snapshot, which leaves one way to differ
      cases d with
      | instanceLost name => rfl
      | resourceLost name r => exact absurd hd.2.1 hNot
      | resourceGained name r => exact absurd hd.2.1 hNot
      | instanceGained name => exact absurd hd.2 hNot
  | some after =>
    have hMem' : name ∈ current.instances := mem_instances_of_get? hAfter
    rw [mem_instanceDiscrepancies_iff]
    simp only [← List.mem_toFinset, ← held_of_get? h, ← held_of_get? hAfter]
    constructor
    · rintro (⟨r, hr, hr', rfl⟩ | ⟨r, hr, hr', rfl⟩)
      · exact ⟨rfl, hMem, hMem', hr, hr'⟩
      · exact ⟨rfl, hMem, hMem', hr, hr'⟩
    · rintro ⟨rfl, hd⟩
      -- both snapshots have the instance, so it can only differ in resources
      cases d with
      | instanceLost name => exact absurd hMem' hd.2
      | resourceLost name r => exact .inl ⟨r, hd.2.2.1, hd.2.2.2, rfl⟩
      | resourceGained name r => exact .inr ⟨r, hd.2.2.1, hd.2.2.2, rfl⟩
      | instanceGained name => exact absurd hMem hd.1

/-- The list holds exactly the discrepancies between the two snapshots. -/
theorem mem_discrepancies_iff {baseline current : Snapshot} {d : Discrepancy} :
    d ∈ discrepancies baseline current ↔ d.IsBetween baseline current := by
  -- the second part of the list is about instances that are new, and about nothing else
  have hGained : d ∈ (current.keys.filter (!baseline.contains ·)).map .instanceGained ↔
      ∃ name, d = .instanceGained name ∧ d.IsBetween baseline current := by
    simp only [List.mem_map, List.mem_filter, Bool.not_eq_true', ← Bool.not_eq_true,
      ← mem_instances_iff]
    constructor
    · rintro ⟨name, ⟨hMem, hNot⟩, rfl⟩
      exact ⟨name, rfl, hNot, List.mem_toFinset.mpr hMem⟩
    · rintro ⟨name, rfl, hNot, hMem⟩
      exact ⟨name, ⟨List.mem_toFinset.mp hMem, hNot⟩, rfl⟩
  rw [discrepancies, List.mem_append, List.mem_flatMap, hGained]
  constructor
  · rintro (⟨⟨name, before⟩, he, hd⟩ | ⟨name, -, hd⟩)
    · exact ((mem_baselineDiscrepancies_iff (KeyMap.mem_entries_iff.mp he)).mp hd).2
    · exact hd
  · intro hd
    by_cases hMem : d.name ∈ baseline.instances
    · -- the first part has what is said about an instance of the baseline
      obtain ⟨before, hBefore⟩ : ∃ before, baseline.get? d.name = some before :=
        Option.isSome_iff_exists.mp (mem_instances_iff.mp hMem)
      exact .inl ⟨(d.name, before), KeyMap.mem_entries_iff.mpr hBefore,
        (mem_baselineDiscrepancies_iff hBefore).mpr ⟨rfl, hd⟩⟩
    · -- an instance that was not there before can only have been gained
      right
      cases d with
      | instanceGained name => exact ⟨name, rfl, hd⟩
      | instanceLost name => exact absurd hd.1 hMem
      | resourceLost name r => exact absurd hd.1 hMem
      | resourceGained name r => exact absurd hd.1 hMem

/-! ### In which order -/

theorem pairwise_instanceDiscrepancies (name : String) (before after : TextSet) :
    (instanceDiscrepancies name before after).Pairwise Discrepancy.Precedes := by
  have hKeys (s : TextSet) : s.keys.Pairwise (· < ·) := List.pairwise_map.mpr s.sorted
  refine List.pairwise_append.mpr ⟨?_, ?_, ?_⟩
  · exact List.pairwise_map.mpr (((hKeys before).filter _).imp fun hlt => .inr ⟨rfl, hlt⟩)
  · exact List.pairwise_map.mpr (((hKeys after).filter _).imp fun hlt => .inr ⟨rfl, hlt⟩)
  · intro d hd d' hd'
    obtain ⟨r, -, rfl⟩ := List.mem_map.mp hd
    obtain ⟨r', -, rfl⟩ := List.mem_map.mp hd'
    exact .inr ⟨rfl, trivial⟩

/-- The discrepancies of an instance that was there before are ones of that instance, and none of
them is that it is gained. -/
theorem of_mem_baselineDiscrepancies {current : Snapshot} {name : String} {before : TextSet}
    {d : Discrepancy} (h : d ∈ baselineDiscrepancies current name before) :
    d.name = name ∧ ∀ name', d ≠ .instanceGained name' := by
  unfold baselineDiscrepancies at h
  split at h
  · obtain rfl := List.mem_singleton.mp h
    exact ⟨rfl, nofun⟩
  · rcases mem_instanceDiscrepancies_iff.mp h with ⟨r, -, -, rfl⟩ | ⟨r, -, -, rfl⟩
    · exact ⟨rfl, nofun⟩
    · exact ⟨rfl, nofun⟩

/-- The discrepancies of an instance come before those of a later one. -/
theorem precedes_of_name_lt {d d' : Discrepancy} (hd : ∀ name, d ≠ .instanceGained name)
    (hlt : d.name < d'.name) : d.Precedes d' := by
  cases d with
  | instanceGained name => exact absurd rfl (hd name)
  | _ =>
    cases d' with
    | instanceGained name => exact trivial
    | _ => exact .inl hlt

/-- The discrepancies stand in their order, so none of them comes twice. -/
theorem pairwise_discrepancies (baseline current : Snapshot) :
    (discrepancies baseline current).Pairwise Discrepancy.Precedes := by
  refine List.pairwise_append.mpr ⟨List.pairwise_flatMap.mpr ⟨?_, ?_⟩, ?_, ?_⟩
  · -- within one entry
    rintro ⟨name, before⟩ -
    show (baselineDiscrepancies current name before).Pairwise _
    unfold baselineDiscrepancies
    split
    · exact List.pairwise_singleton _ _
    · exact pairwise_instanceDiscrepancies ..
  · -- the entries stand in the order of their names
    refine baseline.sorted.imp fun hlt d hd d' hd' => ?_
    obtain ⟨hName, hKept⟩ := of_mem_baselineDiscrepancies hd
    obtain ⟨hName', -⟩ := of_mem_baselineDiscrepancies hd'
    exact precedes_of_name_lt hKept (by rwa [hName, hName'])
  · -- what was gained stands in the order of names too
    exact List.pairwise_map.mpr ((List.pairwise_map.mpr current.sorted).filter _)
  · -- everything about the baseline comes before what was gained
    intro d hd d' hd'
    obtain ⟨e, -, hd⟩ := List.mem_flatMap.mp hd
    obtain ⟨name, -, rfl⟩ := List.mem_map.mp hd'
    have hKept := (of_mem_baselineDiscrepancies hd).2
    cases d with
    | instanceGained name' => exact absurd rfl (hKept name')
    | _ => exact trivial

/-! ### How many -/

theorem nodup_keys {β : Type} (m : KeyMap β) : m.keys.Nodup :=
  List.pairwise_map.mpr m.pairwise_ne

/-- What is in one of two sets of keys and not in the other, as a list. -/
theorem length_filter_keys {β γ : Type} (m : KeyMap β) (m' : KeyMap γ) :
    (m.keys.filter (!m'.contains ·)).length = (m.keys.toFinset \ m'.keys.toFinset).card := by
  rw [← List.toFinset_card_of_nodup ((nodup_keys m).filter _), List.toFinset_filter,
    Finset.sdiff_eq_filter]
  refine congrArg Finset.card (Finset.filter_congr fun key _ => ?_)
  rw [List.mem_toFinset, KeyMap.mem_keys_iff, Bool.not_eq_true', Bool.not_eq_true]

theorem card_symmDiff (s t : Finset String) :
    (symmDiff s t).card = (s \ t).card + (t \ s).card :=
  Finset.card_union_of_disjoint disjoint_sdiff_sdiff

theorem length_instanceDiscrepancies (name : String) (before after : TextSet) :
    (instanceDiscrepancies name before after).length =
      (symmDiff before.keys.toFinset after.keys.toFinset).card := by
  rw [instanceDiscrepancies, List.length_append, List.length_map, List.length_map,
    length_filter_keys, length_filter_keys, card_symmDiff]

/-- The number of discrepancies of an instance that was there before. -/
theorem length_baselineDiscrepancies {baseline current : Snapshot} {name : String}
    {before : TextSet} (h : baseline.get? name = some before) :
    (baselineDiscrepancies current name before).length =
      if name ∈ current.instances then
        (symmDiff (baseline.held name) (current.held name)).card
      else 1 := by
  unfold baselineDiscrepancies
  cases hAfter : current.get? name with
  | none =>
    rw [if_neg (notMem_instances_iff.mpr hAfter)]
    rfl
  | some after =>
    rw [if_pos (mem_instances_of_get? hAfter), held_of_get? h, held_of_get? hAfter]
    exact length_instanceDiscrepancies ..

/-- There is one discrepancy for each instance on one side only, and one for each resource that an
instance on both sides holds on one side only. -/
theorem length_discrepancies (baseline current : Snapshot) :
    (discrepancies baseline current).length =
      (symmDiff baseline.instances current.instances).card +
        ∑ name ∈ baseline.instances ∩ current.instances,
          (symmDiff (baseline.held name) (current.held name)).card := by
  let share (name : String) : Nat :=
    if name ∈ current.instances then (symmDiff (baseline.held name) (current.held name)).card else 1
  -- an entry of the baseline has one discrepancy if it is lost, and else those of its resources
  have hShare : (baseline.entries.flatMap fun (name, before) =>
      baselineDiscrepancies current name before).length =
        ∑ name ∈ baseline.instances, share name := by
    rw [instances, List.sum_toFinset _ (nodup_keys baseline), List.length_flatMap, KeyMap.keys,
      List.map_map]
    refine congrArg List.sum (List.map_congr_left fun e he => ?_)
    exact length_baselineDiscrepancies (KeyMap.mem_entries_iff.mp he)
  -- the shares of those that are kept, and one for each that is lost
  have hSplit : ∑ name ∈ baseline.instances, share name =
      ∑ name ∈ baseline.instances ∩ current.instances,
          (symmDiff (baseline.held name) (current.held name)).card +
        (baseline.instances \ current.instances).card := by
    rw [Finset.sum_ite, Finset.filter_mem_eq_inter, ← Finset.sdiff_eq_filter,
      Finset.card_eq_sum_ones]
  rw [discrepancies, List.length_append, hShare, hSplit, List.length_map, length_filter_keys,
    card_symmDiff]
  show _ + (current.instances \ baseline.instances).card = _
  omega

/-! ## The verdict -/

/-- The reasons of a verdict after complaints that all say something. -/
theorem reasons_foldl_failCheck {complaints : List String} (h : ∀ c ∈ complaints, c ≠ "")
    (v : Verdict) :
    (complaints.foldl Verdict.failCheck v).reasons = v.reasons ++ complaints := by
  induction complaints generalizing v with
  | nil => simp
  | cons c complaints ih =>
    obtain ⟨hc, hcs⟩ := List.forall_mem_cons.mp h
    rw [List.foldl_cons, ih hcs, Verdict.failCheck, if_neg hc, List.append_assoc]
    rfl

/-- A comparison adds the descriptions of the discrepancies to the reasons. -/
theorem reasons_judge (v : Verdict) (baseline current : Snapshot) :
    (judge v baseline current).reasons =
      v.reasons ++ (discrepancies baseline current).map Discrepancy.describe := by
  rw [judge, Verdict.reasons_passCheck, complaints_eq]
  refine reasons_foldl_failCheck (fun c hc => ?_) v
  obtain ⟨d, -, rfl⟩ := List.mem_map.mp hc
  exact d.describe_ne_empty

/--
**A comparison lists the discrepancies.** Whatever was said of a check before,
and whatever the two snapshots are:

1. the reasons that a comparison adds are the descriptions of the discrepancies
   between the snapshots, each of them once: instance by instance, for each one
   what was lost and then what was gained, and at the end the instances that
   are only in the later snapshot;
2. there are as many of them as there are instances on one side only, and
   resources that an instance on both sides holds on one side only;
3. a check that had not failed passes if the snapshots are equal and fails
   otherwise, and one that had failed stays failed.
-/
theorem judge_lists_discrepancies (v : Verdict) (baseline current : Snapshot) :
    ∃ ds : List Discrepancy,
      (judge v baseline current).reasons = v.reasons ++ ds.map Discrepancy.describe ∧
      (∀ d, d ∈ ds ↔ d.IsBetween baseline current) ∧
      ds.Pairwise Discrepancy.Precedes ∧
      ds.Nodup ∧
      ds.length = (symmDiff baseline.instances current.instances).card +
        ∑ name ∈ baseline.instances ∩ current.instances,
          (symmDiff (baseline.held name) (current.held name)).card ∧
      (v.status ≠ .failed →
        (judge v baseline current).status = if baseline = current then .passed else .failed) ∧
      (v.status = .failed → (judge v baseline current).status = .failed) := by
  have hOrder := pairwise_discrepancies baseline current
  have hNodup : (discrepancies baseline current).Nodup := by
    refine hOrder.imp ?_
    rintro d d' hlt rfl
    exact d.not_precedes_self hlt
  refine ⟨discrepancies baseline current, reasons_judge v baseline current,
    fun d => mem_discrepancies_iff, hOrder, hNodup, length_discrepancies baseline current, ?_, ?_⟩
  · intro hOpen
    have hPassed : v.passCheck.status = .passed := by
      rw [Verdict.status_passCheck]
      split
      · rfl
      next hDecided =>
        -- neither inconclusive nor failed
        cases hs : v.status with
        | inconclusive => exact absurd hs hDecided
        | passed => rfl
        | failed => exact absurd hs hOpen
    rw [status_judge, hPassed]
  · -- a verdict that has failed before stays so
    intro hFailed
    rw [status_judge, Verdict.status_passCheck_eq_failed_iff.mpr hFailed, ite_self]

/-- An instance that holds nothing is not the same as one that is not there. -/
example : complaints (.ofList [("a", .empty)]) (.ofList [("b", .empty)]) =
    ["instance [a] in pre-test check not found in post-test check",
      "instance [b] in post-test check not found in pre-test check"] := by decide

end Snapshot

end StreamVerdict
