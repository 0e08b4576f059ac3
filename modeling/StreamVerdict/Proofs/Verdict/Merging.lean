import Mathlib.Data.Nat.Basic
import Mathlib.Order.Lattice
import StreamVerdict.Proofs.Verdict
import StreamVerdict.TestObject

/-!
# Merged verdicts

Verdicts come about in three ways: a check passes, a check fails, or another
verdict is folded in, which has come about in the same three ways. Folding takes
reasons along from failures only, so that for just any verdicts the order of the
foldings matters. For those that have come about like this it does not: none of
them gives a reason without having failed (`IsSound`), and so a merged verdict
has the higher status of the two and the reasons of both.

Main definitions:

* `Verdict.Reaches` — how a verdict comes about from another one;
* `Verdict.IsSound` — what holds of all that come about from a new one;
* `Grouping` — in which order verdicts are merged.

Main results:

* `Reaches.growsTo` — nothing is taken back;
* `Grouping.foldl_merge` — merging in any order of grouping;
* `Verdict.merged_in_any_grouping` — the laws of merging, and tests that keep a
  verdict.
-/

namespace StreamVerdict

/-! ## The order of statuses -/

namespace Status

/-- How much a status says. -/
def rank : Status → Nat
  | inconclusive => 0
  | passed => 1
  | failed => 2

theorem rank_injective : Function.Injective rank := by
  intro s t h
  cases s <;> cases t <;> simp_all [rank]

/-- What is undecided comes before a pass, and a pass before a failure. -/
instance : LinearOrder Status :=
  LinearOrder.lift' rank rank_injective

/-- Nothing comes after a failure. -/
theorem eq_failed_of_le {s : Status} (h : failed ≤ s) : s = failed := by
  have hRank : failed.rank ≤ s.rank := h
  cases s with
  | failed => rfl
  | inconclusive => exact absurd hRank (by decide)
  | passed => exact absurd hRank (by decide)

theorem inconclusive_le (s : Status) : inconclusive ≤ s :=
  Nat.zero_le s.rank

end Status

attribute [ext] Verdict

namespace Verdict

/-! ## How verdicts come about -/

/-- `v.Reaches w` says that `v` becomes `w` by checks that pass, checks that fail and verdicts that
are folded in, in any order and number. What is folded in has come about in this way from a new
verdict. -/
inductive Reaches : Verdict → Verdict → Prop where
  | refl (v : Verdict) : Reaches v v
  | passCheck {v w : Verdict} (h : Reaches v w) : Reaches v w.passCheck
  | failCheck {v w : Verdict} (h : Reaches v w) (reason : String) : Reaches v (w.failCheck reason)
  | merge {v w other : Verdict} (h : Reaches v w) (hOther : Reaches {} other) :
    Reaches v (w.merge other)

theorem Reaches.trans {u v w : Verdict} (huv : u.Reaches v) (hvw : v.Reaches w) : u.Reaches w := by
  induction hvw with
  | refl => exact huv
  | passCheck _ ih => exact (ih huv).passCheck
  | failCheck _ reason ih => exact (ih huv).failCheck reason
  | merge _ hOther ih => exact (ih huv).merge hOther

/-! ## Nothing is taken back -/

/-- The status is at least what it was before, and reasons have only been added at the end. -/
structure GrowsTo (v w : Verdict) : Prop where
  status_le : v.status ≤ w.status
  reasons_prefix : v.reasons <+: w.reasons

theorem GrowsTo.refl (v : Verdict) : v.GrowsTo v :=
  ⟨le_rfl, List.prefix_rfl⟩

theorem GrowsTo.trans {u v w : Verdict} (huv : u.GrowsTo v) (hvw : v.GrowsTo w) : u.GrowsTo w :=
  ⟨huv.status_le.trans hvw.status_le, huv.reasons_prefix.trans hvw.reasons_prefix⟩

/-- The status of two merged verdicts is the later one of theirs. -/
theorem status_merge (v w : Verdict) : (v.merge w).status = max v.status w.status := by
  unfold merge
  cases hw : w.status with
  | failed => cases v.status <;> rfl
  | passed => rw [status_passCheck]; cases v.status <;> rfl
  | inconclusive => cases v.status <;> rfl

theorem growsTo_passCheck (v : Verdict) : v.GrowsTo v.passCheck := by
  constructor
  · rw [status_passCheck]
    cases v.status <;> decide
  · exact ⟨[], by rw [List.append_nil, reasons_passCheck]⟩

theorem growsTo_failCheck (v : Verdict) (reason : String) : v.GrowsTo (v.failCheck reason) := by
  constructor
  · rw [status_failCheck]
    cases v.status <;> decide
  · unfold failCheck
    dsimp only
    split
    · exact List.prefix_rfl
    · exact List.prefix_append ..

theorem growsTo_merge (v w : Verdict) : v.GrowsTo (v.merge w) := by
  constructor
  · rw [status_merge]
    exact le_max_left ..
  · rw [reasons_merge]
    exact List.prefix_append ..

/-- Whatever happens to a verdict, its status is never lowered and its reasons stay. -/
theorem Reaches.growsTo {v w : Verdict} (h : v.Reaches w) : v.GrowsTo w := by
  induction h with
  | refl v => exact .refl v
  | passCheck _ ih => exact ih.trans (growsTo_passCheck _)
  | failCheck _ reason ih => exact ih.trans (growsTo_failCheck _ reason)
  | merge _ _ ih => exact ih.trans (growsTo_merge _ _)

theorem GrowsTo.failed {v w : Verdict} (h : v.GrowsTo w) (hv : v.status = .failed) :
    w.status = .failed :=
  Status.eq_failed_of_le (hv ▸ h.status_le)

/-! ## What holds of all verdicts that come about -/

/-- Every reason says something, and reasons are given for failures only. -/
structure IsSound (v : Verdict) : Prop where
  notMem_reasons : "" ∉ v.reasons
  failed_of_reasons : v.reasons ≠ [] → v.status = .failed

theorem isSound_new : IsSound {} :=
  ⟨by simp, by simp⟩

/-- A verdict that has not failed gives no reasons. -/
theorem IsSound.reasons_eq_nil {v : Verdict} (h : v.IsSound) (hv : v.status ≠ .failed) :
    v.reasons = [] := by
  by_contra hReasons
  exact hv (h.failed_of_reasons hReasons)

/-- So all the reasons of a verdict that is folded in are taken along. -/
theorem IsSound.reasons_merge {w : Verdict} (hw : w.IsSound) (v : Verdict) :
    (v.merge w).reasons = v.reasons ++ w.reasons := by
  rw [Verdict.reasons_merge]
  split
  next => rfl
  next hFailed => rw [hw.reasons_eq_nil hFailed]

theorem IsSound.passCheck {v : Verdict} (hv : v.IsSound) : v.passCheck.IsSound := by
  constructor
  · rw [reasons_passCheck]
    exact hv.notMem_reasons
  · intro hReasons
    rw [reasons_passCheck] at hReasons
    exact (growsTo_passCheck v).failed (hv.failed_of_reasons hReasons)

theorem IsSound.failCheck {v : Verdict} (hv : v.IsSound) (reason : String) :
    (v.failCheck reason).IsSound := by
  refine ⟨?_, fun _ => rfl⟩
  unfold Verdict.failCheck
  dsimp only
  split
  next => exact hv.notMem_reasons
  next hReason =>
    intro hMem
    rcases List.mem_append.mp hMem with hMem | hMem
    · exact hv.notMem_reasons hMem
    · exact hReason (List.mem_singleton.mp hMem).symm

theorem IsSound.merge {v w : Verdict} (hv : v.IsSound) (hw : w.IsSound) : (v.merge w).IsSound := by
  constructor
  · rw [hw.reasons_merge, List.mem_append]
    rintro (hMem | hMem)
    · exact hv.notMem_reasons hMem
    · exact hw.notMem_reasons hMem
  · intro hReasons
    rw [hw.reasons_merge] at hReasons
    rw [status_merge]
    -- one of the two has a reason, so it has failed, and nothing comes after a failure
    by_cases hEmpty : v.reasons = []
    · have hFailed : w.status = .failed := by
        refine hw.failed_of_reasons fun hNone => hReasons ?_
        rw [hEmpty, hNone, List.append_nil]
      rw [hFailed, max_comm]
      exact Status.eq_failed_of_le (le_max_left ..)
    · have hFailed : v.status = .failed := hv.failed_of_reasons hEmpty
      rw [hFailed]
      exact Status.eq_failed_of_le (le_max_left ..)

/-- What comes about from a sound verdict is sound. -/
theorem Reaches.isSound {v w : Verdict} (h : v.Reaches w) (hv : v.IsSound) : w.IsSound := by
  induction h with
  | refl => exact hv
  | passCheck _ ih => exact (ih hv).passCheck
  | failCheck _ reason ih => exact (ih hv).failCheck reason
  | merge _ _ ih ihother => exact (ih hv).merge (ihother isSound_new)

/-! ## The laws of merging -/

theorem merge_assoc {v w : Verdict} (hv : v.IsSound) (hw : w.IsSound) (u : Verdict) :
    (u.merge v).merge w = u.merge (v.merge w) := by
  ext1
  · rw [status_merge, status_merge, status_merge, status_merge, max_assoc]
  · rw [hw.reasons_merge, hv.reasons_merge, (hv.merge hw).reasons_merge, hw.reasons_merge,
      List.append_assoc]

theorem new_merge {v : Verdict} (hv : v.IsSound) : merge {} v = v := by
  ext1
  · rw [status_merge]
    exact max_eq_right (Status.inconclusive_le _)
  · rw [hv.reasons_merge, List.nil_append]

theorem merge_new (v : Verdict) : v.merge {} = v :=
  rfl

end Verdict

/-- An order in which verdicts are merged. -/
inductive Grouping where
  | none
  | one (v : Verdict)
  | both (a b : Grouping)

namespace Grouping

/-- All verdicts that are merged, from left to right. -/
def verdicts : Grouping → List Verdict
  | none => []
  | one v => [v]
  | both a b => a.verdicts ++ b.verdicts

/-- What the verdicts are merged to. -/
def merged : Grouping → Verdict
  | none => {}
  | one v => v
  | both a b => a.merged.merge b.merged

theorem isSound_merged {g : Grouping} (hg : ∀ v ∈ g.verdicts, v.IsSound) : g.merged.IsSound := by
  induction g with
  | none => exact Verdict.isSound_new
  | one v => exact hg v (List.mem_singleton_self v)
  | both a b iha ihb =>
    obtain ⟨ha, hb⟩ := List.forall_mem_append.mp hg
    exact (iha ha).merge (ihb hb)

/-- Merging verdicts one by one comes to the same as merging what they are merged to. -/
theorem foldl_merge {g : Grouping} (hg : ∀ v ∈ g.verdicts, v.IsSound) (start : Verdict) :
    g.verdicts.foldl Verdict.merge start = start.merge g.merged := by
  induction g generalizing start with
  | none => exact (Verdict.merge_new start).symm
  | one v => rfl
  | both a b iha ihb =>
    obtain ⟨ha, hb⟩ := List.forall_mem_append.mp hg
    calc (a.verdicts ++ b.verdicts).foldl Verdict.merge start
      _ = b.verdicts.foldl Verdict.merge (a.verdicts.foldl Verdict.merge start) :=
          List.foldl_append
      _ = (start.merge a.merged).merge b.merged := by rw [iha ha, ihb hb]
      _ = start.merge (a.merged.merge b.merged) :=
          Verdict.merge_assoc (isSound_merged ha) (isSound_merged hb) start

/-- How verdicts are grouped does not matter. -/
theorem merged_eq_foldl {g : Grouping} (hg : ∀ v ∈ g.verdicts, v.IsSound) :
    g.merged = g.verdicts.foldl Verdict.merge {} := by
  rw [foldl_merge hg, Verdict.new_merge (isSound_merged hg)]

end Grouping

/-! ## Tests that keep a verdict -/

namespace TestRun

/-- What can be said to a test. -/
inductive Call where
  | setPassed (passed : Bool)
  | recordFailure (reason : String)
  | stop

/-- The test after a call. -/
def call (t : TestRun) : Call → TestRun
  | .setPassed passed => TestObject.setPassed passed t
  | .recordFailure reason => (TestObject.recordFailure reason t).value
  | .stop => TestObject.stop t

/-- The test after calls. -/
def callAll (t : TestRun) (cs : List Call) : TestRun :=
  cs.foldl call t

/-- A call does to the verdict what a check does, or nothing. -/
theorem reaches_call (t : TestRun) (c : Call) : t.verdict.Reaches (t.call c).verdict := by
  cases c with
  | setPassed passed =>
    cases passed with
    | true => exact .passCheck (.refl _)
    | false => exact .failCheck (.refl _) ""
  | recordFailure reason => exact .failCheck (.refl _) reason
  | stop => exact .refl _

theorem stopped_call {t : TestRun} (ht : t.stopped = true) (c : Call) :
    (t.call c).stopped = true := by
  cases c with
  | setPassed passed => exact ht
  | recordFailure reason => exact ht
  | stop => rfl

theorem reaches_callAll (t : TestRun) (cs : List Call) :
    t.verdict.Reaches (t.callAll cs).verdict := by
  induction cs generalizing t with
  | nil => exact .refl _
  | cons c cs ih => exact (reaches_call t c).trans (ih _)

theorem stopped_callAll {t : TestRun} (ht : t.stopped = true) (cs : List Call) :
    (t.callAll cs).stopped = true := by
  induction cs generalizing t with
  | nil => exact ht
  | cons c cs ih => exact ih (stopped_call ht c)

end TestRun

namespace Verdict

/-- **Verdicts are merged in any grouping, and failures stay.** For verdicts that have come about
from new ones:

1. No reason is empty, and only a failure has reasons.
2. Whatever happens to a verdict afterwards, its status is not lowered and its reasons stay, with
   others behind them.
3. Merging is associative, a new verdict changes nothing on either side, the status is the later
   one of both, so that neither order nor repetition matters for it, and the reasons are those of
   the one and then those of the other.
4. A list of verdicts comes to the same in any grouping.
5. A test that keeps a verdict stays failed once it has failed and stopped once it has stopped,
   whatever it is told. -/
theorem merged_in_any_grouping {v w : Verdict} (hv : Reaches {} v) (hw : Reaches {} w)
    (u : Verdict) :
    ("" ∉ v.reasons ∧ (v.reasons ≠ [] → v.status = .failed)) ∧
    (∀ later, v.Reaches later → v.status ≤ later.status ∧ v.reasons <+: later.reasons) ∧
    ((u.merge v).merge w = u.merge (v.merge w) ∧ merge {} v = v ∧ v.merge {} = v ∧
      (u.merge v).status = max u.status v.status ∧ (u.merge v).status = (v.merge u).status ∧
      (v.merge v).status = v.status ∧ (u.merge v).reasons = u.reasons ++ v.reasons) ∧
    (∀ a b : Grouping, (∀ x ∈ a.verdicts, Reaches {} x) → a.verdicts = b.verdicts →
      a.merged = b.merged ∧ a.merged = a.verdicts.foldl merge {}) ∧
    ∀ (t : TestRun) (cs : List TestRun.Call),
      t.verdict.Reaches (t.callAll cs).verdict ∧
      (t.verdict.status = .failed → (t.callAll cs).verdict.status = .failed) ∧
      (t.stopped = true → (t.callAll cs).stopped = true) := by
  have hSound : ∀ {x : Verdict}, Reaches {} x → x.IsSound := fun hx => hx.isSound isSound_new
  refine ⟨⟨(hSound hv).notMem_reasons, (hSound hv).failed_of_reasons⟩, ?_, ?_, ?_, ?_⟩
  · intro later hLater
    exact ⟨hLater.growsTo.status_le, hLater.growsTo.reasons_prefix⟩
  · refine ⟨merge_assoc (hSound hv) (hSound hw) u, new_merge (hSound hv), merge_new v,
      status_merge u v, ?_, ?_, (hSound hv).reasons_merge u⟩
    · rw [status_merge, status_merge, max_comm]
    · rw [status_merge, max_self]
  · -- either grouping comes down to the fold of its verdicts
    intro a b ha hab
    have hOne : a.merged = a.verdicts.foldl merge {} :=
      Grouping.merged_eq_foldl fun x hx => hSound (ha x hx)
    have hOther : b.merged = b.verdicts.foldl merge {} :=
      Grouping.merged_eq_foldl fun x hx => hSound (ha x (hab ▸ hx))
    exact ⟨by rw [hOne, hOther, hab], hOne⟩
  · -- a test run only ever adds to its verdict
    intro t cs
    have hReaches := TestRun.reaches_callAll t cs
    exact ⟨hReaches, hReaches.growsTo.failed, fun ht => TestRun.stopped_callAll ht cs⟩

/-- A door that is found open, and then found shut. -/
theorem open_door_merged :
    Reaches {} (failCheck {} "door open") ∧ Reaches {} ((passCheck {}).merge {}) ∧
    ((passCheck {}).merge (failCheck {} "door open")).merge ((passCheck {}).merge {}) =
      (passCheck {}).merge ((failCheck {} "door open").merge ((passCheck {}).merge {})) ∧
    ((passCheck {}).merge (failCheck {} "door open")).status = .failed ∧
    ((passCheck {}).merge (failCheck {} "door open")).reasons = ["door open"] := by
  have hOpen : Reaches {} (failCheck {} "door open") := .failCheck (.refl _) _
  have hShut : Reaches {} ((passCheck {}).merge {}) := .merge (.passCheck (.refl _)) (.refl _)
  obtain ⟨-, -, ⟨hAssoc, -, -, hStatus, -, -, hReasons⟩, -⟩ :=
    merged_in_any_grouping hOpen hShut (passCheck {})
  exact ⟨hOpen, hShut, hAssoc, by rw [hStatus]; decide, by rw [hReasons]; decide⟩

/-- A pass with a reason does not come about, and in merging it the grouping matters. -/
example :
    (merge {} ⟨.passed, ["door open"]⟩).merge ⟨.failed, []⟩ ≠
      merge {} (merge ⟨.passed, ["door open"]⟩ ⟨.failed, []⟩) := by
  decide

end Verdict

end StreamVerdict
