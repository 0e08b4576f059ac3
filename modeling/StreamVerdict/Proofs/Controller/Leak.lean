import StreamVerdict.Check.Rehearsal
import StreamVerdict.Proofs.Check.Difference
import StreamVerdict.Proofs.Controller.Calls

/-!
# Leaks

A pair of checks that take snapshots finds leaks. The one before the test
takes a baseline, the one after it takes another snapshot and compares. They
are two checks among others in a controller, and are carried out whenever
their phases are, in any order and as often as one likes. Each time the probe
may answer with any snapshot or with an error.

Two facts about the baseline carry the proof. It is always the snapshot that
was taken last, since an attempt that fails leaves it in place. And it is
handed to the later check as it is at that moment, since the pair is found by
its place, and places do not change.

Main definitions:

* `Snapshot.Hosts` — checks of any kind with snapshot checks among them;
* `Snapshot.Look`, `Site.looks` — what the probe answered to the two checks;
* `Snapshot.HasLeak` — that a comparison had reason to fail.

Main results:

* `Snapshot.BaselineAgrees.turn` / `Snapshot.ComparisonAgrees.turn` — one turn of each check;
* `Site.agreesBefore_run` / `Site.agreesAfter_run` — any calls;
* `Site.leaks_are_found` — the statuses of the pair.
-/

namespace StreamVerdict

namespace Snapshot

/-! ## Checks of many kinds -/

/-- Bodies of checks with those that take snapshots among them. These are carried out as such: the
one after the test is given the baseline of the check that it is paired with, if that is one that
takes baselines. -/
class Hosts (κ ω : Type) [Examiner κ ω] [Probe ω] where
  wrap : Body → κ
  body? : κ → Option Body
  body?_wrap (b : Body) : body? (wrap b) = some b
  examine_wrap (info : CheckInfo) (verdict : Verdict) (b : Body) (related : Option (Check κ))
      (world : ω) :
    Examiner.examine ({ info, verdict, body := wrap b } : Check κ) related world =
      let baseline := related.bind fun r => (body? r.body).bind Body.baseline?
      let found := examine verdict b baseline world
      ⟨found.verdict, wrap found.body, found.world, found.error⟩

instance {ω : Type} [Probe ω] : Hosts Body ω where
  wrap b := b
  body? b := some b
  body?_wrap _ := rfl
  examine_wrap _ _ _ _ _ := rfl

instance : Hosts Rehearsal.Body Rehearsal.Stage where
  wrap := .snapshot
  body?
    | .snapshot b => some b
    | .script _ => none
  body?_wrap _ := rfl
  examine_wrap info verdict b related world := by
    cases related with
    | none => rfl
    | some r =>
      obtain ⟨info', verdict', body⟩ := r
      cases body <;> rfl

/-! ## Looks -/

/-- What the probe answers when one of the two checks has its turn. Where there is no baseline the
check after the test does not ask, and its look holds what the answer would be. -/
inductive Look where
  | baseline (answer : Except Error Snapshot)
  | comparison (answer : Except Error Snapshot)

/-- The snapshot that a look took as a baseline. -/
def Look.taken? : Look → Option Snapshot
  | baseline (.ok taken) => some taken
  | baseline (.error _) | comparison _ => none

/-- The snapshot that was taken last as a baseline. -/
def lastBaseline (looks : List Look) : Option Snapshot :=
  (looks.filterMap Look.taken?).getLast?

/-- A comparison has reason to fail: there is no baseline, or the snapshot cannot be taken, or it is
not the baseline. -/
def IsLeak (baseline : Option Snapshot) (answer : Except Error Snapshot) : Prop :=
  baseline = none ∨ (∃ e, answer = .error e) ∨
    ∃ before current, baseline = some before ∧ answer = .ok current ∧ current ≠ before

/-- Some comparison had reason to fail, given the baseline that was taken last before it. -/
def HasLeak (looks : List Look) : Prop :=
  ∃ earlier answer later, looks = earlier ++ .comparison answer :: later ∧
    IsLeak (lastBaseline earlier) answer

theorem lastBaseline_append_ok (looks : List Look) (taken : Snapshot) :
    lastBaseline (looks ++ [.baseline (.ok taken)]) = some taken := by
  simp [lastBaseline, Look.taken?]

theorem lastBaseline_append_of_none (looks : List Look) {look : Look} (h : look.taken? = none) :
    lastBaseline (looks ++ [look]) = lastBaseline looks := by
  simp [lastBaseline, h]

/-- Where no baseline is seen none is taken. -/
theorem lastBaseline_of_unseen {looks : List Look} (h : ∀ answer, .baseline answer ∉ looks) :
    lastBaseline looks = none := by
  rw [lastBaseline, List.getLast?_eq_none_iff, List.filterMap_eq_nil_iff]
  intro look hLook
  cases look with
  | baseline answer => exact absurd hLook (h answer)
  | comparison answer => rfl

/-- A leak is found earlier or by the last look. -/
theorem hasLeak_append_singleton {looks : List Look} {look : Look} :
    HasLeak (looks ++ [look]) ↔ HasLeak looks ∨
      ∃ answer, look = .comparison answer ∧ IsLeak (lastBaseline looks) answer := by
  constructor
  · rintro ⟨earlier, answer, later, hLooks, hLeak⟩
    -- the leak is in the look that has been added, or in one before it
    rcases List.eq_nil_or_concat later with rfl | ⟨later, last, rfl⟩
    · obtain ⟨rfl, hLook⟩ := List.append_inj' hLooks rfl
      exact .inr ⟨answer, by simpa using hLook, hLeak⟩
    · rw [List.concat_eq_append, ← List.cons_append, ← List.append_assoc] at hLooks
      obtain ⟨rfl, -⟩ := List.append_inj' hLooks rfl
      exact .inl ⟨earlier, answer, later, rfl, hLeak⟩
  · rintro (⟨earlier, answer, later, rfl, hLeak⟩ | ⟨answer, rfl, hLeak⟩)
    · -- a leak stays one whatever is looked at later
      exact ⟨earlier, answer, later ++ [look], by simp, hLeak⟩
    · exact ⟨looks, answer, [], rfl, hLeak⟩

end Snapshot

/-! ## One turn -/

/-- A status as it has to be: inconclusive before anything is seen, failed if there is a fault, and
passed otherwise. -/
def Status.Reports (s : Status) (seen fault : Prop) : Prop :=
  (s = .inconclusive ↔ ¬ seen) ∧ (s = .failed ↔ fault) ∧ (s = .passed ↔ seen ∧ ¬ fault)

/-- A status reports something as soon as it agrees in two of its values. -/
theorem Status.reports_of_iff {s : Status} {seen fault : Prop} (hSeen : s = .inconclusive ↔ ¬ seen)
    (hFault : s = .failed ↔ fault) : s.Reports seen fault := by
  refine ⟨hSeen, hFault, ?_⟩
  cases s <;> simp_all

namespace Snapshot

variable {κ ω : Type} [Examiner κ ω] [Probe ω] [Hosts κ ω]

/-- A check before the test agrees with what was seen: it holds the baseline that was taken last,
and reports any attempt that failed. -/
structure BaselineAgrees (ω : Type) [Examiner κ ω] [Probe ω] [Hosts κ ω] (check : Check κ)
    (looks : List Look) : Prop where
  body_eq : check.body = Hosts.wrap ω (.baseline (lastBaseline looks))
  reports : check.status.Reports (∃ answer, .baseline answer ∈ looks)
    (∃ e, .baseline (.error e) ∈ looks)

/-- A check after the test agrees with what was seen: it reports any comparison that had reason to
fail. -/
structure ComparisonAgrees (ω : Type) [Examiner κ ω] [Probe ω] [Hosts κ ω] (check : Check κ)
    (looks : List Look) : Prop where
  exists_body : ∃ captured, check.body = Hosts.wrap ω (.comparison captured)
  reports : check.status.Reports (∃ answer, .comparison answer ∈ looks) (HasLeak looks)

/-- A check that takes a baseline, before its first turn. -/
def baselineCheck (ω : Type) [Examiner κ ω] [Probe ω] [Hosts κ ω] (info : CheckInfo) : Check κ :=
  { info, body := Hosts.wrap ω (.baseline none) }

/-- A check that compares, before its first turn. -/
def comparisonCheck (ω : Type) [Examiner κ ω] [Probe ω] [Hosts κ ω] (info : CheckInfo) : Check κ :=
  { info, body := Hosts.wrap ω (.comparison none) }

/-- A look at something else changes nothing for the check before the test. -/
theorem BaselineAgrees.comparison {check : Check κ} {looks : List Look}
    (h : BaselineAgrees ω check looks) (answer : Except Error Snapshot) :
    BaselineAgrees ω check (looks ++ [.comparison answer]) where
  body_eq := by rw [lastBaseline_append_of_none looks rfl, h.body_eq]
  reports := by simpa using h.reports

theorem ComparisonAgrees.baseline {check : Check κ} {looks : List Look}
    (h : ComparisonAgrees ω check looks) (answer : Except Error Snapshot) :
    ComparisonAgrees ω check (looks ++ [.baseline answer]) where
  exists_body := h.exists_body
  reports := by simpa [hasLeak_append_singleton] using h.reports

/-- A turn of the check before the test, by what the probe answers. -/
theorem turn_baseline {c : Controller κ} {check : Check κ} {captured : Option Snapshot}
    (hBody : check.body = Hosts.wrap ω (.baseline captured))
    (hAdmits : c.capabilities.admits check.info = true) (related : Option (Check κ)) (world : ω) :
    (∃ taken, (Probe.capture world).1 = .ok taken ∧
      (c.turn check related world).body = Hosts.wrap ω (.baseline (some taken)) ∧
      (c.turn check related world).status = check.verdict.passCheck.status) ∨
    (∃ e, (Probe.capture world).1 = .error e ∧
      (c.turn check related world).body = Hosts.wrap ω (.baseline captured) ∧
      (c.turn check related world).status = .failed) := by
  obtain ⟨info, verdict, body⟩ := check
  subst hBody
  unfold Controller.turn Check.carryOut
  rw [if_pos hAdmits, Hosts.examine_wrap]
  simp only [examine, examineBaseline]
  obtain ⟨answer, world'⟩ := Probe.capture world
  cases answer with
  | ok taken => exact .inl ⟨taken, rfl, rfl, rfl⟩
  | error e => exact .inr ⟨e, rfl, rfl, rfl⟩

/-- A turn of the check after the test, by what the probe answers and the baseline it is given. -/
theorem turn_comparison {c : Controller κ} {check : Check κ} {captured : Option Snapshot}
    (hBody : check.body = Hosts.wrap ω (.comparison captured))
    (hAdmits : c.capabilities.admits check.info = true) {related : Option (Check κ)}
    {baseline : Option Snapshot}
    (hRelated : (related.bind fun r => (Hosts.body? ω r.body).bind Body.baseline?) = baseline)
    (world : ω) :
    (∃ captured, (c.turn check related world).body = Hosts.wrap ω (.comparison captured)) ∧
    ((IsLeak baseline (Probe.capture world).1 ∧ (c.turn check related world).status = .failed) ∨
      (¬ IsLeak baseline (Probe.capture world).1 ∧
        (c.turn check related world).status = check.verdict.passCheck.status)) := by
  obtain ⟨info, verdict, body⟩ := check
  subst hBody
  unfold Controller.turn Check.carryOut
  rw [if_pos hAdmits, Hosts.examine_wrap, hRelated]
  cases baseline with
  -- without a baseline there is nothing to compare with
  | none => exact ⟨⟨captured, rfl⟩, .inl ⟨.inl rfl, rfl⟩⟩
  | some before =>
    simp only [examine, examineComparison]
    obtain ⟨answer, world'⟩ := Probe.capture world
    cases answer with
    -- the resources could not be captured
    | error e => exact ⟨⟨captured, rfl⟩, .inl ⟨.inr (.inl ⟨e, rfl⟩), rfl⟩⟩
    | ok current =>
      refine ⟨⟨some current, rfl⟩, ?_⟩
      have hStatus := status_judge verdict before current
      -- captured: it is a leak unless the snapshot is the same as the baseline
      by_cases hSame : before = current
      · rw [if_pos hSame] at hStatus
        exact .inr ⟨by simp [IsLeak, hSame], hStatus⟩
      · rw [if_neg hSame] at hStatus
        exact .inl ⟨.inr (.inr ⟨before, current, rfl, rfl, Ne.symm hSame⟩), hStatus⟩

theorem BaselineAgrees.turn {c : Controller κ} {check : Check κ} {looks : List Look}
    (h : BaselineAgrees ω check looks) (hAdmits : c.capabilities.admits check.info = true)
    (related : Option (Check κ)) (world : ω) :
    BaselineAgrees ω (c.turn check related world)
      (looks ++ [.baseline (Probe.capture world).1]) := by
  obtain ⟨-, hFault, -⟩ := h.reports
  rcases turn_baseline h.body_eq hAdmits related world with
    ⟨taken, hAnswer, hBody, hStatus⟩ | ⟨e, hAnswer, hBody, hStatus⟩
  · -- a snapshot was taken: it is the baseline from now on
    rw [hAnswer]
    refine ⟨by rw [hBody, lastBaseline_append_ok], Status.reports_of_iff ?_ ?_⟩
    · simp [hStatus]
    · rw [hStatus, Verdict.status_passCheck_eq_failed_iff]
      simpa [Check.status] using hFault
  · -- the snapshot that was taken last stays in place
    rw [hAnswer]
    refine ⟨by rw [hBody, lastBaseline_append_of_none _ rfl], Status.reports_of_iff ?_ ?_⟩
    · simp [hStatus]
    · simp [hStatus]

theorem ComparisonAgrees.turn {c : Controller κ} {check before : Check κ} {looks : List Look}
    (h : ComparisonAgrees ω check looks) (hBefore : BaselineAgrees ω before looks)
    (hAdmits : c.capabilities.admits check.info = true) (world : ω) :
    ComparisonAgrees ω (c.turn check (some before) world)
      (looks ++ [.comparison (Probe.capture world).1]) := by
  obtain ⟨-, hFault, -⟩ := h.reports
  obtain ⟨captured, hBody⟩ := h.exists_body
  -- what the check is handed is the snapshot that was taken last
  have hRelated : ((some before).bind fun r => (Hosts.body? ω r.body).bind Body.baseline?) =
      lastBaseline looks := by
    simp [hBefore.body_eq, Hosts.body?_wrap, Body.baseline?]
  obtain ⟨hBody', hTurn⟩ := turn_comparison hBody hAdmits hRelated world
  refine ⟨hBody', ?_⟩
  rcases hTurn with ⟨hLeak, hStatus⟩ | ⟨hLeak, hStatus⟩
  · -- a leak fails the check
    exact Status.reports_of_iff (by simp [hStatus])
      (by simp [hStatus, hasLeak_append_singleton, hLeak])
  · -- without one it has failed exactly if it had failed before
    refine Status.reports_of_iff (by simp [hStatus]) ?_
    rw [hStatus, Verdict.status_passCheck_eq_failed_iff]
    simpa [Check.status, hasLeak_append_singleton, hLeak] using hFault

end Snapshot

/-! ## Any calls -/

namespace Site

open Controller (Call)
open Snapshot

variable {κ ω : Type} [Examiner κ ω] [Probe ω]

/-- What is seen at two places because of a call, one of a check before the test and one of a check
after it: nothing of a check that is not there or is to be skipped. -/
def looksIn (s : Site κ ω) (i j : Nat) : Call κ ω → List Look
  | .evaluatePre =>
    ((s.controller.pre[i]?.filter (s.controller.capabilities.admits ·.info)).map fun _ =>
      .baseline (Probe.capture (s.controller.worldBefore i s.world)).1).toList
  | .evaluatePost =>
    ((s.controller.post[j]?.filter (s.controller.capabilities.admits ·.check.info)).map fun _ =>
      .comparison (Probe.capture (s.controller.worldAfter j s.world)).1).toList
  | .registerPre _ | .registerPost _ _ | .registerListener _ | .meanwhile _ => []

/-- What is seen at two places because of calls. -/
def looks (s : Site κ ω) (i j : Nat) : List (Call κ ω) → List Look
  | [] => []
  | call :: calls => s.looksIn i j call ++ (s.call call).looks i j calls

theorem looks_cons (s : Site κ ω) (i j : Nat) (call : Call κ ω) (calls : List (Call κ ω)) :
    s.looks i j (call :: calls) = s.looksIn i j call ++ (s.call call).looks i j calls := rfl

theorem looks_append (s : Site κ ω) (i j : Nat) (calls more : List (Call κ ω)) :
    s.looks i j (calls ++ more) = s.looks i j calls ++ (s.run calls).looks i j more := by
  induction calls generalizing s with
  | nil => rfl
  | cons call calls ih =>
    rw [List.cons_append, looks, ih, looks, List.append_assoc, run_cons]

variable [Hosts κ ω]

/-- At a place before the test there is a check that agrees with what was seen. -/
def AgreesBefore (s : Site κ ω) (i : Nat) (info : CheckInfo) (looks : List Look) : Prop :=
  ∃ check, s.controller.pre[i]? = some check ∧ check.info = info ∧ BaselineAgrees ω check looks

/-- At a place after the test there is a check that is paired with one before it and agrees with
what was seen. -/
def AgreesAfter (s : Site κ ω) (i j : Nat) (info : CheckInfo) (looks : List Look) : Prop :=
  ∃ p, s.controller.post[j]? = some p ∧ p.check.info = info ∧ p.related = some i ∧
    ComparisonAgrees ω p.check looks

/-- Every call keeps the check before the test in agreement with what was seen. -/
theorem agreesBefore_call {s : Site κ ω} {i : Nat} {info : CheckInfo} {looks : List Look}
    (h : s.AgreesBefore i info looks) (j : Nat) (call : Call κ ω) :
    (s.call call).AgreesBefore i info (looks ++ s.looksIn i j call) := by
  obtain ⟨check, hCheck, hInfo, hAgrees⟩ := h
  -- only a phase before the test can change the check itself
  have hOther (hCall : call ≠ .evaluatePre) : (s.call call).controller.pre[i]? = some check :=
    Controller.getElem?_of_prefix (s.pre_prefix_call hCall) hCheck
  cases call with
  | evaluatePre =>
    have hAfter := s.controller.getElem?_evaluatePre s.world i
    rw [hCheck] at hAfter
    refine ⟨_, hAfter, by simp [hInfo], ?_⟩
    cases hAdmits : s.controller.capabilities.admits check.info with
    -- the check is carried out, and takes a look
    | true => simpa [looksIn, hCheck, Option.filter_some, hAdmits] using hAgrees.turn hAdmits none _
    -- it is skipped, and stays as it is
    | false => simpa [looksIn, hCheck, Option.filter_some, hAdmits, Controller.turn] using hAgrees
  | evaluatePost =>
    refine ⟨check, hOther nofun, hInfo, ?_⟩
    -- the second check may take a look, which says nothing about the first
    cases hPost : s.controller.post[j]?.filter (s.controller.capabilities.admits ·.check.info) with
    | none => simpa [looksIn, hPost] using hAgrees
    | some p => simpa [looksIn, hPost] using hAgrees.comparison _
  | registerPre new => exact ⟨check, hOther nofun, hInfo, by simpa [looksIn] using hAgrees⟩
  | registerPost new preName =>
    exact ⟨check, hOther nofun, hInfo, by simpa [looksIn] using hAgrees⟩
  | registerListener l => exact ⟨check, hOther nofun, hInfo, by simpa [looksIn] using hAgrees⟩
  | meanwhile change => exact ⟨check, hOther nofun, hInfo, by simpa [looksIn] using hAgrees⟩

/-- Every call keeps the check after the test in agreement with what was seen, if the one that it is
paired with is so. -/
theorem agreesAfter_call {s : Site κ ω} {i j : Nat} {before after : CheckInfo} {looks : List Look}
    (hBefore : s.AgreesBefore i before looks) (h : s.AgreesAfter i j after looks)
    (call : Call κ ω) :
    (s.call call).AgreesAfter i j after (looks ++ s.looksIn i j call) := by
  obtain ⟨p, hp, hInfo, hRelated, hAgrees⟩ := h
  -- only a phase after the test can change the check itself
  have hOther (hCall : call ≠ .evaluatePost) : (s.call call).controller.post[j]? = some p :=
    Controller.getElem?_of_prefix (s.post_prefix_call hCall) hp
  cases call with
  | evaluatePre =>
    refine ⟨p, hOther nofun, hInfo, hRelated, ?_⟩
    -- the first check may take a look: the baseline changes, and no leak is found
    cases hPre : s.controller.pre[i]?.filter (s.controller.capabilities.admits ·.info) with
    | none => simpa [looksIn, hPre] using hAgrees
    | some check => simpa [looksIn, hPre] using hAgrees.baseline _
  | evaluatePost =>
    obtain ⟨check, hCheck, -, hBaseline⟩ := hBefore
    have hAfter := s.controller.getElem?_evaluatePost s.world j
    rw [hp] at hAfter
    refine ⟨_, hAfter, by simp [hInfo], hRelated, ?_⟩
    -- it is handed the first check as it is now
    have hPair : s.controller.relatedCheck p = some check := by
      simp [Controller.relatedCheck, hRelated, hCheck]
    cases hAdmits : s.controller.capabilities.admits p.check.info with
    -- the check is carried out, and takes a look
    | true =>
      simpa [looksIn, hp, Option.filter_some, hAdmits, hPair] using
        hAgrees.turn hBaseline hAdmits _
    -- it is skipped, and stays as it is
    | false => simpa [looksIn, hp, Option.filter_some, hAdmits, Controller.turn] using hAgrees
  | registerPre new => exact ⟨p, hOther nofun, hInfo, hRelated, by simpa [looksIn] using hAgrees⟩
  | registerPost new preName =>
    exact ⟨p, hOther nofun, hInfo, hRelated, by simpa [looksIn] using hAgrees⟩
  | registerListener l =>
    exact ⟨p, hOther nofun, hInfo, hRelated, by simpa [looksIn] using hAgrees⟩
  | meanwhile change =>
    exact ⟨p, hOther nofun, hInfo, hRelated, by simpa [looksIn] using hAgrees⟩

theorem agreesBefore_run {s : Site κ ω} {i : Nat} {info : CheckInfo} {looks : List Look}
    (h : s.AgreesBefore i info looks) (j : Nat) (calls : List (Call κ ω)) :
    (s.run calls).AgreesBefore i info (looks ++ s.looks i j calls) := by
  induction calls generalizing s looks with
  | nil => simpa [run, Site.looks] using h
  | cons call calls ih =>
    rw [run_cons, Site.looks, ← List.append_assoc]
    exact ih (agreesBefore_call h j call)

theorem agreesAfter_run {s : Site κ ω} {i j : Nat} {before after : CheckInfo} {looks : List Look}
    (hBefore : s.AgreesBefore i before looks) (h : s.AgreesAfter i j after looks)
    (calls : List (Call κ ω)) :
    (s.run calls).AgreesAfter i j after (looks ++ s.looks i j calls) := by
  induction calls generalizing s looks with
  | nil => simpa [run, Site.looks] using h
  | cons call calls ih =>
    rw [run_cons, Site.looks, ← List.append_assoc]
    exact ih (agreesBefore_call hBefore j call) (agreesAfter_call hBefore h call)

/-! ## What is seen at all -/

omit [Hosts κ ω] in
/-- A check before the test is seen exactly in the phases before the test, unless it is to be
skipped. -/
theorem exists_baseline_mem_looks_iff {s : Site κ ω} {i : Nat} {info : CheckInfo}
    (h : (s.controller.pre.map (·.info))[i]? = some info) (j : Nat) (calls : List (Call κ ω)) :
    (∃ answer, .baseline answer ∈ s.looks i j calls) ↔
      s.controller.capabilities.admits info = true ∧ .evaluatePre ∈ calls := by
  induction calls generalizing s with
  | nil => simp [looks]
  | cons call calls ih =>
    have hKeeps := s.keeps_call call
    have hRest := ih (Controller.getElem?_of_prefix hKeeps.pre_kept h)
    rw [hKeeps.capabilities_eq] at hRest
    -- this call looks exactly if it is a phase before the test that does not skip the check
    have hNow : (∃ answer, .baseline answer ∈ s.looksIn i j call) ↔
        s.controller.capabilities.admits info = true ∧ call = .evaluatePre := by
      rw [List.getElem?_map, Option.map_eq_some_iff] at h
      obtain ⟨check, hCheck, rfl⟩ := h
      cases call with
      | evaluatePre =>
        cases hAdmits : s.controller.capabilities.admits check.info <;>
          simp [looksIn, hCheck, Option.filter_some, hAdmits]
      | _ => simp [looksIn]
    simp only [looks, List.mem_append, exists_or, hNow, hRest, List.mem_cons, ← and_or_left,
      eq_comm]

omit [Hosts κ ω] in
/-- A check after the test is seen exactly in the phases after the test, unless it is to be
skipped. -/
theorem exists_comparison_mem_looks_iff {s : Site κ ω} {j : Nat} {info : CheckInfo}
    (h : (s.controller.post.map (·.check.info))[j]? = some info) (i : Nat)
    (calls : List (Call κ ω)) :
    (∃ answer, .comparison answer ∈ s.looks i j calls) ↔
      s.controller.capabilities.admits info = true ∧ .evaluatePost ∈ calls := by
  induction calls generalizing s with
  | nil => simp [looks]
  | cons call calls ih =>
    have hKeeps := s.keeps_call call
    have hPrefix := hKeeps.post_kept.map Prod.fst
    rw [List.map_map, List.map_map] at hPrefix
    have hRest := ih (Controller.getElem?_of_prefix hPrefix h)
    rw [hKeeps.capabilities_eq] at hRest
    -- this call looks exactly if it is a phase after the test that does not skip the check
    have hNow : (∃ answer, .comparison answer ∈ s.looksIn i j call) ↔
        s.controller.capabilities.admits info = true ∧ call = .evaluatePost := by
      rw [List.getElem?_map, Option.map_eq_some_iff] at h
      obtain ⟨p, hp, rfl⟩ := h
      cases call with
      | evaluatePost =>
        cases hAdmits : s.controller.capabilities.admits p.check.info <;>
          simp [looksIn, hp, Option.filter_some, hAdmits]
      | _ => simp [looksIn]
    simp only [looks, List.mem_append, exists_or, hNow, hRest, List.mem_cons, ← and_or_left,
      eq_comm]

omit [Hosts κ ω] in
/-- Nothing is seen of a check after the test before it is registered. -/
theorem comparison_notMem_looks {s : Site κ ω} {j : Nat} (i : Nat) (calls : List (Call κ ω))
    (hj : (s.run calls).controller.post.length ≤ j) (answer : Except Error Snapshot) :
    .comparison answer ∉ s.looks i j calls := by
  induction calls generalizing s with
  | nil => simp [looks]
  | cons call calls ih =>
    -- checks are never taken away, so the place has been empty from the start
    have hLength : s.controller.post.length ≤ j := by
      have hle := (s.keeps_run (call :: calls)).post_kept.length_le
      simp only [List.length_map] at hle
      omega
    have hNone : s.controller.post[j]? = none := List.getElem?_eq_none hLength
    have hNow : .comparison answer ∉ s.looksIn i j call := by
      cases call <;> simp [looksIn, hNone]
    rw [looks, List.mem_append]
    exact not_or.mpr ⟨hNow, ih hj⟩

/-! ## Registration -/

omit [Probe ω] [Hosts κ ω] in
theorem call_registerPre {s : Site κ ω} {check : Check κ}
    (hFree : ∀ other ∈ s.controller.pre, other.name ≠ check.name) :
    s.call (.registerPre check) =
      { s with controller := { s.controller with pre := s.controller.pre ++ [check] } } := by
  have hFree' : check.name ∉ s.controller.names := by
    simpa [Controller.names, eq_comm] using hFree
  simp only [call, Controller.registerPre_of_free hFree']

omit [Probe ω] [Hosts κ ω] in
theorem call_registerPost {s : Site κ ω} {check : Check κ} {preName : String} {i : Nat}
    (hName : preName ≠ "")
    (hFound : s.controller.pre.findIdx? (·.name == preName) = some i) :
    s.call (.registerPost check (some preName)) =
      { s with controller :=
        { s.controller with post := s.controller.post ++ [⟨check, some i⟩] } } := by
  have hKept : (some preName).filter (· ≠ "") = some preName := by simp [Option.filter_some, hName]
  simp only [call, Controller.registerPost, hKept, hFound]
  rfl

omit [Probe ω] [Hosts κ ω] in
/-- A name that was free when it was registered leads to the place at which it was registered. -/
theorem findIdx?_of_keeps {c c' : Controller κ} {check : Check κ}
    (hFree : ∀ other ∈ c.pre, other.name ≠ check.name)
    (hKeeps : ({ c with pre := c.pre ++ [check] } : Controller κ).Keeps c') :
    c'.pre.findIdx? (·.name == check.name) = some c.pre.length := by
  obtain ⟨rest, hRest⟩ := hKeeps.pre_kept
  -- the names, in the order of registration, with the new one behind names that are different
  have hNames : c'.pre.map (·.name) = c.pre.map (·.name) ++ check.name :: rest.map (·.name) := by
    have hMap := congrArg (List.map CheckInfo.name) hRest.symm
    simpa [Check.name, Function.comp_def] using hMap
  have hFind : (c'.pre.map (·.name)).findIdx? (· == check.name) = some c.pre.length := by
    have hNone : (c.pre.map (·.name)).findIdx? (· == check.name) = none := by
      simpa using hFree
    rw [hNames, List.findIdx?_append, hNone]
    simp [List.findIdx?_cons]
  rw [← hFind, List.findIdx?_map]
  rfl

/-- When the pair has been registered, both agree with what was seen, and nothing was seen of the
second. -/
theorem agrees_registered (s : Site κ ω) {P Q : CheckInfo} (hName : P.name ≠ "")
    (hFree : ∀ check ∈ s.controller.pre, check.name ≠ P.name) (between : List (Call κ ω)) :
    let earlier := .registerPre (baselineCheck ω P) :: between
    let registered := earlier ++ [.registerPost (comparisonCheck ω Q) (some P.name)]
    let i := s.controller.pre.length
    let j := (s.run earlier).controller.post.length
    (s.run registered).AgreesBefore i P (s.looks i j registered) ∧
      (s.run registered).AgreesAfter i j Q (s.looks i j registered) ∧
      ∀ answer, .comparison answer ∉ s.looks i j registered := by
  intro earlier registered i j
  -- the first check has been registered, and then the calls between
  let s₁ : Site κ ω :=
    { s with controller :=
      { s.controller with pre := s.controller.pre ++ [baselineCheck ω P] } }
  have hs₁ : s.call (.registerPre (baselineCheck ω P)) = s₁ := call_registerPre hFree
  have hPlace₁ : s₁.controller.pre[i]? = some (baselineCheck ω P) := by simp [s₁, i]
  have hFirst : s₁.AgreesBefore i P [] :=
    ⟨_, hPlace₁, rfl, rfl, Status.reports_of_iff (by simp [baselineCheck, Check.status])
      (by simp [baselineCheck, Check.status])⟩
  let s₂ := s₁.run between
  have hs₂ : s.run earlier = s₂ := by rw [run_cons, hs₁]
  have hBefore : s₂.AgreesBefore i P (s₁.looks i j between) := agreesBefore_run hFirst j between
  -- then the second check has been registered, paired with the first
  have hFound : s₂.controller.pre.findIdx? (·.name == P.name) = some i :=
    findIdx?_of_keeps hFree (s₁.keeps_run between)
  let s₃ : Site κ ω :=
    { s₂ with controller :=
      { s₂.controller with post := s₂.controller.post ++ [⟨comparisonCheck ω Q, some i⟩] } }
  have hs₃ : s₂.call (.registerPost (comparisonCheck ω Q) (some P.name)) = s₃ :=
    call_registerPost hName hFound
  have hRun : s.run registered = s₃ := by rw [run_append, hs₂, run_cons, hs₃]; rfl
  -- registrations look at nothing
  have hLooks : s.looks i j registered = s₁.looks i j between := by
    simp only [registered, earlier, looks_append, looks_cons, hs₁]
    simp [looksIn, looks]
  have hj : s₂.controller.post.length = j := by rw [← hs₂]
  have hPlace₃ : s₃.controller.post[j]? = some ⟨comparisonCheck ω Q, some i⟩ := by simp [s₃, ← hj]
  have hUnseen (answer : Except Error Snapshot) : .comparison answer ∉ s₁.looks i j between :=
    comparison_notMem_looks i between (Nat.le_of_eq hj) answer
  have hNo : ¬ HasLeak (s₁.looks i j between) := by
    rintro ⟨before, answer, after, hSplit, -⟩
    exact hUnseen answer (by simp [hSplit])
  rw [hRun, hLooks]
  refine ⟨hBefore, ⟨_, hPlace₃, rfl, rfl, ⟨none, rfl⟩, Status.reports_of_iff ?_ ?_⟩, hUnseen⟩
  · -- it is inconclusive, since it has compared nothing
    simpa [comparisonCheck, Check.status] using hUnseen
  · simpa [comparisonCheck, Check.status] using hNo

/-! ## The pair -/

/--
**A pair of snapshot checks finds leaks.** For every controller in every world,
with checks of any kind in it: if a check that takes a baseline is registered
under a name of its own that is not empty, and later a check that compares is
registered as paired with that name, then whatever is called before, between
and after, in any order, each is where it was registered, the later one paired
with the earlier one, and

1. the first is inconclusive until a phase before the test has carried it out;
   it has failed if some attempt to take the baseline failed, and passed
   otherwise;
2. the second is inconclusive until a phase after the test has carried it out;
   it has failed if in some such phase there was no baseline yet, or its own
   snapshot could not be taken, or it was not the baseline taken last, and
   passed otherwise;
3. if the first is always skipped and the second carried out, the second has
   failed.
-/
theorem leaks_are_found (s : Site κ ω) {P Q : CheckInfo} (hName : P.name ≠ "")
    (hFree : ∀ check ∈ s.controller.pre, check.name ≠ P.name) (between later : List (Call κ ω)) :
    let earlier := .registerPre (baselineCheck ω P) :: between
    let calls := earlier ++ .registerPost (comparisonCheck ω Q) (some P.name) :: later
    let i := s.controller.pre.length
    let j := (s.run earlier).controller.post.length
    let admits := s.controller.capabilities.admits
    ∃ before after, (s.run calls).controller.pre[i]? = some before ∧ before.info = P ∧
      (s.run calls).controller.post[j]? = some after ∧ after.check.info = Q ∧
      after.related = some i ∧
      before.status.Reports (admits P = true ∧ .evaluatePre ∈ calls)
        (∃ e, .baseline (.error e) ∈ s.looks i j calls) ∧
      after.check.status.Reports (admits Q = true ∧ .evaluatePost ∈ later)
        (HasLeak (s.looks i j calls)) ∧
      (admits P = false → admits Q = true → .evaluatePost ∈ later →
        after.check.status = .failed) := by
  intro earlier calls i j admits
  let registered := earlier ++ [.registerPost (comparisonCheck ω Q) (some P.name)]
  have hCalls : calls = registered ++ later := by simp [calls, registered]
  have hLooks : s.looks i j calls =
      s.looks i j registered ++ (s.run registered).looks i j later := by
    rw [hCalls, looks_append]
  have hAdmits : (s.run registered).controller.capabilities.admits = admits := by
    rw [(s.keeps_run registered).capabilities_eq]
  obtain ⟨hFirst, hSecond, hUnseen⟩ :
      (s.run registered).AgreesBefore i P (s.looks i j registered) ∧
        (s.run registered).AgreesAfter i j Q (s.looks i j registered) ∧
        ∀ answer, .comparison answer ∉ s.looks i j registered :=
    agrees_registered s hName hFree between
  -- the first is seen from its registration on, the second from its own on
  have hSeenP : (∃ answer, .baseline answer ∈ s.looks i j calls) ↔
      admits P = true ∧ .evaluatePre ∈ calls := by
    have hCall : s.call (.registerPre (baselineCheck ω P)) = _ := call_registerPre hFree
    have hPlace : ((s.call (.registerPre (baselineCheck ω P))).controller.pre.map
        (·.info))[i]? = some P := by
      rw [hCall]
      simp [i, baselineCheck]
    have hAdmits : (s.call (.registerPre (baselineCheck ω P))).controller.capabilities.admits =
        admits := by rw [hCall]
    simpa [calls, earlier, looks_cons, looksIn, hAdmits] using
      exists_baseline_mem_looks_iff hPlace j calls.tail
  have hSeenQ : (∃ answer, .comparison answer ∈ s.looks i j calls) ↔
      admits Q = true ∧ .evaluatePost ∈ later := by
    obtain ⟨p, hp, hInfo, -, -⟩ := hSecond
    have hPlace : ((s.run registered).controller.post.map (·.check.info))[j]? = some Q := by
      rw [List.getElem?_map, hp, Option.map_some, hInfo]
    rw [← hAdmits, ← exists_comparison_mem_looks_iff hPlace i later, hLooks]
    simp only [List.mem_append, hUnseen, false_or]
  -- from there on both checks agree with what is looked at
  obtain ⟨before, hPre, hP, -, hBefore⟩ := agreesBefore_run hFirst j later
  obtain ⟨after, hPost, hQ, hRelated, -, hAfter⟩ := agreesAfter_run hFirst hSecond later
  rw [← run_append, ← hCalls] at hPre hPost
  rw [← hLooks, hSeenP] at hBefore
  rw [← hLooks, hSeenQ] at hAfter
  refine ⟨before, after, hPre, hP, hPost, hQ, hRelated, hBefore, hAfter, ?_⟩
  -- a check that is always skipped never takes a baseline
  intro hP hQ hLater
  obtain ⟨-, hFault, -⟩ := hAfter
  obtain ⟨answer, hMem⟩ := hSeenQ.mpr ⟨hQ, hLater⟩
  obtain ⟨before, after, hSplit⟩ := List.append_of_mem hMem
  refine hFault.mpr ⟨before, answer, after, hSplit, .inl (lastBaseline_of_unseen ?_)⟩
  intro taken hTaken
  have := hSeenP.mp ⟨taken, by rw [hSplit]; exact List.mem_append_left _ hTaken⟩
  exact absurd this.1 (by simp [hP])

/-- A handle that is opened during the test is found, although the baseline could not be taken a
second time. -/
theorem opened_handle_is_found :
    let s : Site Rehearsal.Body Rehearsal.Stage := ⟨{}, ({} : Rehearsal.Stage).hold "node" ["a"]⟩
    let denied := Error.evaluationFailed "handles" "denied"
    let between := [.evaluatePre, .meanwhile ({ · with fault := some denied }), .evaluatePre,
      .meanwhile fun stage => ({ stage with fault := none }).hold "node" ["a", "b"]]
    let calls := .registerPre (baselineCheck Rehearsal.Stage { name := "handles" }) :: between ++
      .registerPost (comparisonCheck Rehearsal.Stage { name := "handles after" })
        (some "handles") :: [.evaluatePost]
    ∃ before after, (s.run calls).controller.pre[0]? = some before ∧ before.status = .failed ∧
      (s.run calls).controller.post[0]? = some after ∧ after.check.status = .failed := by
  intro s denied between calls
  let old : Snapshot := KeyMap.empty.insert "node" (TextSet.ofTexts ["a"])
  let new : Snapshot := old.insert "node" (TextSet.ofTexts ["a", "b"])
  -- what the calls look at, in order
  have hLooks : s.looks 0 0 calls =
      [.baseline (.ok old), .baseline (.error denied), .comparison (.ok new)] := rfl
  obtain ⟨before, after, hPre, -, hPost, -, -, ⟨-, hBefore, -⟩, ⟨-, hAfter, -⟩, -⟩ :=
    leaks_are_found s (P := { name := "handles" }) (Q := { name := "handles after" }) (by decide)
      (by simp [s]) between [.evaluatePost]
  have hError : .baseline (.error denied) ∈ s.looks 0 0 calls := by simp [hLooks]
  have hLeak : HasLeak (s.looks 0 0 calls) :=
    ⟨[.baseline (.ok old), .baseline (.error denied)], .ok new, [], hLooks,
      .inr (.inr ⟨old, new, rfl, rfl, by decide⟩)⟩
  exact ⟨before, after, hPre, hBefore.mpr ⟨denied, hError⟩, hPost, hAfter.mpr hLeak⟩

end Site

end StreamVerdict
