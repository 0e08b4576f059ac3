import StreamVerdict.Proofs.Controller.Phase

/-!
# Pairs

A check after the test is paired by name with one before it. The name is looked
up once, when the later check is registered, and from then on the pair is a
place among the checks before the test. That this place stays right needs two
things: no two of these checks have one name, and none of them ever leaves its
place. Whatever is called, in any order and whether it succeeds or not, both
are kept.

Main definitions:

* `Controller.WellPaired` — names are unique, and every pair is in range.

Main results:

* `Site.wellPaired_run` — any calls;
* `Site.pair_stays` / `Site.unpaired_stays` — a check after the test, from its
  registration on;
* `Site.pairs_are_resolved_once` — all of it, from the start.
-/

namespace StreamVerdict

variable {κ ω : Type}

namespace Controller

/-! ## What holds at all times -/

/-- No two checks before the test have one name, and each pair is a place among them. -/
structure WellPaired (c : Controller κ) : Prop where
  names_nodup : c.names.Nodup
  related_lt : ∀ p ∈ c.post, ∀ i, p.related = some i → i < c.pre.length

/-- A name stands in one place only. -/
theorem WellPaired.place_unique {c : Controller κ} (h : c.WellPaired) {i j : Nat}
    {check other : Check κ} (hi : c.pre[i]? = some check) (hj : c.pre[j]? = some other)
    (hName : other.name = check.name) : j = i := by
  have hi' : c.names[i]? = some check.name := by rw [names, List.getElem?_map, hi]; rfl
  have hj' : c.names[j]? = some check.name := by rw [names, List.getElem?_map, hj, ← hName]; rfl
  obtain ⟨hlt, -⟩ := List.getElem?_eq_some_iff.mp hj'
  exact (List.getElem?_inj hlt h.names_nodup).mp (hj'.trans hi'.symm)

/-- The checks of both phases may change, as long as names and pairs stay. -/
theorem WellPaired.of_eq {c c' : Controller κ} (h : c.WellPaired)
    (hPre : c'.pre.map (·.info) = c.pre.map (·.info))
    (hPost : c'.post.map (fun p => (p.check.info, p.related)) =
      c.post.map fun p => (p.check.info, p.related)) : c'.WellPaired := by
  have hNames : c'.names = c.names := by
    simpa [names, Check.name, Function.comp_def] using congrArg (List.map (·.name)) hPre
  have hLength : c'.pre.length = c.pre.length := by
    simpa using congrArg List.length hPre
  refine ⟨hNames ▸ h.names_nodup, fun p hp i hi => ?_⟩
  -- each pairing of the one is a pairing of the other
  have hMem : (p.check.info, p.related) ∈ c.post.map fun p => (p.check.info, p.related) :=
    hPost ▸ List.mem_map_of_mem hp
  obtain ⟨q, hq, hEq⟩ := List.mem_map.mp hMem
  rw [hLength]
  exact h.related_lt q hq i ((congrArg Prod.snd hEq).trans hi)

theorem WellPaired.registerPre {c c' : Controller κ} (h : c.WellPaired) {check : Check κ}
    (hc' : c.registerPre check = .ok c') : c'.WellPaired := by
  obtain ⟨hFree, rfl⟩ := registerPre_cases hc'
  refine ⟨?_, fun p hp i hi => ?_⟩
  · simpa [names] using h.names_nodup.concat hFree
  · exact Nat.lt_of_lt_of_le (h.related_lt p hp i hi) (by simp)

theorem WellPaired.concat_post {c : Controller κ} (h : c.WellPaired) {new : PostCheck κ}
    (hNew : ∀ i, new.related = some i → i < c.pre.length) :
    WellPaired { c with post := c.post ++ [new] } := by
  refine ⟨h.names_nodup, fun p hp => ?_⟩
  rcases List.mem_append.mp hp with hp | hp
  · exact h.related_lt p hp
  · exact List.mem_singleton.mp hp ▸ hNew

theorem WellPaired.registerPost {c c' : Controller κ} (h : c.WellPaired) {check : Check κ}
    {preName : Option String} (hc' : (c.registerPost check preName).value = .ok c') :
    c'.WellPaired := by
  obtain ⟨-, rfl⟩ | ⟨i, old, hOld, -, -, rfl⟩ := registerPost_cases hc'
  · exact h.concat_post nofun
  · exact h.concat_post fun j hj => by
      cases hj
      exact (List.getElem?_eq_some_iff.mp hOld).1

end Controller

namespace Site

open Controller (Call)

variable [Examiner κ ω]

theorem wellPaired_call {s : Site κ ω} (h : s.controller.WellPaired) (call : Call κ ω) :
    (s.call call).controller.WellPaired := by
  cases call with
  | registerPre check =>
    obtain hCall | ⟨hAccepted, hCall⟩ := s.call_registerPre_cases check
    · -- refused
      rwa [hCall]
    · -- accepted: its name is new
      rw [hCall]
      exact h.registerPre hAccepted
  | registerPost check preName =>
    obtain hCall | ⟨related, hAccepted, hCall⟩ := s.call_registerPost_cases check preName
    · -- refused
      rwa [hCall]
    · -- accepted: the check that it refers to is there
      rw [hCall]
      exact h.registerPost hAccepted
  | registerListener l => exact ⟨h.names_nodup, h.related_lt⟩
  | evaluatePre => exact h.of_eq (s.controller.info_evaluatePre s.world) rfl
  | evaluatePost => exact h.of_eq rfl (s.controller.info_evaluatePost s.world)
  | meanwhile change => exact h

theorem wellPaired_run {s : Site κ ω} (h : s.controller.WellPaired) (calls : List (Call κ ω)) :
    (s.run calls).controller.WellPaired := by
  induction calls generalizing s with
  | nil => exact h
  | cons call calls ih => exact ih (wellPaired_call h call)

/-! ## From the registration on -/

/-- A check that is registered after the test stays at its place, and so does its pair. -/
theorem registered_run {s : Site κ ω} {check : Check κ} {preName : Option String}
    {related : Option Nat} (hAccepted : (s.controller.registerPost check preName).value =
      .ok { s.controller with post := s.controller.post ++ [⟨check, related⟩] })
    (later : List (Call κ ω)) :
    let now := (s.run (.registerPost check preName :: later)).controller
    s.controller.pre.map (·.info) <+: now.pre.map (·.info) ∧
      ∃ p, now.post[s.controller.post.length]? = some p ∧ p.check.info = check.info ∧
        p.related = related := by
  intro now
  let registered : Site κ ω :=
    { s with controller.post := s.controller.post ++ [⟨check, related⟩] }
  have hCall : s.call (.registerPost check preName) = registered := by
    simp [Site.call, hAccepted, registered]
  -- whatever is called later keeps what has been registered
  have hKeeps : registered.controller.Keeps now := by
    show registered.controller.Keeps (s.run _).controller
    rw [run_cons, hCall]
    exact registered.keeps_run later
  refine ⟨hKeeps.pre_kept, ?_⟩
  have hPlace : (now.post.map fun p => (p.check.info, p.related))[s.controller.post.length]? =
      some (check.info, related) :=
    Controller.getElem?_of_prefix hKeeps.post_kept (by simp [registered])
  rw [List.getElem?_map] at hPlace
  obtain ⟨p, hp, hEq⟩ := Option.map_eq_some_iff.mp hPlace
  exact ⟨p, hp, congrArg Prod.fst hEq, congrArg Prod.snd hEq⟩

/-- A check that is accepted with a name is given the one check of that name, as it is by then. -/
theorem pair_stays {s : Site κ ω} (hs : s.controller.WellPaired) {check : Check κ} {name : String}
    (hName : name ≠ "") {accepted : Controller κ}
    (hAccepted : (s.controller.registerPost check (some name)).value = .ok accepted)
    (later : List (Call κ ω)) :
    let now := (s.run (.registerPost check (some name) :: later)).controller
    let place := s.controller.post.length
    ∃ p i old current, now.post[place]? = some p ∧ p.check.info = check.info ∧
      p.related = some i ∧ s.controller.pre[i]? = some old ∧ old.name = name ∧
      now.pre[i]? = some current ∧ current.info = old.info ∧
      (∀ j other, now.pre[j]? = some other → other.name = name → j = i) ∧
      (now.jobs .post)[place]? = some (p.check, some current) := by
  intro now place
  obtain ⟨hUnnamed, -⟩ | ⟨i, old, hOld, -, hOld', rfl⟩ := Controller.registerPost_cases hAccepted
  · -- the name is not empty, so the check is paired
    simp [hName] at hUnnamed
  · cases hOld'
    obtain ⟨hPre, p, hp, hInfo, hRelated⟩ := registered_run hAccepted later
    -- the check that it refers to has kept its place
    have hCurrent : (now.pre.map (·.info))[i]? = some old.info :=
      Controller.getElem?_of_prefix hPre (by rw [List.getElem?_map, hOld]; rfl)
    rw [List.getElem?_map] at hCurrent
    obtain ⟨current, hCurrent, hInfo'⟩ := Option.map_eq_some_iff.mp hCurrent
    have hNow : now.WellPaired := wellPaired_run hs _
    refine ⟨p, i, old, current, hp, hInfo, hRelated, hOld, rfl, hCurrent, hInfo',
      fun j other hOther hEq => hNow.place_unique hCurrent hOther ?_, ?_⟩
    · -- no other check has this name
      exact hEq.trans (congrArg CheckInfo.name hInfo').symm
    · -- what the check is handed is the one at that place, as it is now
      rw [Controller.jobs, List.getElem?_map, hp]
      simp [Controller.relatedCheck, hRelated, hCurrent, now]

/-- A check that is registered without a name is given none. -/
theorem unpaired_stays (s : Site κ ω) (check : Check κ) {preName : Option String}
    (hName : preName = none ∨ preName = some "") (later : List (Call κ ω)) :
    let now := (s.run (.registerPost check preName :: later)).controller
    let place := s.controller.post.length
    ∃ p, now.post[place]? = some p ∧ p.check.info = check.info ∧ p.related = none ∧
      (now.jobs .post)[place]? = some (p.check, none) := by
  intro now place
  obtain ⟨-, p, hp, hInfo, hRelated⟩ :=
    registered_run (s.controller.registerPost_of_unnamed check hName) later
  refine ⟨p, hp, hInfo, hRelated, ?_⟩
  rw [Controller.jobs, List.getElem?_map, hp]
  simp [Controller.relatedCheck, hRelated]

/--
**Pairs are resolved once and stay right.** A controller with no checks in it is
given any calls: registrations, phases, and whatever else happens to its world,
in any order. Then

1. no two checks before the test have one name, and every pair is a place among
   them;
2. a check before the test with a name that is taken is refused, and so is a
   check after the test with a name that nobody has; neither changes anything;
3. a check that was once accepted with a name is where it was registered, and is
   given the one check of that name, found at the same place as then, in its
   state of now;
4. a check that was accepted without a name, or with an empty one, is given none;
5. a phase after the test hands the checks that it carries out what 3 and 4 say.
-/
theorem pairs_are_resolved_once (capabilities : Capabilities) (listeners : List Listener)
    (hasStop : Bool) (world : ω) (calls : List (Call κ ω)) :
    let start : Site κ ω := ⟨{ capabilities, listeners, hasStop }, world⟩
    let now := start.run calls
    let c := now.controller
    c.names.Nodup ∧
    (∀ p ∈ c.post, ∀ i, p.related = some i → i < c.pre.length) ∧
    (∀ check, check.name ∈ c.names →
      c.registerPre check = .error (.duplicateCondition check.name) ∧
      now.call (.registerPre check) = now) ∧
    (∀ check name, name ≠ "" → name ∉ c.names →
      (c.registerPost check (some name)).value = .error (.unresolvedPreCondition name) ∧
      now.call (.registerPost check (some name)) = now) ∧
    (∀ earlier check name later accepted,
      calls = earlier ++ .registerPost check (some name) :: later → name ≠ "" →
      ((start.run earlier).controller.registerPost check (some name)).value = .ok accepted →
      let before := (start.run earlier).controller
      let place := before.post.length
      ∃ p i old current, c.post[place]? = some p ∧ p.check.info = check.info ∧
        p.related = some i ∧ before.pre[i]? = some old ∧ old.name = name ∧
        c.pre[i]? = some current ∧ current.info = old.info ∧
        (∀ j other, c.pre[j]? = some other → other.name = name → j = i) ∧
        (c.jobs .post)[place]? = some (p.check, some current)) ∧
    (∀ earlier check preName later,
      calls = earlier ++ .registerPost check preName :: later →
      preName = none ∨ preName = some "" →
      let place := (start.run earlier).controller.post.length
      ∃ p, c.post[place]? = some p ∧ p.check.info = check.info ∧ p.related = none ∧
        (c.jobs .post)[place]? = some (p.check, none)) ∧
    (c.visits now.world .post).map (fun v => (v.check, v.related)) =
      (c.jobs .post).filter (fun job => c.capabilities.admits job.1.info) := by
  intro start now c
  have hStart : start.controller.WellPaired := ⟨List.nodup_nil, nofun⟩
  have hNow : c.WellPaired := wellPaired_run hStart calls
  refine ⟨hNow.names_nodup, hNow.related_lt, fun check hTaken => ?_,
    fun check name hName hUnknown => ?_, ?_, ?_, c.map_visits now.world .post⟩
  · -- a name that is taken
    have hRefused := Controller.registerPre_of_taken hTaken
    exact ⟨hRefused, by simp [Site.call, c, hRefused]⟩
  · -- a name that is not known
    have hRefused := Controller.registerPost_of_unknown check hName hUnknown
    exact ⟨hRefused, by simp [Site.call, c, hRefused]⟩
  · -- a registration with a name, followed through the rest of the calls
    intro earlier check name later accepted hCalls hName hAccepted
    have hRun : now = (start.run earlier).run (.registerPost check (some name) :: later) := by
      rw [← run_append, ← hCalls]
    simpa only [c, hRun] using pair_stays (wellPaired_run hStart earlier) hName hAccepted later
  · -- and one without
    intro earlier check preName later hCalls hName
    have hRun : now = (start.run earlier).run (.registerPost check preName :: later) := by
      rw [← run_append, ← hCalls]
    simpa only [c, hRun] using (start.run earlier).unpaired_stays check hName later

end Site

end StreamVerdict
