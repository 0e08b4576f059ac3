import Mathlib.Data.List.Basic
import StreamVerdict.Controller

/-!
# Calls on a controller

Checks are registered, and the two phases are gone through, in any order and
as often as one likes. A check that is registered stays at its place, under
its name and with the one that it is paired with, whatever is called later.
What a phase does to the check at a place depends on that check and on the
world that the checks before it leave behind.

Main definitions:

* `Controller.names` — the names that a check after the test can refer to;
* `Controller.turn` — what a phase does to one check;
* `Controller.Call`, `Site.run` — calls on a controller in its world;
* `Controller.Keeps` — what no call changes.

Main results:

* `Controller.getElem?_evaluatePre` / `Controller.getElem?_evaluatePost` — a
  phase, place by place;
* `Controller.registerPre_cases` / `Controller.registerPost_cases` — a
  registration that is accepted;
* `Site.keeps_run` — what stays over any calls.
-/

namespace StreamVerdict

variable {κ ω : Type} [Examiner κ ω]

theorem Check.info_carryOut (check : Check κ) (related : Option (Check κ)) (world : ω) :
    (check.carryOut related world).value.1.info = check.info := by
  unfold carryOut
  dsimp only
  split <;> rfl

namespace Controller

/-! ## Turns -/

/-- A check after its turn in a phase: carried out, or left as it is if it is to be skipped. -/
def turn (c : Controller κ) (check : Check κ) (related : Option (Check κ)) (world : ω) :
    Check κ :=
  if c.capabilities.admits check.info then (check.carryOut related world).value.1 else check

@[simp] theorem info_turn (c : Controller κ) (check : Check κ) (related : Option (Check κ))
    (world : ω) : (c.turn check related world).info = check.info := by
  unfold turn
  split
  · exact check.info_carryOut related world
  · rfl

theorem advance_value (c : Controller κ) (check : Check κ) (related : Option (Check κ))
    (p : Progress ω) : (c.advance check related p).value.1 = c.turn check related p.world := by
  unfold advance turn
  cases c.capabilities.admits check.info <;> rfl

/-- The world when the check at a place of a phase has its turn. -/
def worldAt (c : Controller κ) (jobs : List (Check κ × Option (Check κ))) (place : Nat)
    (p : Progress ω) : ω :=
  (c.advanceAll (jobs.take place) p).value.2.world

/-- In a phase the check at a place has one turn, in the world that those before it leave. -/
theorem getElem?_advanceAll (c : Controller κ) (jobs : List (Check κ × Option (Check κ)))
    (p : Progress ω) (place : Nat) :
    (c.advanceAll jobs p).value.1[place]? =
      jobs[place]?.map fun job => c.turn job.1 job.2 (c.worldAt jobs place p) := by
  induction jobs generalizing p place with
  | nil => rfl
  | cons job jobs ih =>
    cases place with
    | zero => exact congrArg some (c.advance_value job.1 job.2 p)
    | succ place => exact ih (c.advance job.1 job.2 p).value.2 place

/-! ## Phases -/

/-- The world when the check at a place has its turn before the test. -/
def worldBefore (c : Controller κ) (place : Nat) (world : ω) : ω :=
  c.worldAt (c.pre.map fun check => (check, none)) place { world }

/-- The world when the check at a place has its turn after the test. -/
def worldAfter (c : Controller κ) (place : Nat) (world : ω) : ω :=
  c.worldAt (c.post.map fun p => (p.check, c.relatedCheck p)) place { world }

theorem getElem?_evaluatePre (c : Controller κ) (world : ω) (place : Nat) :
    (c.evaluatePre world).value.1.pre[place]? =
      c.pre[place]?.map fun check => c.turn check none (c.worldBefore place world) := by
  show (c.advanceAll _ { world }).value.1[place]? = _
  rw [getElem?_advanceAll, List.getElem?_map, Option.map_map]
  rfl

theorem getElem?_evaluatePost (c : Controller κ) (world : ω) (place : Nat) :
    (c.evaluatePost world).value.1.post[place]? = c.post[place]?.map fun p =>
      { p with check := c.turn p.check (c.relatedCheck p) (c.worldAfter place world) } := by
  show (c.post.zipWith _ (c.advanceAll _ { world }).value.1)[place]? = _
  rw [List.getElem?_zipWith, getElem?_advanceAll, List.getElem?_map]
  cases c.post[place]? <;> rfl

/-! ## Registration -/

/-- The names of the checks before the test. -/
def names (c : Controller κ) : List String :=
  c.pre.map (·.name)

theorem any_name_iff (c : Controller κ) (name : String) :
    c.pre.any (·.name == name) = true ↔ name ∈ c.names := by
  simp [names]

theorem registerPre_of_taken {c : Controller κ} {check : Check κ} (h : check.name ∈ c.names) :
    c.registerPre check = .error (.duplicateCondition check.name) := by
  rw [registerPre, if_pos ((c.any_name_iff _).mpr h)]

theorem registerPre_of_free {c : Controller κ} {check : Check κ} (h : check.name ∉ c.names) :
    c.registerPre check = .ok { c with pre := c.pre ++ [check] } := by
  rw [registerPre, if_neg (h ∘ (c.any_name_iff _).mp)]

/-- A check before the test is accepted if its name is free. -/
theorem registerPre_cases {c c' : Controller κ} {check : Check κ}
    (h : c.registerPre check = .ok c') :
    check.name ∉ c.names ∧ c' = { c with pre := c.pre ++ [check] } := by
  by_cases hTaken : check.name ∈ c.names
  · rw [registerPre_of_taken hTaken] at h
    cases h
  · rw [registerPre_of_free hTaken] at h
    exact ⟨hTaken, (Except.ok.inj h).symm⟩

theorem registerPost_of_unnamed (c : Controller κ) (check : Check κ) {preName : Option String}
    (h : preName = none ∨ preName = some "") :
    (c.registerPost check preName).value = .ok { c with post := c.post ++ [⟨check, none⟩] } := by
  rcases h with rfl | rfl <;> rfl

theorem registerPost_of_unknown {c : Controller κ} (check : Check κ) {name : String}
    (hName : name ≠ "") (h : name ∉ c.names) :
    (c.registerPost check (some name)).value = .error (.unresolvedPreCondition name) := by
  have hFind : c.pre.findIdx? (·.name == name) = none := by
    rw [← Option.not_isSome_iff_eq_none, List.findIdx?_isSome, any_name_iff]
    exact h
  simp [registerPost, Option.filter, hName, hFind]

/-- A name that is known is resolved to a place where it stands. -/
theorem registerPost_of_known {c : Controller κ} (check : Check κ) {name : String}
    (hName : name ≠ "") (h : name ∈ c.names) :
    ∃ i old, c.pre[i]? = some old ∧ old.name = name ∧
      (c.registerPost check (some name)).value =
        .ok { c with post := c.post ++ [⟨check, some i⟩] } := by
  rw [← any_name_iff, ← List.findIdx?_isSome] at h
  obtain ⟨i, hFind⟩ := Option.isSome_iff_exists.mp h
  obtain ⟨hi, hOld, -⟩ := List.findIdx?_eq_some_iff_getElem.mp hFind
  refine ⟨i, c.pre[i], List.getElem?_eq_getElem hi, by simpa using hOld, ?_⟩
  simp [registerPost, Option.filter, hName, hFind]

/-- A check after the test is accepted without a name, or with the name of a check that it is then
paired with. -/
theorem registerPost_cases {c c' : Controller κ} {check : Check κ} {preName : Option String}
    (h : (c.registerPost check preName).value = .ok c') :
    ((preName = none ∨ preName = some "") ∧
      c' = { c with post := c.post ++ [⟨check, none⟩] }) ∨
    ∃ i old, c.pre[i]? = some old ∧ old.name ≠ "" ∧ preName = some old.name ∧
      c' = { c with post := c.post ++ [⟨check, some i⟩] } := by
  by_cases hNone : preName = none ∨ preName = some ""
  · -- no name, or an empty one: the check stands alone
    rw [registerPost_of_unnamed c check hNone] at h
    exact .inl ⟨hNone, (Except.ok.inj h).symm⟩
  · obtain ⟨name, rfl, hName⟩ : ∃ name, preName = some name ∧ name ≠ "" := by
      cases preName with
      | none => exact absurd (.inl rfl) hNone
      | some name => exact ⟨name, rfl, fun hEmpty => hNone (.inr (congrArg some hEmpty))⟩
    by_cases hKnown : name ∈ c.names
    · -- a known name: paired with the first check of that name
      obtain ⟨i, old, hOld, rfl, hValue⟩ := registerPost_of_known check hName hKnown
      exact .inr ⟨i, old, hOld, hName, rfl, (Except.ok.inj (hValue.symm.trans h)).symm⟩
    · -- an unknown name is an error
      rw [registerPost_of_unknown check hName hKnown] at h
      cases h

/-! ## What stays -/

/-- What stands at a place of a list stands there in every longer one. -/
theorem getElem?_of_prefix {α : Type} {xs ys : List α} (h : xs <+: ys) {place : Nat} {x : α}
    (hx : xs[place]? = some x) : ys[place]? = some x := by
  obtain ⟨hPlace, rfl⟩ := List.getElem?_eq_some_iff.mp hx
  exact List.prefix_iff_getElem?.mp h place hPlace

/-- What no call changes: the capabilities, and the checks that are registered, each at its place,
with its name and requirements, and with the place of the one that it is paired with. -/
structure Keeps (c c' : Controller κ) : Prop where
  capabilities_eq : c'.capabilities = c.capabilities
  pre_kept : c.pre.map (·.info) <+: c'.pre.map (·.info)
  post_kept :
    c.post.map (fun p => (p.check.info, p.related)) <+:
      c'.post.map fun p => (p.check.info, p.related)

theorem Keeps.refl (c : Controller κ) : c.Keeps c :=
  ⟨rfl, List.prefix_rfl, List.prefix_rfl⟩

theorem Keeps.trans {c c' c'' : Controller κ} (h : c.Keeps c') (h' : c'.Keeps c'') :
    c.Keeps c'' :=
  ⟨h'.capabilities_eq.trans h.capabilities_eq, h.pre_kept.trans h'.pre_kept,
    h.post_kept.trans h'.post_kept⟩

theorem keeps_registerPre {c c' : Controller κ} {check : Check κ}
    (h : c.registerPre check = .ok c') : c.Keeps c' := by
  obtain ⟨-, rfl⟩ := registerPre_cases h
  exact ⟨rfl, by simp, List.prefix_rfl⟩

theorem keeps_registerPost {c c' : Controller κ} {check : Check κ} {preName : Option String}
    (h : (c.registerPost check preName).value = .ok c') : c.Keeps c' := by
  obtain ⟨-, rfl⟩ | ⟨i, old, -, -, -, rfl⟩ := registerPost_cases h
  · exact ⟨rfl, List.prefix_rfl, by simp⟩
  · exact ⟨rfl, List.prefix_rfl, by simp⟩

theorem info_evaluatePre (c : Controller κ) (world : ω) :
    (c.evaluatePre world).value.1.pre.map (·.info) = c.pre.map (·.info) := by
  refine List.ext_getElem? fun place => ?_
  rw [List.getElem?_map, getElem?_evaluatePre, List.getElem?_map, Option.map_map]
  cases c.pre[place]? <;> simp

theorem info_evaluatePost (c : Controller κ) (world : ω) :
    (c.evaluatePost world).value.1.post.map (fun p => (p.check.info, p.related)) =
      c.post.map fun p => (p.check.info, p.related) := by
  refine List.ext_getElem? fun place => ?_
  rw [List.getElem?_map, getElem?_evaluatePost, List.getElem?_map, Option.map_map]
  cases c.post[place]? <;> simp

theorem keeps_evaluatePre (c : Controller κ) (world : ω) :
    c.Keeps (c.evaluatePre world).value.1 :=
  ⟨rfl, c.info_evaluatePre world ▸ List.prefix_rfl, List.prefix_rfl⟩

theorem keeps_evaluatePost (c : Controller κ) (world : ω) :
    c.Keeps (c.evaluatePost world).value.1 :=
  ⟨rfl, List.prefix_rfl, c.info_evaluatePost world ▸ List.prefix_rfl⟩

/-! ## Calls -/

/-- What may happen to a controller and its world: a registration, a phase, or something that has
to do with the world alone. -/
inductive Call (κ ω : Type) where
  | registerPre (check : Check κ)
  | registerPost (check : Check κ) (preName : Option String)
  | registerListener (l : Listener)
  | evaluatePre
  | evaluatePost
  | meanwhile (change : ω → ω)

end Controller

/-- A controller and the world that its checks look at. -/
structure Site (κ ω : Type) where
  controller : Controller κ
  world : ω

namespace Site

open Controller (Call)

/-- The site after a call. A registration that fails changes nothing. -/
def call (s : Site κ ω) : Call κ ω → Site κ ω
  | .registerPre check =>
    match s.controller.registerPre check with
    | .ok controller => { s with controller }
    | .error _ => s
  | .registerPost check preName =>
    match (s.controller.registerPost check preName).value with
    | .ok controller => { s with controller }
    | .error _ => s
  | .registerListener l => { s with controller := s.controller.registerListener l }
  | .evaluatePre =>
    let after := (s.controller.evaluatePre s.world).value
    ⟨after.1, after.2.world⟩
  | .evaluatePost =>
    let after := (s.controller.evaluatePost s.world).value
    ⟨after.1, after.2.world⟩
  | .meanwhile change => { s with world := change s.world }

/-- The site after calls. -/
def run (s : Site κ ω) (calls : List (Call κ ω)) : Site κ ω :=
  calls.foldl call s

theorem run_cons (s : Site κ ω) (call : Call κ ω) (calls : List (Call κ ω)) :
    s.run (call :: calls) = (s.call call).run calls := rfl

theorem run_append (s : Site κ ω) (calls more : List (Call κ ω)) :
    s.run (calls ++ more) = (s.run calls).run more :=
  List.foldl_append

/-- A registration before the test adds the check, or is refused and changes nothing. -/
theorem call_registerPre_cases (s : Site κ ω) (check : Check κ) :
    s.call (.registerPre check) = s ∨
      s.controller.registerPre check =
          .ok { s.controller with pre := s.controller.pre ++ [check] } ∧
        s.call (.registerPre check) = { s with controller.pre := s.controller.pre ++ [check] } := by
  simp only [Site.call]
  cases h : s.controller.registerPre check with
  | error e => exact .inl rfl
  | ok c =>
    obtain ⟨-, rfl⟩ := Controller.registerPre_cases h
    exact .inr ⟨rfl, rfl⟩

/-- A registration after the test adds the check, or is refused and changes nothing. -/
theorem call_registerPost_cases (s : Site κ ω) (check : Check κ) (preName : Option String) :
    s.call (.registerPost check preName) = s ∨ ∃ related,
      (s.controller.registerPost check preName).value =
          .ok { s.controller with post := s.controller.post ++ [⟨check, related⟩] } ∧
        s.call (.registerPost check preName) =
          { s with controller.post := s.controller.post ++ [⟨check, related⟩] } := by
  simp only [Site.call]
  cases h : (s.controller.registerPost check preName).value with
  | error e => exact .inl rfl
  | ok c =>
    obtain ⟨-, rfl⟩ | ⟨i, old, -, -, -, rfl⟩ := Controller.registerPost_cases h
    · exact .inr ⟨none, rfl, rfl⟩
    · exact .inr ⟨some i, rfl, rfl⟩

/-- Only the phase before the test changes the checks before it that are there. -/
theorem pre_prefix_call (s : Site κ ω) {call : Call κ ω} (hCall : call ≠ .evaluatePre) :
    s.controller.pre <+: (s.call call).controller.pre := by
  cases call with
  | registerPre check =>
    obtain h | ⟨-, h⟩ := s.call_registerPre_cases check
    · -- refused: nothing changes
      exact h.symm ▸ List.prefix_rfl
    · -- accepted: the new check is the last one
      exact h.symm ▸ List.prefix_append _ _
  | registerPost check preName =>
    obtain h | ⟨related, -, h⟩ := s.call_registerPost_cases check preName
    · -- a check after the test, refused or not, leaves those before it alone
      exact h.symm ▸ List.prefix_rfl
    · exact h.symm ▸ List.prefix_rfl
  | registerListener l => exact List.prefix_rfl
  | evaluatePre => exact absurd rfl hCall
  | evaluatePost => exact List.prefix_rfl
  | meanwhile change => exact List.prefix_rfl

/-- Only the phase after the test changes the checks after it that are there. -/
theorem post_prefix_call (s : Site κ ω) {call : Call κ ω} (hCall : call ≠ .evaluatePost) :
    s.controller.post <+: (s.call call).controller.post := by
  cases call with
  | registerPre check =>
    obtain h | ⟨-, h⟩ := s.call_registerPre_cases check
    · -- a check before the test, refused or not, leaves those after it alone
      exact h.symm ▸ List.prefix_rfl
    · exact h.symm ▸ List.prefix_rfl
  | registerPost check preName =>
    obtain h | ⟨related, -, h⟩ := s.call_registerPost_cases check preName
    · -- refused: nothing changes
      exact h.symm ▸ List.prefix_rfl
    · -- accepted: the new check is the last one
      exact h.symm ▸ List.prefix_append _ _
  | registerListener l => exact List.prefix_rfl
  | evaluatePre => exact List.prefix_rfl
  | evaluatePost => exact absurd rfl hCall
  | meanwhile change => exact List.prefix_rfl

theorem keeps_call (s : Site κ ω) (call : Call κ ω) :
    s.controller.Keeps (s.call call).controller := by
  cases call with
  | registerPre check =>
    obtain h | ⟨hAccepted, h⟩ := s.call_registerPre_cases check
    · -- refused
      rw [h]
      exact .refl _
    · -- accepted
      rw [h]
      exact Controller.keeps_registerPre hAccepted
  | registerPost check preName =>
    -- refused
    obtain h | ⟨related, hAccepted, h⟩ := s.call_registerPost_cases check preName
    · rw [h]
      exact .refl _
    · -- accepted
      rw [h]
      exact Controller.keeps_registerPost hAccepted
  | registerListener l => exact ⟨rfl, List.prefix_rfl, List.prefix_rfl⟩
  | evaluatePre => exact s.controller.keeps_evaluatePre s.world
  | evaluatePost => exact s.controller.keeps_evaluatePost s.world
  | meanwhile change => exact .refl _

theorem keeps_run (s : Site κ ω) (calls : List (Call κ ω)) :
    s.controller.Keeps (s.run calls).controller := by
  induction calls generalizing s with
  | nil => exact .refl _
  | cons call calls ih => exact (s.keeps_call call).trans (ih (s.call call))

end Site

end StreamVerdict
