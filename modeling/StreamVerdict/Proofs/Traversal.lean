import Mathlib.Data.List.Perm.Basic
import Mathlib.Data.List.TakeWhile

/-!
# Building one thing after the other

What a plan declares is built entry by entry, and the first error decides.
If there is none, every entry has been built by itself, so the order of the
entries decides only the order of what is built.

Main results:

* `bind_eq_ok_iff` — a build that succeeds has succeeded in both of its steps;
* `mapM_eq_ok_iff` — a list that is built, entry by entry;
* `mapM_eq_some_iff` — a list that is read, entry by entry;
* `exists_mapM_of_perm` — a list built in another order;
* `forall₂_filterMap` — what is reported of a list that was built;
* `takeWhile_append_of_mem` — a list that has been cut at its first entry of
  some kind, and more entries after it.
-/

namespace StreamVerdict.Traversal

variable {ε α β : Type}

/-- A build that succeeds has succeeded in both of its steps. -/
theorem bind_eq_ok_iff {x : Except ε α} {f : α → Except ε β} {b : β} :
    (x >>= f) = .ok b ↔ ∃ a, x = .ok a ∧ f a = .ok b := by
  cases x with
  | error err => simp [bind, Except.bind]
  | ok a => simp [bind, Except.bind]

/-- A build that is seen to succeed has built something. -/
theorem exists_of_isOk {x : Except ε α} (h : x.isOk = true) : ∃ a, x = .ok a := by
  cases x with
  | error err => cases h
  | ok a => exact ⟨a, rfl⟩

/-- What is seen of the outcome of a build is seen of something that was built. -/
theorem exists_of_map_toOption {x : Except ε α} {f : α → β} {b : β}
    (h : x.toOption.map f = some b) : ∃ a, x = .ok a ∧ f a = b := by
  cases x with
  | error err => cases h
  | ok a => exact ⟨a, rfl, Option.some.inj h⟩

/-- A list that is built is the list of its entries, built. -/
theorem mapM_eq_ok_iff {f : α → Except ε β} {xs : List α} {ys : List β} :
    xs.mapM f = .ok ys ↔ List.Forall₂ (fun x y => f x = .ok y) xs ys := by
  induction xs generalizing ys with
  | nil => cases ys <;> simp [pure, Except.pure]
  | cons x xs ih =>
    -- the first entry is built first, and then the rest of the list
    simp only [List.mapM_cons, bind_eq_ok_iff]
    constructor
    · rintro ⟨y, hy, zs, hzs, hys⟩
      cases hys
      exact .cons hy (ih.mp hzs)
    · intro h
      cases h with
      | cons hy hzs => exact ⟨_, hy, _, ih.mpr hzs, rfl⟩

/-- Entries that are built into the same, or fail in the same way, make up the same list. -/
theorem mapM_congr_of_forall₂ {f : α → Except ε β} {xs ys : List α}
    (h : List.Forall₂ (fun x y => f x = f y) xs ys) : xs.mapM f = ys.mapM f := by
  induction h with
  | nil => rfl
  | cons hxy _ ih => rw [List.mapM_cons, List.mapM_cons, hxy, ih]

/-- A list that is read, entry by entry. -/
theorem mapM_eq_some_iff {f : α → Option β} {xs : List α} {ys : List β} :
    xs.mapM f = some ys ↔ List.Forall₂ (fun x y => f x = some y) xs ys := by
  induction xs generalizing ys with
  | nil => cases ys <;> simp
  | cons x xs ih =>
    simp only [List.mapM_cons, Option.bind_eq_bind, Option.bind_eq_some_iff, ih]
    constructor
    · rintro ⟨y, hy, zs, hzs, hys⟩
      cases hys
      exact .cons hy hzs
    · rintro (_ | ⟨hy, hzs⟩)
      exact ⟨_, hy, _, hzs, rfl⟩

/-- A list can be read if every entry can. -/
theorem isSome_mapM_iff {f : α → Option β} {xs : List α} :
    (xs.mapM f).isSome ↔ ∀ x ∈ xs, (f x).isSome := by
  induction xs with
  | nil => simp
  | cons x xs ih =>
    rw [List.mapM_cons, List.forall_mem_cons, ← ih]
    cases f x with
    | none => simp
    | some y => cases xs.mapM f <;> simp

/-- In another order the same entries are built. -/
theorem exists_mapM_of_perm {f : α → Except ε β} {xs xs' : List α} {ys : List β}
    (hp : xs'.Perm xs) (h : xs.mapM f = .ok ys) : ∃ ys', xs'.mapM f = .ok ys' ∧ ys'.Perm ys := by
  obtain ⟨ys', hys', hPerm⟩ := List.perm_comp_forall₂ hp (mapM_eq_ok_iff.mp h)
  exact ⟨ys', mapM_eq_ok_iff.mpr hys', hPerm⟩

/-- What is built is built from some entry. -/
theorem exists_of_mem_built {f : α → Except ε β} {xs : List α} {ys : List β} {y : β}
    (h : xs.mapM f = .ok ys) (hy : y ∈ ys) : ∃ x ∈ xs, f x = .ok y := by
  have hBuilt := mapM_eq_ok_iff.mp h
  clear h
  induction hBuilt with
  | nil => cases hy
  | @cons x y' xs ys hx _ ih =>
    rcases List.mem_cons.mp hy with rfl | hRest
    · exact ⟨x, List.mem_cons_self, hx⟩
    · obtain ⟨x', hx', hBuilt⟩ := ih hRest
      exact ⟨x', List.mem_cons_of_mem _ hx', hBuilt⟩

/-- In lists that belong together entry by entry, a condition on all entries of the one can be a
condition on all entries of the other. -/
theorem forall_mem_iff_of_forall₂ {R : α → β → Prop} {P : α → Prop} {Q : β → Prop} {xs : List α}
    {ys : List β} (h : List.Forall₂ R xs ys) (hPQ : ∀ x y, R x y → (P x ↔ Q y)) :
    (∀ x ∈ xs, P x) ↔ ∀ y ∈ ys, Q y := by
  induction h with
  | nil => simp
  | cons hxy _ ih => simp [ih, hPQ _ _ hxy]

/-- What is built satisfies a condition throughout if each entry is built into something that
does. -/
theorem forall_built_iff {f : α → Except ε β} {xs : List α} {ys : List β} (P : β → Prop)
    (h : xs.mapM f = .ok ys) : (∀ y ∈ ys, P y) ↔ ∀ x ∈ xs, ∃ y, f x = .ok y ∧ P y := by
  refine (forall_mem_iff_of_forall₂ (mapM_eq_ok_iff.mp h) fun x y hxy => ?_).symm
  simp [hxy]

/-- Where what was built gives nothing for an entry that is as it should be, and otherwise something
that fits the entry, it gives one thing for each of the other entries, in their order. -/
theorem forall₂_filterMap {γ : Type} {R : α → β → Prop} {S : α → γ → Prop} {p : α → Prop}
    [DecidablePred p] {f : β → Option γ} {xs : List α} {ys : List β} (h : List.Forall₂ R xs ys)
    (hNone : ∀ x y, R x y → (f y = none ↔ p x)) (hSome : ∀ x y z, R x y → f y = some z → S x z) :
    List.Forall₂ S (xs.filter fun x => ¬ p x) (ys.filterMap f) := by
  induction h with
  | nil => exact .nil
  | @cons x y xs ys hxy _ ih =>
    cases hy : f y with
    | none =>
      have hp : p x := (hNone x y hxy).mp hy
      rwa [List.filter_cons_of_neg (by simpa using hp), List.filterMap_cons_none hy]
    | some z =>
      have hp : ¬ p x := fun hp => by simp [(hNone x y hxy).mpr hp] at hy
      rw [List.filter_cons_of_pos (by simpa using hp), List.filterMap_cons_some hy]
      exact .cons (hSome x y z hxy hy) ih

/-- A list in which there is an entry to cut at is cut at the same place if more entries follow. -/
theorem takeWhile_append_of_mem {p : α → Bool} {xs : List α} {x : α} (hx : x ∈ xs)
    (hp : p x = false) (ys : List α) : (xs ++ ys).takeWhile p = xs.takeWhile p := by
  have hShort : (xs.takeWhile p).length ≠ xs.length := by
    intro hLength
    have hAll : xs.takeWhile p = xs := (List.takeWhile_prefix p).eq_of_length hLength
    have hKept : p x = true := List.takeWhile_eq_self_iff.mp hAll x hx
    rw [hp] at hKept
    cases hKept
  rw [List.takeWhile_append, if_neg hShort]

end StreamVerdict.Traversal
