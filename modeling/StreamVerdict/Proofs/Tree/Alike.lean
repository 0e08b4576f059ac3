import Mathlib.Data.List.Forall2
import Mathlib.Data.List.Perm.Basic
import StreamVerdict.Proofs.KeyMap
import StreamVerdict.Tree

/-!
# Trees up to the order of members

Two formats of text keep one tree in different ways: a format that sets tables
apart brings the members of a record into another order. Such trees are alike,
and no reader of a configuration tells them apart.

Regular trees are those that both formats can keep: of texts, truth values and
natural numbers, nested to some depth, with no name twice in one record.

Main definitions:

* `Tree.Regular` — trees that a format of text can keep;
* `Tree.Alike` — trees that are the same up to the order of members;
* `Tree.ints` — the integers in a tree.

Main results:

* `Tree.Alike.exists_record` — a record and one that is alike, name by name;
* `Tree.Regular.isReadable_of_alike` — what is alike to a regular tree is
  readable.
-/

namespace StreamVerdict.Tree

/-! ## Regular trees -/

/-- Trees of texts, truth values and natural numbers, of at most some depth, in which the members of
every record have names of their own. -/
inductive Regular : Nat → Tree → Prop where
  | bool {d : Nat} (b : Bool) : Regular d (.bool b)
  | int {d : Nat} (n : Nat) : Regular d (.int n)
  | text {d : Nat} (s : String) : Regular d (.text s)
  | list {d : Nat} {items : List Tree} (hItems : ∀ t ∈ items, Regular d t) :
      Regular (d + 1) (.list items)
  | record {d : Nat} {members : List (String × Tree)} (hNames : (members.map (·.1)).Nodup)
      (hMembers : ∀ m ∈ members, Regular d m.2) : Regular (d + 1) (.record members)

theorem Regular.succ {d : Nat} {t : Tree} (h : Regular d t) : Regular (d + 1) t := by
  induction h with
  | bool b => exact .bool b
  | int n => exact .int n
  | text s => exact .text s
  | list _ ih => exact .list ih
  | record hNames _ ih => exact .record hNames ih

theorem Regular.nodup_names {d : Nat} {members : List (String × Tree)}
    (h : Regular d (.record members)) : (members.map (·.1)).Nodup := by
  cases h with
  | record hNames _ => exact hNames

/-! ## Integers -/

mutual

/-- The integers in a tree. -/
def ints : Tree → List Int
  | .int i => [i]
  | .list items => itemInts items
  | .record members => memberInts members
  | .null | .bool _ | .real | .text _ | .unreadable => []

/-- The integers in the trees of a list. -/
def itemInts : List Tree → List Int
  | [] => []
  | t :: ts => t.ints ++ itemInts ts

/-- The integers in the members of a record. -/
def memberInts : List (String × Tree) → List Int
  | [] => []
  | (_, t) :: ms => t.ints ++ memberInts ms

end

@[simp] theorem ints_int (i : Int) : (int i).ints = [i] := rfl

@[simp] theorem ints_bool (b : Bool) : (bool b).ints = [] := rfl

@[simp] theorem ints_text (s : String) : (text s).ints = [] := rfl

@[simp] theorem ints_list (items : List Tree) : (list items).ints = items.flatMap ints := by
  rw [ints]
  induction items with
  | nil => rfl
  | cons t ts ih => rw [itemInts, ih, List.flatMap_cons]

@[simp] theorem ints_record (members : List (String × Tree)) :
    (record members).ints = members.flatMap fun m => m.2.ints := by
  rw [ints]
  induction members with
  | nil => rfl
  | cons m ms ih => rw [memberInts, ih, List.flatMap_cons]

/-! ## Members -/

/-- The member of a name, the first if there are several. -/
def member? (members : List (String × Tree)) (name : String) : Option Tree :=
  (members.find? (·.1 == name)).map (·.2)

/-- In a record with no name twice a member is what its name leads to. -/
theorem member?_eq_some_iff {members : List (String × Tree)} (hNames : (members.map (·.1)).Nodup)
    {name : String} {t : Tree} : member? members name = some t ↔ (name, t) ∈ members := by
  unfold member?
  constructor
  · intro h
    obtain ⟨⟨name', t'⟩, hFind, rfl⟩ := Option.map_eq_some_iff.mp h
    have hName : name' = name := by simpa using List.find?_some hFind
    rw [← hName]
    exact List.mem_of_find?_eq_some hFind
  · intro h
    rw [KeyMap.find?_eq_some_of_mem (List.pairwise_map.mp hNames) h]
    rfl

/-! ## Trees that are alike -/

/-- Trees that are the same up to the order of the members of records. -/
inductive Alike : Tree → Tree → Prop where
  | refl (t : Tree) : Alike t t
  | list {items items' : List Tree} (hItems : List.Forall₂ Alike items items') :
      Alike (.list items) (.list items')
  | record {members sorted members' : List (String × Tree)} (hPerm : members.Perm sorted)
      (hNames : sorted.map (·.1) = members'.map (·.1))
      (hValues : List.Forall₂ Alike (sorted.map (·.2)) (members'.map (·.2))) :
      Alike (.record members) (.record members')

namespace Alike

theorem forall₂_refl (items : List Tree) : List.Forall₂ Alike items items :=
  List.forall₂_same.mpr fun t _ => .refl t

/-- In a list that is alike to another every item is alike to one of that. -/
theorem exists_of_mem {items items' : List Tree} (h : List.Forall₂ Alike items' items) {t' : Tree}
    (ht' : t' ∈ items') : ∃ t ∈ items, Alike t' t := by
  induction h with
  | nil => cases ht'
  | @cons t₁' t₁ _ _ hAlike _ ih =>
    rcases List.mem_cons.mp ht' with rfl | hRest
    · exact ⟨t₁, List.mem_cons_self, hAlike⟩
    · obtain ⟨t, ht, hAlike⟩ := ih hRest
      exact ⟨t, List.mem_cons_of_mem _ ht, hAlike⟩

/-- Records with the same names in the same order, and values that are alike, lead to the like. -/
theorem rel_member? {members members' : List (String × Tree)}
    (hNames : members.map (·.1) = members'.map (·.1))
    (hValues : List.Forall₂ Alike (members.map (·.2)) (members'.map (·.2))) (name : String) :
    Option.Rel Alike (member? members name) (member? members' name) := by
  induction members generalizing members' with
  | nil =>
    obtain rfl := List.map_eq_nil_iff.mp hNames.symm
    exact .none
  | cons m ms ih =>
    obtain ⟨m', ms', rfl⟩ : ∃ m' ms', members' = m' :: ms' :=
      List.exists_cons_of_ne_nil (by rintro rfl; cases hNames)
    obtain ⟨hName, hNames⟩ : m.1 = m'.1 ∧ _ := List.cons.inj hNames
    obtain ⟨hValue, hValues⟩ : Alike m.2 m'.2 ∧ _ := List.forall₂_cons.mp hValues
    -- the names agree in order, so both are found at the same place
    unfold member?
    rw [List.find?_cons, List.find?_cons, ← hName]
    cases m.1 == name with
    | true => exact .some hValue
    | false => exact ih hNames hValues

theorem eq_null {t : Tree} (h : Alike .null t) : t = .null := by
  cases h
  rfl

/-- Nothing but texts is alike to texts. -/
theorem eq_texts {items : List Tree} {ss : List String}
    (h : List.Forall₂ Alike items (ss.map .text)) : items = ss.map .text := by
  induction ss generalizing items with
  | nil => exact List.forall₂_nil_right_iff.mp h
  | cons s ss ih =>
    obtain ⟨_, items, ⟨⟩, hItems, rfl⟩ := List.forall₂_cons_right_iff.mp h
    rw [ih hItems, List.map_cons]

/-- What is alike to a list is a list, item by item. -/
theorem exists_list {t : Tree} {items : List Tree} (h : Alike t (.list items)) :
    ∃ items', t = .list items' ∧ List.Forall₂ Alike items' items := by
  cases h with
  | refl => exact ⟨items, rfl, forall₂_refl items⟩
  | list hItems => exact ⟨_, rfl, hItems⟩

/-- What is alike to a record is a record in which no name comes twice either, and every name leads
to the like. -/
theorem exists_record {t : Tree} {members : List (String × Tree)} (h : Alike t (.record members))
    (hNames : (members.map (·.1)).Nodup) :
    ∃ members', t = .record members' ∧ (members'.map (·.1)).Nodup ∧
      ∀ name, Option.Rel Alike (member? members' name) (member? members name) := by
  cases h with
  | refl =>
    -- the same record
    refine ⟨members, rfl, hNames, fun name => ?_⟩
    cases member? members name with
    | none => exact .none
    | some t => exact .some (.refl t)
  | @record members' sorted _ hPerm hSorted hValues =>
    -- another order of the members
    have hNodup : (members'.map (·.1)).Nodup := by
      rw [(hPerm.map _).nodup_iff, hSorted]
      exact hNames
    refine ⟨members', rfl, hNodup, fun name => ?_⟩
    rw [member?, KeyMap.find?_perm hPerm (List.pairwise_map.mp (hSorted ▸ hNames))]
    exact rel_member? hSorted hValues name

end Alike

/-! ## Readability -/

theorem areReadable_iff {items : List Tree} :
    areReadable items = true ↔ ∀ t ∈ items, t.isReadable = true := by
  induction items with
  | nil => simp [areReadable]
  | cons t ts ih => simp [areReadable, ih]

theorem membersReadable_iff {members : List (String × Tree)} :
    membersReadable members = true ↔ ∀ m ∈ members, m.2.isReadable = true := by
  induction members with
  | nil => simp [membersReadable]
  | cons m ms ih => simp [membersReadable, ih]

/-- What is alike to a regular tree can be read as a whole. -/
theorem Regular.isReadable_of_alike {d : Nat} {t t' : Tree} (h : Regular d t)
    (hAlike : Alike t' t) : t'.isReadable = true := by
  induction h generalizing t' with
  | bool b | int n | text s =>
    cases hAlike
    rfl
  | @list d items hItems ih =>
    obtain ⟨items', rfl, hAll⟩ := hAlike.exists_list
    rw [isReadable, areReadable_iff]
    intro t' ht'
    obtain ⟨t, ht, hAlike⟩ := Alike.exists_of_mem hAll ht'
    exact ih t ht hAlike
  | @record d members hNames hMembers ih =>
    obtain ⟨members', rfl, hNames', hAll⟩ := hAlike.exists_record hNames
    rw [isReadable, membersReadable_iff]
    intro ⟨name, t'⟩ ht'
    -- each member of `t'` has its counterpart in `t`, found by its name
    have hRel := hAll name
    rw [(member?_eq_some_iff hNames').mpr ht'] at hRel
    cases h : member? members name with
    | none => rw [h] at hRel; cases hRel
    | some t =>
      rw [h] at hRel
      obtain ⟨hAlike⟩ := hRel
      exact ih _ ((member?_eq_some_iff hNames).mp h) hAlike

end StreamVerdict.Tree
