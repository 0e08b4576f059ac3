import StreamVerdict.Configuration.Encode
import StreamVerdict.Proofs.Traversal
import StreamVerdict.Proofs.Tree.Alike

/-!
# Reading what was written

A reader reads back a tree if it finds the value in every tree that is alike.
That is settled part by part: a record by its fields, a list by its items, an
alternative by the shape of the tree.

Main definitions:

* `Tree.Reads` — a reader finds a value in a tree and in what is alike;
* `Tree.ReadsPart` — the same for a field, which may be left out.

Main results:

* `Tree.Alike.fields?` — the parts of a structure;
* `Tree.reads_textMap` / `Tree.reads_choice` / `Tree.reads_list` — maps,
  choices and lists;
* `Tree.Reads.either_left` / `Tree.Reads.either_right` — alternatives.
-/

namespace StreamVerdict

namespace Tree

variable {α : Type}

/-! ## Readers -/

/-- A reader finds a value in every tree that is alike to a tree. -/
def Reads (f : Tree → Option α) (t : Tree) (a : α) : Prop :=
  ∀ t', Alike t' t → f t' = some a

/-- A reader finds nothing in any tree that is alike to a tree. -/
def Refuses (f : Tree → Option α) (t : Tree) : Prop :=
  ∀ t', Alike t' t → f t' = none

theorem Reads.map {β : Type} {f : Tree → Option α} {t : Tree} {a : α} (h : Reads f t a)
    (g : α → β) : Reads (fun t => (f t).map g) t (g a) := by
  intro t' hAlike
  simp only [h t' hAlike, Option.map_some]

theorem Refuses.map {β : Type} {f : Tree → Option α} {t : Tree} (h : Refuses f t) (g : α → β) :
    Refuses (fun t => (f t).map g) t := by
  intro t' hAlike
  simp only [h t' hAlike, Option.map_none]

theorem reads_bool (b : Bool) : Reads bool? (.bool b) b := by
  rintro _ ⟨⟩
  rfl

theorem reads_text (s : String) : Reads text? (.text s) s := by
  rintro _ ⟨⟩
  rfl

theorem reads_word (n : UInt64) : Reads word? (.int n.toNat) n := by
  rintro _ ⟨⟩
  have hlt : (n.toNat : Int) < UInt64.size := Int.ofNat_lt.mpr n.toNat_lt
  simpa [word?, UInt64.size] using hlt

theorem refuses_word_text (s : String) : Refuses word? (.text s) := by
  rintro _ ⟨⟩
  rfl

theorem refuses_text_record (members : List (String × Tree)) : Refuses text? (.record members) := by
  rintro _ (⟨⟩ | ⟨⟩ | ⟨⟩) <;> rfl

theorem refuses_list_record (f : Tree → Option α) (members : List (String × Tree)) :
    Refuses (list? f) (.record members) := by
  rintro _ (⟨⟩ | ⟨⟩ | ⟨⟩) <;> rfl

/-- What is alike to a map is a map of the same entries, in some order. -/
theorem exists_entries {t : Tree} {m : TextMap} (h : Alike t m.toTree) :
    ∃ entries : List (String × String),
      t = .record (entries.map fun e => (e.1, .text e.2)) ∧ entries.Perm m.entries := by
  cases h with
  | refl => exact ⟨m.entries, rfl, .rfl⟩
  | @record members sorted _ hPerm hNames hValues =>
    -- the sorted members are the entries, and so the members are entries in their order
    have hTexts : sorted.map (·.2) = (m.entries.map (·.2)).map .text :=
      Alike.eq_texts (by simpa only [List.map_map, Function.comp_def] using hValues)
    have hSorted : sorted = m.entries.map fun e => (e.1, .text e.2) := by
      refine (List.zip_of_prod hNames hTexts).trans ?_
      rw [List.map_map, List.map_map, List.zip_map']
      rfl
    have hWritten : List.Forall₂ (fun (member : String × Tree) (e : String × String) =>
        member = (e.1, .text e.2)) sorted m.entries := by
      rw [hSorted, List.forall₂_map_left_iff]
      exact List.forall₂_same.mpr fun _ _ => rfl
    obtain ⟨entries, hEntries, hEntriesPerm⟩ := List.perm_comp_forall₂ hPerm hWritten
    refine ⟨entries, ?_, hEntriesPerm⟩
    rw [← List.forall₂_map_right_iff (R := Eq), List.forall₂_eq_eq_eq] at hEntries
    rw [hEntries]

/-- A map is read back. -/
theorem reads_textMap (m : TextMap) : Reads textMap? m.toTree m := by
  intro t hAlike
  obtain ⟨entries, rfl, hPerm⟩ := exists_entries hAlike
  have hEntries : (entries.map fun e => (e.1, Tree.text e.2)).mapM
      (fun m => m.2.text?.bind fun s => some (m.1, s)) = some entries := by
    rw [Traversal.mapM_eq_some_iff, List.forall₂_map_left_iff]
    exact List.forall₂_same.mpr fun _ _ => rfl
  have hMap : KeyMap.ofList entries = m := KeyMap.ofList_perm hPerm
  rw [← hMap]
  exact congrArg (·.bind fun entries => some (KeyMap.ofList entries)) hEntries

/-- A choice is written as its name. -/
theorem exists_ofChoice [DecidableEq α] {choices : List (String × α)} {a : α}
    (ha : a ∈ choices.map (·.2)) :
    ∃ name, ofChoice choices a = .text name ∧ (name, a) ∈ choices := by
  obtain ⟨choice, hChoice, rfl⟩ := List.mem_map.mp ha
  obtain ⟨⟨name, a⟩, hFind⟩ : ∃ c, choices.find? (·.2 = choice.2) = some c :=
    Option.isSome_iff_exists.mp (List.find?_isSome.mpr ⟨choice, hChoice, by simp⟩)
  obtain rfl : a = choice.2 := by simpa using List.find?_some hFind
  exact ⟨name, by rw [ofChoice, hFind], List.mem_of_find?_eq_some hFind⟩

theorem regular_ofChoice [DecidableEq α] {choices : List (String × α)} {a : α}
    (ha : a ∈ choices.map (·.2)) {d : Nat} : Regular d (ofChoice choices a) := by
  obtain ⟨name, hName, -⟩ := exists_ofChoice ha
  rw [hName]
  exact .text name

@[simp] theorem ints_ofChoice [DecidableEq α] (choices : List (String × α)) (a : α) :
    (ofChoice choices a).ints = [] := by
  unfold ofChoice
  split <;> rfl

/-- A choice is read back if every choice has a name of its own. -/
theorem reads_choice [DecidableEq α] (s : Style) {choices : List (String × α)}
    (hNames : (choices.map (·.1)).Nodup) {a : α} (ha : a ∈ choices.map (·.2)) :
    Reads (choice? s choices) (.ofChoice choices a) a := by
  obtain ⟨name, hName, hMem⟩ := exists_ofChoice ha
  have hFind : choices.find? (·.1 == name) = some (name, a) :=
    KeyMap.find?_eq_some_of_mem (List.pairwise_map.mp hNames) hMem
  rw [hName]
  rintro _ ⟨⟩
  simp [choice?, hFind]

/-- A list is read back if its items are. -/
theorem reads_list {f : Tree → Option α} {g : α → Tree} {as : List α}
    (h : ∀ a ∈ as, Reads f (g a) a) : Reads (list? f) (.list (as.map g)) as := by
  intro t hAlike
  obtain ⟨items, rfl, hItems⟩ := hAlike.exists_list
  rw [List.forall₂_map_right_iff] at hItems
  rw [list?, Traversal.mapM_eq_some_iff]
  clear hAlike
  induction hItems with
  | nil => exact .nil
  | @cons _ a _ as hItem _ ih =>
    exact .cons (h a List.mem_cons_self _ hItem)
      (ih fun b hb => h b (List.mem_cons_of_mem _ hb))

/-! ## Alternatives -/

theorem Reads.either_left {f g : Tree → Option α} {t : Tree} {a : α} {d : Nat} (h : Reads f t a)
    (ht : Regular d t) : Reads (either? f g) t a := by
  intro t' hAlike
  simp [either?, ht.isReadable_of_alike hAlike, h t' hAlike]

theorem Reads.either_right {f g : Tree → Option α} {t : Tree} {a : α} {d : Nat} (h : Reads g t a)
    (hf : Refuses f t) (ht : Regular d t) : Reads (either? f g) t a := by
  intro t' hAlike
  simp [either?, ht.isReadable_of_alike hAlike, hf t' hAlike, h t' hAlike]

/-! ## Written fields -/

@[simp] theorem member?_cons (key : String) (t : Tree) (members : List (String × Tree))
    (name : String) :
    member? ((key, t) :: members) name = if key = name then some t else member? members name := by
  unfold member?
  by_cases h : key = name <;> simp [h]

@[simp] theorem member?_nil (name : String) : member? [] name = none := rfl

@[simp] theorem member?_append (members members' : List (String × Tree)) (name : String) :
    member? (members ++ members') name = (member? members name).or (member? members' name) := by
  simp [member?, List.find?_append, Option.map_or]

@[simp] theorem member?_memberOf (key : String) (g : α → Tree) (a : Option α) (name : String) :
    member? (memberOf key g a) name = if key = name then a.map g else none := by
  cases a <;> simp [memberOf]

@[simp] theorem member?_memberIf (shown : Bool) (key : String) (t : Tree) (name : String) :
    member? (memberIf shown key t) name = if key = name ∧ shown = true then some t else none := by
  cases shown <;> simp [memberIf]

/-- The members of a record have some names of a list, in its order. -/
def NamedIn (names : List String) (members : List (String × Tree)) : Prop :=
  (members.map (·.1)).Sublist names

theorem namedIn_all (members : List (String × Tree)) : NamedIn (members.map (·.1)) members :=
  .refl _

theorem namedIn_memberOf (key : String) (g : α → Tree) (a : Option α) :
    NamedIn [key] (memberOf key g a) := by
  cases a <;> simp [NamedIn, memberOf]

theorem namedIn_memberIf (shown : Bool) (key : String) (t : Tree) :
    NamedIn [key] (memberIf shown key t) := by
  cases shown <;> simp [NamedIn, memberIf]

theorem NamedIn.append {names names' : List String} {members members' : List (String × Tree)}
    (h : NamedIn names members) (h' : NamedIn names' members') :
    NamedIn (names ++ names') (members ++ members') := by
  rw [NamedIn, List.map_append]
  exact List.Sublist.append h h'

theorem forall_mem_memberOf {key : String} {g : α → Tree} {a : Option α} {P : Tree → Prop} :
    (∀ m ∈ memberOf key g a, P m.2) ↔ ∀ b ∈ a, P (g b) := by
  cases a <;> simp [memberOf]

theorem forall_mem_memberIf {shown : Bool} {key : String} {t : Tree} {P : Tree → Prop} :
    (∀ m ∈ memberIf shown key t, P m.2) ↔ (shown = true → P t) := by
  cases shown <;> simp [memberIf]

theorem flatMap_memberOf {β : Type} (h : Tree → List β) (key : String) (g : α → Tree)
    (a : Option α) :
    ((memberOf key g a).flatMap fun m => h m.2) = a.toList.flatMap fun b => h (g b) := by
  cases a <;> simp [memberOf]

theorem flatMap_memberIf {β : Type} (h : Tree → List β) (shown : Bool) (key : String) (t : Tree) :
    ((memberIf shown key t).flatMap fun m => h m.2) = if shown then h t else [] := by
  cases shown <;> simp [memberIf]

/-- A record is regular if its members are and its names are some of those of its fields. -/
theorem regular_of_namedIn (names : List String) {members : List (String × Tree)} {d : Nat}
    (h : NamedIn names members) (hNames : names.Nodup) (hMembers : ∀ m ∈ members, Regular d m.2) :
    Regular (d + 1) (.record members) :=
  .record (h.nodup hNames) hMembers

/-! ## Fields -/

/-- A reader of a field finds a value in every part that is alike to a part. -/
def ReadsPart (f : Option Tree → Option α) (part : Option Tree) (a : α) : Prop :=
  ∀ part', Option.Rel Alike part' part → f part' = some a

/-- The parts of a structure, each by its name. -/
theorem Alike.fields? {t : Tree} {members : List (String × Tree)} {d : Nat}
    (h : Alike t (.record members)) (hRegular : Regular d (.record members)) (s : Style)
    (names : List String) :
    ∃ part : String → Option Tree, Tree.fields? s names t = some (names.map part) ∧
      ∀ name, Option.Rel Alike (part name) (member? members name) := by
  obtain ⟨members', rfl, hNames', hRel⟩ := h.exists_record hRegular.nodup_names
  refine ⟨member? members', ?_, hRel⟩
  have hSingle : (names.any fun name => 1 < members'.countP (·.1 == name)) = false := by
    rw [List.any_eq_false]
    intro name _
    have hCount : members'.countP (·.1 == name) = (members'.map (·.1)).count name := by
      rw [List.count_eq_countP, List.countP_map]
      rfl
    simpa [hCount] using List.nodup_iff_count_le_one.mp hNames' name
  rw [Tree.fields?, hSingle]
  rfl

/-- A field that has to be there. -/
theorem exists_of_rel_some {part : Option Tree} {t : Tree} (h : Option.Rel Alike part (some t)) :
    ∃ t', part = some t' ∧ Alike t' t := by
  obtain ⟨hAlike⟩ := h
  exact ⟨_, rfl, hAlike⟩

/-- A field that is always written. -/
theorem Reads.given {f : Tree → Option α} {t : Tree} {a : α} (h : Reads f t a) (absent : α) :
    ReadsPart (orElse? absent f) (some t) a := by
  rintro _ ⟨hAlike⟩
  exact h _ hAlike

/-- A field that is left out where it holds what is meant without it. -/
theorem Reads.givenIf {f : Tree → Option α} {t : Tree} {a : α} (h : Reads f t a) {absent : α}
    (shown : Prop) [Decidable shown] (hAbsent : ¬ shown → a = absent) :
    ReadsPart (orElse? absent f) (if shown then some t else none) a := by
  by_cases hShown : shown
  · rw [if_pos hShown]
    exact h.given absent
  · rw [if_neg hShown]
    rintro _ ⟨⟩
    rw [hAbsent hShown]
    rfl

/-- A field that is left out where there is no value. -/
theorem readsPart_orNull {f : Tree → Option α} {g : α → Tree} {a : Option α}
    (h : ∀ b ∈ a, Reads f (g b) b) (hNull : ∀ b, g b ≠ .null) :
    ReadsPart (orElse? none (orNull? f)) (a.map g) a := by
  cases a with
  | none =>
    rintro _ ⟨⟩
    rfl
  | some b =>
    rintro _ ⟨hAlike⟩
    have hRead := h b rfl _ hAlike
    rename_i t
    cases t with
    | null => cases hNull b hAlike.eq_null
    | _ => simp [orElse?, orNull?, hRead]

end Tree

end StreamVerdict
