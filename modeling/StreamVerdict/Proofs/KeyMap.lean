import Mathlib.Data.List.Nodup
import StreamVerdict.KeyMap

/-!
# Maps by what is found in them

As the entries of a map stand in the order of their keys, no key comes twice,
and nothing about a map is left open by what is found under each key.

Main results:

* `KeyMap.mem_entries_iff` — the entries are what is found;
* `KeyMap.ext_get?` — maps in which the same is found are equal;
* `KeyMap.get?_insert` — what is found after an entry is set;
* `KeyMap.ofList_perm` — the map of entries in any order.
-/

namespace StreamVerdict.KeyMap

variable {β : Type}

/-- Of two entries one has the smaller key. -/
theorem pairwise_ne (m : KeyMap β) : m.entries.Pairwise fun a b => a.1 ≠ b.1 :=
  m.sorted.imp fun hlt hEq => by
    rw [hEq] at hlt
    exact String.lt_irrefl _ hlt

theorem nodup_entries (m : KeyMap β) : m.entries.Nodup :=
  m.pairwise_ne.imp fun hne hEq => hne (congrArg Prod.fst hEq)

/-- In a list in which no key comes twice, an entry is found under its key. -/
theorem find?_eq_some_of_mem {l : List (String × β)} (hl : l.Pairwise fun a b => a.1 ≠ b.1)
    {e : String × β} (he : e ∈ l) : l.find? (·.1 == e.1) = some e := by
  induction l with
  | nil => cases he
  | cons x l ih =>
    obtain ⟨hx, hl⟩ := List.pairwise_cons.mp hl
    rcases List.mem_cons.mp he with rfl | he
    · simp
    · rw [List.find?_cons_of_neg (by simpa using hx e he)]
      exact ih hl he

/-- The entries of a map are what is found in it. -/
theorem mem_entries_iff {m : KeyMap β} {k : String} {v : β} :
    (k, v) ∈ m.entries ↔ m.get? k = some v := by
  unfold get?
  constructor
  · intro h
    rw [find?_eq_some_of_mem m.pairwise_ne h]
    rfl
  · intro h
    obtain ⟨⟨k', v'⟩, hFind, rfl⟩ := Option.map_eq_some_iff.mp h
    have hKey : k' = k := by simpa using List.find?_some hFind
    rw [← hKey]
    exact List.mem_of_find?_eq_some hFind

theorem mem_keys_iff {m : KeyMap β} {k : String} : k ∈ m.keys ↔ m.contains k = true := by
  unfold keys contains
  rw [Option.isSome_iff_exists, List.mem_map]
  constructor
  · rintro ⟨⟨k', v⟩, hMem, rfl⟩
    exact ⟨v, mem_entries_iff.mp hMem⟩
  · rintro ⟨v, hv⟩
    exact ⟨(k, v), mem_entries_iff.mpr hv, rfl⟩

/-- Maps in which the same is found under every key are equal. -/
theorem ext_get? {a b : KeyMap β} (h : ∀ k, a.get? k = b.get? k) : a = b := by
  have hPerm : a.entries.Perm b.entries := by
    refine (List.perm_ext_iff_of_nodup a.nodup_entries b.nodup_entries).mpr fun e => ?_
    rw [mem_entries_iff, mem_entries_iff, h e.1]
  refine ext_entries (hPerm.eq_of_pairwise ?_ a.sorted b.sorted)
  exact fun x y _ _ hxy hyx => absurd (String.lt_trans hxy hyx) (String.lt_irrefl _)

/-! ## Lists of entries -/

/-- In a list in which no key comes twice the order of the entries does not matter to what is
found. -/
theorem find?_perm {l l' : List (String × β)} (hPerm : l.Perm l')
    (hl' : l'.Pairwise fun a b => a.1 ≠ b.1) (k : String) :
    l.find? (·.1 == k) = l'.find? (·.1 == k) := by
  have hl : l.Pairwise fun a b => a.1 ≠ b.1 := (hPerm.pairwise_iff fun h => Ne.symm h).mpr hl'
  cases h : l'.find? (·.1 == k) with
  | none =>
    rw [List.find?_eq_none] at h ⊢
    exact fun e he => h e (hPerm.mem_iff.mp he)
  | some e =>
    have hKey : e.1 = k := by simpa using List.find?_some h
    have he : e ∈ l := hPerm.mem_iff.mpr (List.mem_of_find?_eq_some h)
    rw [← hKey]
    exact find?_eq_some_of_mem hl he

/-! ## Setting entries -/

/-- What is found among entries after one is added. -/
theorem find?_insertEntry (k : String) (v : β) (l : List (String × β)) (k' : String) :
    (insertEntry k v l).find? (·.1 == k') =
      if k = k' then some (k, v) else l.find? (·.1 == k') := by
  induction l with
  | nil => by_cases hk : k = k' <;> simp [insertEntry, hk]
  | cons x l ih =>
    obtain ⟨k₁, v₁⟩ := x
    simp only [insertEntry]
    by_cases hlt : k < k₁
    · -- the new entry is put in front
      rw [if_pos hlt]
      by_cases hk : k = k' <;> simp [hk]
    · rw [if_neg hlt]
      by_cases hgt : k₁ < k
      · -- the new entry is put further behind
        rw [if_pos hgt]
        by_cases hk₁ : k₁ = k'
        · -- the entry that is found stands before the one that was added
          have hk : k ≠ k' := by
            rintro rfl
            exact String.lt_irrefl _ (hk₁ ▸ hgt)
          simp [hk, hk₁]
        · simpa [List.find?_cons, hk₁] using ih
      · -- an entry of the same key is replaced
        have hkk : k = k₁ := String.le_antisymm (String.not_lt.mp hgt) (String.not_lt.mp hlt)
        rw [if_neg hgt, hkk]
        by_cases hk : k₁ = k' <;> simp [hk]

theorem get?_insert (m : KeyMap β) (k : String) (v : β) (k' : String) :
    (m.insert k v).get? k' = if k = k' then some v else m.get? k' := by
  unfold get? insert
  rw [find?_insertEntry]
  split <;> simp

theorem get?_foldl_insert {l : List (String × β)} (hl : l.Pairwise fun a b => a.1 ≠ b.1)
    (m : KeyMap β) (k : String) :
    (l.foldl (fun m e => m.insert e.1 e.2) m).get? k =
      ((l.find? (·.1 == k)).map (·.2)).or (m.get? k) := by
  induction l generalizing m with
  | nil => rfl
  | cons e l ih =>
    obtain ⟨hFresh, hl⟩ := List.pairwise_cons.mp hl
    rw [List.foldl_cons, ih hl, get?_insert]
    by_cases hk : e.1 = k
    · -- no later entry replaces the one that is looked for
      have hNone : l.find? (·.1 == k) = none := by
        rw [List.find?_eq_none]
        exact fun e' he' hEq => hFresh e' he' (by rw [hk, beq_iff_eq.mp hEq])
      simp [hNone, hk]
    · simp [hk]

/-- The map of the entries of a map, in any order, is that map. -/
theorem ofList_perm {l : List (String × β)} {m : KeyMap β} (hPerm : l.Perm m.entries) :
    ofList l = m := by
  have hl : l.Pairwise fun a b => a.1 ≠ b.1 :=
    (hPerm.pairwise_iff fun h => Ne.symm h).mpr m.pairwise_ne
  refine ext_get? fun k => ?_
  rw [ofList, get?_foldl_insert hl, find?_perm hPerm m.pairwise_ne]
  exact Option.or_none

end StreamVerdict.KeyMap
