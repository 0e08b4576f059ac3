/-!
# Maps with texts as keys

A finite map is the list of its entries in the order of their keys, by code points. A set of
texts is a map without values.

Main results:

* `KeyMap.ext_entries`: a map is its entries;
* `KeyMap.pairwise_insertEntry`: adding an entry keeps the order.
-/

namespace StreamVerdict

/-- A finite map from texts, as its entries in the order of their keys. -/
structure KeyMap (β : Type) where
  entries : List (String × β)
  sorted : entries.Pairwise fun a b => a.1 < b.1

namespace KeyMap

variable {β : Type}

instance [DecidableEq β] : DecidableEq (KeyMap β) := fun a b =>
  if h : a.entries = b.entries then
    .isTrue (by cases a; cases b; simp_all)
  else
    .isFalse (by rintro rfl; exact h rfl)

/-- A map is its entries. -/
theorem ext_entries {a b : KeyMap β} (h : a.entries = b.entries) : a = b := by
  cases a; cases b; simp_all

/-- The map without entries. -/
def empty : KeyMap β :=
  ⟨[], List.Pairwise.nil⟩

instance : Inhabited (KeyMap β) := ⟨empty⟩

/-- Adds an entry in its place. It replaces the one of its key. -/
def insertEntry (k : String) (v : β) : List (String × β) → List (String × β)
  | [] => [(k, v)]
  | (k', v') :: rest =>
    if k < k' then (k, v) :: (k', v') :: rest
    else if k' < k then (k', v') :: insertEntry k v rest
    else (k, v) :: rest

/-- The keys after an entry is added are that of the entry and those from before. -/
theorem mem_insertEntry {k : String} {v : β} {l : List (String × β)} {e : String × β}
    (h : e ∈ insertEntry k v l) : e = (k, v) ∨ e ∈ l := by
  induction l with
  | nil => simpa [insertEntry] using h
  | cons x rest ih =>
    obtain ⟨k', v'⟩ := x
    simp only [insertEntry] at h
    split at h
    · -- the new key comes before all others
      simpa using h
    · split at h
      · -- it belongs further back
        rcases List.mem_cons.1 h with h | h
        · exact .inr (h ▸ List.mem_cons_self)
        · exact (ih h).imp_right (List.mem_cons_of_mem _)
      · -- it is there already, and its value is replaced
        rcases List.mem_cons.1 h with h | h
        · exact .inl h
        · exact .inr (List.mem_cons_of_mem _ h)

/-- Adding an entry keeps the order. -/
theorem pairwise_insertEntry {k : String} {v : β} {l : List (String × β)}
    (h : l.Pairwise fun a b => a.1 < b.1) :
    (insertEntry k v l).Pairwise fun a b => a.1 < b.1 := by
  induction l with
  | nil => simp [insertEntry]
  | cons x rest ih =>
    obtain ⟨k', v'⟩ := x
    have hRest := List.pairwise_cons.1 h
    simp only [insertEntry]
    split
    next hk =>
      -- the new key comes before all others
      refine List.pairwise_cons.2 ⟨fun e he => ?_, h⟩
      rcases List.mem_cons.1 he with rfl | he
      · exact hk
      · exact String.lt_trans hk (hRest.1 e he)
    next hk =>
      split
      next hk' =>
        -- it belongs further back, behind the first key
        refine List.pairwise_cons.2 ⟨fun e he => ?_, ih hRest.2⟩
        rcases mem_insertEntry he with rfl | he
        · exact hk'
        · exact hRest.1 e he
      next hk' =>
        -- it is the first key, and only the value changes
        have hkk : k = k' := String.le_antisymm (String.not_lt.1 hk') (String.not_lt.1 hk)
        subst hkk
        exact List.pairwise_cons.2 ⟨fun e he => hRest.1 e he, hRest.2⟩

/-- Sets the value of a key. -/
def insert (m : KeyMap β) (k : String) (v : β) : KeyMap β :=
  ⟨insertEntry k v m.entries, pairwise_insertEntry m.sorted⟩

/-- Removes a key. -/
def erase (m : KeyMap β) (k : String) : KeyMap β :=
  ⟨m.entries.filter (·.1 ≠ k), m.sorted.filter _⟩

/-- The value of a key. -/
def get? (m : KeyMap β) (k : String) : Option β :=
  (m.entries.find? (·.1 == k)).map (·.2)

/-- Whether a key has a value. -/
def contains (m : KeyMap β) (k : String) : Bool :=
  (m.get? k).isSome

/-- The keys in order. -/
def keys (m : KeyMap β) : List String :=
  m.entries.map (·.1)

/-- Whether there is no entry. -/
def isEmpty (m : KeyMap β) : Bool :=
  m.entries.isEmpty

/-- The map of a list of entries. The last entry of a key counts. -/
def ofList (l : List (String × β)) : KeyMap β :=
  l.foldl (fun m e => m.insert e.1 e.2) empty

end KeyMap

/-- A finite map from texts to texts. -/
abbrev TextMap := KeyMap String

/-- A finite set of texts. -/
abbrev TextSet := KeyMap Unit

/-- The set of the texts of a list. -/
def TextSet.ofTexts (l : List String) : TextSet :=
  .ofList (l.map fun s => (s, ()))

end StreamVerdict
