import StreamVerdict.Event
import StreamVerdict.Proofs.Text.LowerCase

/-!
# Fields looked up by name

The names of an event are put into lower case when it is made, and the case of
all letters is set aside by this. The name that is looked up is not: there only
A to Z are folded. A name with capitals of another script in it is never found,
not even in an event that was made with this very name. All other names find the
first field that has them when case does not count.

Main definitions:

* `Event.firstNamed?` — the first pair of a name, case not counting.

Main results:

* `Event.get?_ofPairs` — what a lookup finds;
* `Event.get?_ofPairs_lowercase` — names in lower case are always found;
* `Event.plain_names_find_first` — the names for which case does not count.
-/

namespace StreamVerdict.Event

open Text (lowercase HasPlainCase)

/-- The value of the first of some pairs that has a name, case not counting. -/
def firstNamed? (pairs : List (String × String)) (name : String) : Option String :=
  (pairs.find? fun p => lowercase p.1 = lowercase name).map (·.2)

theorem firstNamed?_eq_none_iff {pairs : List (String × String)} {name : String} :
    firstNamed? pairs name = none ↔ ∀ p ∈ pairs, lowercase p.1 ≠ lowercase name := by
  simp [firstNamed?]

theorem isSome_firstNamed?_iff {pairs : List (String × String)} {name : String} :
    (firstNamed? pairs name).isSome = true ↔ ∃ p ∈ pairs, lowercase p.1 = lowercase name := by
  simp [firstNamed?]

/-- Names that differ in case only are the same to it. -/
theorem firstNamed?_congr {name other : String} (h : lowercase name = lowercase other)
    (pairs : List (String × String)) : firstNamed? pairs name = firstNamed? pairs other := by
  rw [firstNamed?, firstNamed?, h]

/-- The first pair of a name decides, and those behind it do not matter. -/
theorem firstNamed?_eq_some_iff {pairs : List (String × String)} {name value : String} :
    firstNamed? pairs name = some value ↔ ∃ before field after,
      pairs = before ++ (field, value) :: after ∧ lowercase field = lowercase name ∧
        ∀ q ∈ before, lowercase q.1 ≠ lowercase name := by
  rw [firstNamed?, Option.map_eq_some_iff]
  constructor
  · rintro ⟨⟨field, _⟩, hFind, rfl⟩
    obtain ⟨hField, before, after, hPairs, hBefore⟩ := List.find?_eq_some_iff_append.mp hFind
    exact ⟨before, field, after, hPairs, of_decide_eq_true hField, by simpa using hBefore⟩
  · rintro ⟨before, field, after, hPairs, hField, hBefore⟩
    refine ⟨(field, value), List.find?_eq_some_iff_append.mpr ?_, rfl⟩
    exact ⟨decide_eq_true hField, before, after, hPairs, by simpa using hBefore⟩

theorem firstNamed?_cons_self (name value : String) (pairs : List (String × String)) :
    firstNamed? ((name, value) :: pairs) name = some value := by
  simp [firstNamed?]

/-- A name is looked up among names in lower case. It is found where it is the first one, as long
as it has no capitals besides A to Z, and otherwise it is not found at all. -/
theorem get?_ofPairs (pairs : List (String × String)) (name : String) :
    (ofPairs pairs).get? name = if HasPlainCase name then firstNamed? pairs name else none := by
  -- the stored name is lower case, so it has a fold of the name only if the name is plain
  have hField : (fun p : String × String => Text.sameAscii (lowercase p.1) name) =
      fun p => decide (HasPlainCase name) && decide (lowercase p.1 = lowercase name) := by
    funext p
    rw [Bool.eq_iff_iff, Text.sameAscii_lowercase_iff]
    simp
  have hLookup : (ofPairs pairs).get? name =
      (pairs.find? fun p => Text.sameAscii (lowercase p.1) name).map (·.2) := by
    simp [ofPairs, get?, List.find?_map, Function.comp_def]
  rw [hLookup, hField]
  by_cases hPlain : HasPlainCase name
  · simp [hPlain, firstNamed?]
  · simp [hPlain]

/-- In lower case every name is found. -/
theorem get?_ofPairs_lowercase (pairs : List (String × String)) (name : String) :
    (ofPairs pairs).get? (lowercase name) = firstNamed? pairs name := by
  rw [get?_ofPairs, if_pos (Text.hasPlainCase_lowercase name)]
  exact firstNamed?_congr (Text.lowercase_lowercase name) pairs

/-- Where a name is found, there is a field of this name. -/
theorem contains_ofPairs_iff {pairs : List (String × String)} {name : String} :
    (ofPairs pairs).contains name = true ↔
      HasPlainCase name ∧ ∃ p ∈ pairs, lowercase p.1 = lowercase name := by
  rw [contains, get?_ofPairs]
  split
  next hPlain => simp [hPlain, isSome_firstNamed?_iff]
  next hPlain => simp [hPlain]

/-- **Case does not count for names without capitals of other scripts.** For every name:

1. In every event it finds the value of the first pair with this name, case not counting, if it has
   no capitals besides A to Z, and otherwise it finds nothing. It is contained accordingly.
2. So a lookup is without regard to case in every event exactly if the name has no capitals
   besides A to Z. For no other name is a field found under the name it was made with.
3. Names that differ only in case find the same in every event exactly if both of them or neither
   have further capitals.
4. In lower case the name always finds the first pair with this name. -/
theorem plain_names_find_first (name : String) :
    (∀ pairs, (ofPairs pairs).get? name =
        if HasPlainCase name then firstNamed? pairs name else none) ∧
    (∀ pairs, (ofPairs pairs).contains name = true ↔
      HasPlainCase name ∧ ∃ p ∈ pairs, lowercase p.1 = lowercase name) ∧
    ((∀ pairs, (ofPairs pairs).get? name = firstNamed? pairs name) ↔ HasPlainCase name) ∧
    (∀ value pairs, (ofPairs ((name, value) :: pairs)).get? name = some value ↔
      HasPlainCase name) ∧
    (∀ other, lowercase other = lowercase name →
      ((∀ pairs, (ofPairs pairs).get? other = (ofPairs pairs).get? name) ↔
        (HasPlainCase other ↔ HasPlainCase name))) ∧
    ∀ pairs, (ofPairs pairs).get? (lowercase name) = firstNamed? pairs name := by
  -- an event whose first pair has the name gives its value for a plain name only
  have hOwn : ∀ value pairs, (ofPairs ((name, value) :: pairs)).get? name = some value ↔
      HasPlainCase name := by
    intro value pairs
    rw [get?_ofPairs, firstNamed?_cons_self]
    simp
  refine ⟨fun pairs => get?_ofPairs pairs name, fun _ => contains_ofPairs_iff, ?_, hOwn, ?_,
    fun pairs => get?_ofPairs_lowercase pairs name⟩
  · -- the law, taken at such an event
    constructor
    · intro h
      have hFound := h [(name, "")]
      rw [firstNamed?_cons_self] at hFound
      exact (hOwn "" []).mp hFound
    · intro hPlain pairs
      rw [get?_ofPairs, if_pos hPlain]
  · intro other hOther
    simp only [get?_ofPairs, firstNamed?_congr hOther]
    constructor
    · intro h
      -- an event that has the name tells the two apart if one of them has further capitals
      have hFound := h [(name, "")]
      rw [firstNamed?_cons_self] at hFound
      by_cases hPlain : HasPlainCase other <;> by_cases hPlain' : HasPlainCase name <;>
        simp_all
    · intro h pairs
      simp only [h]

/-- A name with a capital of another script is found in lower case only. -/
theorem accented_name_found_in_lower_case :
    lowercase "É" = lowercase "é" ∧
    ¬ (∀ pairs, (ofPairs pairs).get? "É" = (ofPairs pairs).get? "é") ∧
    (ofPairs [("É", "1")]).get? (lowercase "É") = some "1" := by
  have hSame : lowercase "É" = lowercase "é" := by decide +kernel
  obtain ⟨-, -, -, -, hOther, -⟩ := plain_names_find_first "é"
  obtain ⟨-, -, -, -, -, hLower⟩ := plain_names_find_first "É"
  refine ⟨hSame, ?_, ?_⟩
  · rw [hOther "É" hSame]
    decide +kernel
  · rw [hLower, firstNamed?_cons_self]

/-- An event is asked for the name it was made with, and has no such field. -/
theorem accented_name_not_found :
    (ofPairs [("É", "1")]).get? "É" = none ∧ (ofPairs [("É", "1")]).contains "É" = false ∧
    firstNamed? [("É", "1")] "É" = some "1" ∧
    lowercase "É" = lowercase "é" ∧ (ofPairs [("É", "1")]).get? "é" = some "1" := by
  decide +kernel

end StreamVerdict.Event
