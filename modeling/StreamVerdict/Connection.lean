import StreamVerdict.Text.Blank

/-!
# Connections

A source may deliver over several connections at once. Each has an identifier.
-/

namespace StreamVerdict

/-- The identifier of a connection. -/
structure ConnectionId where
  text : String
  deriving DecidableEq

namespace ConnectionId

/-- The connection that is meant when none is named. -/
def default : ConnectionId :=
  ⟨"0"⟩

/-- Whether one identifier comes before another, by code points. -/
def before (a b : ConnectionId) : Bool :=
  a.text < b.text

/-- The identifiers in order. Equal ones keep their places. -/
def sort (ids : List ConnectionId) : List ConnectionId :=
  ids.mergeSort fun a b => !b.before a

/-- The parts of a text between commas. -/
def splitCommas : List Char → List (List Char)
  | [] => [[]]
  | ',' :: cs => [] :: splitCommas cs
  | c :: cs =>
    match splitCommas cs with
    | part :: parts => (c :: part) :: parts
    | [] => [[c]]

/-- The parts are those of the list of characters split at commas. -/
theorem splitCommas_eq_splitOn (cs : List Char) : splitCommas cs = cs.splitOn ',' := by
  induction cs with
  | nil => rfl
  | cons c cs ih =>
    rw [List.splitOn_cons_eq_if_modifyHead, ← ih]
    by_cases hc : c = ','
    · -- a comma: a new part begins in both
      subst hc
      simp [splitCommas]
    · -- any other character is put in front of the first part, and there always is one
      rw [splitCommas, if_neg (by simpa using hc)]
      · cases hParts : splitCommas cs with
        | nil => exact absurd (ih.symm.trans hParts) (List.splitOn_ne_nil ',' cs)
        | cons part parts => rfl
      · exact hc

/-- The identifiers of a list with commas. Blanks around them do not count, and empty ones are
left out. -/
def readList (s : String) : List ConnectionId :=
  ((splitCommas s.toList).map Text.trimChars |>.filter (· ≠ [])).map fun cs =>
    ⟨String.ofList cs⟩

/-- An identifier is listed in a text if it is one of the parts between commas, apart from blanks
around it. No identifier is listed that is empty. -/
def IsListedIn (id : ConnectionId) (s : String) : Prop :=
  ∃ part ∈ s.toList.splitOn ',', Text.trimChars part ≠ [] ∧ id.text.toList = Text.trimChars part

instance (id : ConnectionId) (s : String) : Decidable (id.IsListedIn s) :=
  inferInstanceAs (Decidable (∃ part ∈ s.toList.splitOn ',',
    Text.trimChars part ≠ [] ∧ id.text.toList = Text.trimChars part))

/-- The identifiers that are read are those that are listed. -/
theorem mem_readList {id : ConnectionId} {s : String} : id ∈ readList s ↔ id.IsListedIn s := by
  unfold readList IsListedIn
  rw [splitCommas_eq_splitOn]
  constructor
  · -- a part that is left over is some part, trimmed
    intro h
    obtain ⟨cs, hcs, rfl⟩ := List.mem_map.mp h
    obtain ⟨hPart, hne⟩ := List.mem_filter.mp hcs
    obtain ⟨part, hMem, rfl⟩ := List.mem_map.mp hPart
    exact ⟨part, hMem, by simpa using hne, by simp⟩
  · -- the other way round, the text of the connection is such a part
    rintro ⟨part, hMem, hne, hText⟩
    refine List.mem_map.mpr ⟨Text.trimChars part, ?_, ?_⟩
    · exact List.mem_filter.mpr ⟨List.mem_map_of_mem hMem, by simpa using hne⟩
    · rw [← hText, String.ofList_toList]

end ConnectionId

end StreamVerdict
