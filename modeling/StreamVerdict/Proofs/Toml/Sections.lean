import StreamVerdict.Proofs.Toml.Value

/-!
# The sections of a document

A record is written as sections with blank lines between them: its plain
members first, under a header if it has one, and then the sections of its
tables and lists of tables, in the order of the members.

Only integers can keep a regular tree from being written: those that do not fit
in 64 bits with a sign.

Main definitions:

* `Toml.Fits` — a tree whose integers are in reach;
* `Toml.memberSections` — the sections of one member of a table.

Main results:

* `Toml.tableHead_item` / `Toml.tableHead_table` / `Toml.tableHead_root` — the
  lines of a table itself;
* `Toml.isSome_write_iff` — the regular records that can be written.
-/

namespace StreamVerdict.Toml

open StreamVerdict.Tree (Regular)

/-! ## Pieces of a document -/

/-- A section of lines. -/
def writeLines (lines : List String) : String :=
  String.join (lines.map (· ++ "\n"))

theorem toList_writeLines (lines : List String) :
    (writeLines lines).toList = lines.flatMap fun s => s.toList ++ ['\n'] := by
  rw [writeLines, String.toList_join, List.flatMap_map]
  simp only [String.toList_append]
  rfl

/-- The header of a table. -/
def writeHeader (path : List String) : String :=
  "[" ++ writePath path ++ "]"

/-- The header of a table in a list. -/
def writeItemHeader (path : List String) : String :=
  "[[" ++ writePath path ++ "]]"

/-- The lines of a table in a list. -/
theorem tableHead_item (path : List String) (members : List (String × Tree)) :
    tableHead path true members =
      (writePlain members).map fun ws => [writeLines (writeItemHeader path :: ws)] := by
  rw [tableHead]
  cases writePlain members <;> rfl

/-- The lines of a table: it has no header if it consists of tables. -/
theorem tableHead_table {path : List String} (hPath : path ≠ [])
    (members : List (String × Tree)) :
    tableHead path false members = (writePlain members).map fun ws =>
      if ws = [] ∧ members ≠ [] then [] else [writeLines (writeHeader path :: ws)] := by
  rw [tableHead]
  cases writePlain members with
  | none => rfl
  | some ws =>
    have hEmpty : path.isEmpty = false := List.isEmpty_eq_false_iff.mpr hPath
    cases ws <;> cases members <;> simp [hEmpty, writeLines, writeHeader]

/-- The lines of the whole document outside of its tables. -/
theorem tableHead_root (members : List (String × Tree)) :
    tableHead [] false members =
      (writePlain members).map fun ws => if ws = [] then [] else [writeLines ws] := by
  rw [tableHead]
  cases writePlain members with
  | none => rfl
  | some ws => cases ws <;> rfl

theorem isTable_of_mem {items : List Tree} (h : isTables (.list items) = true) {t : Tree}
    (ht : t ∈ items) : isTable t = true := by
  cases items with
  | nil => cases ht
  | cons => exact List.all_eq_true.mp h t ht

/-- The sections of a member of a table. A plain member has none. -/
def memberSections (path : List String) (key : String) : Tree → Option (List String)
  | .record members => writeTable (path ++ [key]) false (.record members)
  | .list items =>
    if isTables (.list items) then writeTables (path ++ [key]) items else some []
  | _ => some []

theorem memberSections_of_isPlain {t : Tree} (h : isPlain t = true) (path : List String)
    (key : String) : memberSections path key t = some [] := by
  cases t with
  | record => cases h
  | list items =>
    have hTables : isTables (.list items) = false := by simpa [isPlain, isTable] using h
    rw [memberSections, hTables]
    rfl
  | _ => rfl

/-- The sections below a table are those of its members. -/
theorem writeBelow_eq (path : List String) (members : List (String × Tree)) :
    writeBelow path members =
      (members.mapM fun m => memberSections path m.1 m.2).map List.flatten := by
  induction members with
  | nil => rfl
  | cons m ms ih =>
    obtain ⟨key, t⟩ := m
    have hHere : writeBelow path ((key, t) :: ms) =
        (memberSections path key t).bind fun here =>
          (writeBelow path ms).bind fun rest => some (here ++ rest) := by
      -- only lists have two ways to be written
      cases t with
      | list items =>
        rw [writeBelow, memberSections]
        split <;> rfl
      | _ => rfl
    rw [hHere, ih, List.mapM_cons]
    cases memberSections path key t with
    | none => rfl
    | some here => cases ms.mapM fun m => memberSections path m.1 m.2 <;> rfl

theorem writeTables_eq (path : List String) (items : List Tree) :
    writeTables path items = (items.mapM (writeTable path true)).map List.flatten := by
  induction items with
  | nil => rfl
  | cons t ts ih =>
    rw [writeTables, ih, List.mapM_cons]
    cases writeTable path true t with
    | none => rfl
    | some here => cases ts.mapM (writeTable path true) <;> rfl

theorem writeTable_record (path : List String) (inList : Bool)
    (members : List (String × Tree)) :
    writeTable path inList (.record members) = (tableHead path inList members).bind fun head =>
      (writeBelow path members).bind fun below => some (head ++ below) := by
  rw [writeTable]
  rfl

/-- A table that is written is its own lines, and then the sections below it. -/
theorem exists_of_writeTable {path : List String} {inList : Bool}
    {members : List (String × Tree)} {sections : List String}
    (h : writeTable path inList (.record members) = some sections) :
    ∃ head below, tableHead path inList members = some head ∧
      writeBelow path members = some below ∧ sections = head ++ below := by
  simp only [writeTable_record, Option.bind_eq_some_iff, Option.some.injEq] at h
  obtain ⟨head, hHead, below, hBelow, rfl⟩ := h
  exact ⟨head, below, hHead, hBelow, rfl⟩

/-! ## What can be written -/

/-- The integers of the tree fit in 64 bits with a sign. -/
def Fits (t : Tree) : Prop :=
  ∀ i ∈ t.ints, i < Text.signedHalf

theorem fits_list {items : List Tree} : Fits (.list items) ↔ ∀ t ∈ items, Fits t := by
  simp only [Fits, Tree.ints_list, List.mem_flatMap]
  exact ⟨fun h t ht i hi => h i ⟨t, ht, hi⟩, fun h i ⟨t, ht, hi⟩ => h t ht i hi⟩

theorem fits_record {members : List (String × Tree)} :
    Fits (.record members) ↔ ∀ m ∈ members, Fits m.2 := by
  simp only [Fits, Tree.ints_record, List.mem_flatMap]
  exact ⟨fun h m hm i hi => h i ⟨m, hm, hi⟩, fun h i ⟨m, hm, hi⟩ => h m hm i hi⟩

theorem isSome_writeInline {members : List (String × Tree)} :
    (writeInline members).isSome ↔ ∀ m ∈ members, (writeValue m.2).isSome := by
  rw [writeInline_eq, Traversal.isSome_mapM_iff]
  simp only [Option.isSome_map]

/-- A regular tree can be written as a value if its integers are in reach. -/
theorem isSome_writeValue_iff {d : Nat} {t : Tree} (h : Regular d t) :
    (writeValue t).isSome ↔ Fits t := by
  induction h with
  | bool b => simp [writeValue_bool, Fits]
  | int n => simp [writeValue_int, Fits]
  | text s => simp [writeValue, Fits]
  | @list d items _ ih =>
    rw [writeValue_list, Option.isSome_map, Traversal.isSome_mapM_iff, fits_list]
    exact forall₂_congr ih
  | @record d members _ _ ih =>
    rw [writeValue_record, Option.isSome_map, isSome_writeInline, fits_record]
    exact forall₂_congr ih

theorem isSome_tableHead (path : List String) (inList : Bool) (members : List (String × Tree)) :
    (tableHead path inList members).isSome ↔ (writePlain members).isSome := by
  rw [tableHead]
  cases writePlain members with
  | none => simp
  | some ws =>
    simp only [Option.bind_eq_bind, Option.bind_some, Option.isSome_some, iff_true]
    split <;> rfl

/-- A table can be written if its plain members and those that have sections can. -/
theorem isSome_writeTable_record {path : List String} {inList : Bool}
    {members : List (String × Tree)} :
    (writeTable path inList (.record members)).isSome ↔
      (∀ m ∈ members, isPlain m.2 = true → (writeValue m.2).isSome) ∧
      ∀ m ∈ members, (memberSections path m.1 m.2).isSome := by
  have hBoth {x y : Option (List String)} :
      (x.bind fun head => y.bind fun below => some (head ++ below)).isSome ↔
        x.isSome ∧ y.isSome := by
    cases x <;> cases y <;> simp
  rw [writeTable_record, hBoth, isSome_tableHead, writePlain, isSome_writeInline, writeBelow_eq,
    Option.isSome_map, Traversal.isSome_mapM_iff]
  simp only [List.mem_filter, and_imp]

/-- A regular table can be written, and so can the sections of a regular member, if the integers are
in reach. -/
theorem isSome_sections_iff {d : Nat} {t : Tree} (h : Regular d t) :
    (isTable t = true → ∀ path inList, (writeTable path inList t).isSome ↔ Fits t) ∧
    (isPlain t = false → ∀ path key, (memberSections path key t).isSome ↔ Fits t) := by
  induction h with
  | bool | int | text => exact ⟨nofun, nofun⟩
  | @list d items _ ih =>
    -- a list of tables is written as sections, each of which has to fit
    refine ⟨nofun, fun hPlain path key => ?_⟩
    have hTables : isTables (.list items) = true := by simpa [isPlain, isTable] using hPlain
    rw [memberSections, if_pos hTables, writeTables_eq, Option.isSome_map,
      Traversal.isSome_mapM_iff, fits_list]
    exact forall₂_congr fun t ht => (ih t ht).1 (isTable_of_mem hTables ht) (path ++ [key]) true
  | @record d members _ hMembers ih =>
    have hTable (path : List String) (inList : Bool) :
        (writeTable path inList (.record members)).isSome ↔ Fits (.record members) := by
      -- a member is written either as a line or as sections
      rw [isSome_writeTable_record, fits_record, ← forall₂_and]
      refine forall₂_congr fun m hm => ?_
      cases hPlain : isPlain m.2 with
      | true => simp [isSome_writeValue_iff (hMembers m hm), memberSections_of_isPlain hPlain]
      | false => simpa using (ih m hm).2 hPlain path m.1
    exact ⟨fun _ => hTable, fun _ path key => hTable (path ++ [key]) false⟩

/-- **Which records can be written.** A regular record is written exactly if its
integers fit in 64 bits with a sign. -/
theorem isSome_write_iff {d : Nat} {members : List (String × Tree)}
    (h : Regular d (.record members)) :
    (write (.record members)).isSome ↔ ∀ i ∈ (Tree.record members).ints, i < Text.signedHalf := by
  rw [write, Option.isSome_map]
  exact (isSome_sections_iff h).1 rfl [] false

end StreamVerdict.Toml
