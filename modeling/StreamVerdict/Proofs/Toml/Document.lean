import StreamVerdict.Proofs.Toml.Sections

/-!
# Documents are read back

The lines of a document are read one after the other, and each changes the tree
that is being built. A piece of a document leads from one tree to another if
the lines behind it are read in the second one; pieces lead on one after the
other, so it is enough to say what one line does.

The main induction is on a regular tree. Its claim is about a tree that stands
as a member in some table, or as an item in a list of tables: the sections that
are written for it add to the document a node that finishes as that tree, up to
the order of members. Which order that is depends on the tree: the plain members
come before those with sections of their own.

Main definitions:

* `Toml.Leads` / `Toml.Adds` — what a piece of a document does;
* `Toml.AddsMember` / `Toml.AddsItem` — what the sections of a tree do.

Main results:

* `Toml.addsSections_of_regular` — the sections of regular trees;
* `Toml.read_write` — a regular record is read back, up to the order of members.
-/

namespace StreamVerdict.Toml

open StreamVerdict.Tree (Regular Alike)

/-! ## Pieces of a document -/

/-- When the piece has been read, the lines behind it are read under another header and in another
tree. -/
def Leads (piece : List Char) (header : List String) (root : Node) (header' : List String)
    (root' : Node) : Prop :=
  ∀ fuel rest, (piece ++ rest).length < fuel → ∃ fuel', rest.length < fuel' ∧
    readLines fuel header root (piece ++ rest) = readLines fuel' header' root' rest

theorem Leads.refl (header : List String) (root : Node) : Leads [] header root header root :=
  fun fuel _ hFuel => ⟨fuel, hFuel, rfl⟩

theorem Leads.trans {piece piece' : List Char} {header header' header'' : List String}
    {root root' root'' : Node} (h : Leads piece header root header' root')
    (h' : Leads piece' header' root' header'' root'') :
    Leads (piece ++ piece') header root header'' root'' := by
  intro fuel rest hFuel
  rw [List.append_assoc] at hFuel
  obtain ⟨fuel', hFuel', hRead⟩ := h fuel (piece' ++ rest) hFuel
  obtain ⟨fuel'', hFuel'', hRead'⟩ := h' fuel' rest hFuel'
  exact ⟨fuel'', hFuel'', by rw [List.append_assoc, hRead, hRead']⟩

/-- A step of the reader that uses up the piece. -/
theorem Leads.of_step {piece : List Char} (hne : piece ≠ []) {header header' : List String}
    {root root' : Node} (h : ∀ fuel rest, readLines (fuel + 1) header root (piece ++ rest) =
      readLines fuel header' root' rest) : Leads piece header root header' root' := by
  intro fuel rest hFuel
  have hPos : 0 < piece.length := List.length_pos_iff.mpr hne
  rw [List.length_append] at hFuel
  obtain ⟨fuel, rfl⟩ := Nat.exists_eq_add_one.mpr (Nat.zero_lt_of_lt hFuel)
  exact ⟨fuel, by omega, h fuel rest⟩

/-! ## Lines -/

/-- A blank line changes nothing. -/
theorem leads_blank (header : List String) (root : Node) :
    Leads ['\n'] header root header root :=
  .of_step (by simp) fun _ _ => rfl

theorem lineEnd_newline (rest : List Char) : lineEnd ('\n' :: rest) = some rest := rfl

/-- A line that begins with a key gives the table of the header a value. -/
theorem readLines_key {c : Char} (hc : BeginsKey c) {header key : List String}
    {root root' : Node} {t : Tree} {cs after rest rest' : List Char}
    (hPath : readPath (c :: cs) = some (key, '=' :: after))
    (hValue : readValue 0 (2 * after.length + 2) (skipSpace after) = some (t, rest'))
    (hAdd : root.addUnder header key t = some root') (hEnd : lineEnd rest' = some rest)
    (fuel : Nat) :
    readLines (fuel + 1) header root (c :: cs) = readLines fuel header root' rest := by
  have hComment : c ≠ '#' := hc.ne (by decide)
  have hBracket : c ≠ '[' := hc.ne (by decide)
  have hLine : newline? (c :: cs) = none :=
    newline?_of_ne (hc.ne (by decide)) (hc.ne (by decide)) cs
  rw [readLines, skipSpace_of_beginsKey hc]
  -- the line begins with a key, so it is no comment and no header
  split
  next hEq => cases hEq
  next hEq => exact absurd (List.cons.inj hEq).1 hComment
  next hEq => exact absurd (List.cons.inj hEq).1 hBracket
  next hEq => exact absurd (List.cons.inj hEq).1 hBracket
  next hEq =>
    obtain ⟨rfl, rfl⟩ := List.cons.inj hEq
    simp only [hLine, hPath, Option.bind_eq_bind, Option.bind_some, hValue, hAdd, hEnd]

/-- A member on a line of its own is added to the table of the header. -/
theorem leads_member {m : String × Tree} {w : String} (hm : MemberReadsBack 0 m w)
    {header : List String} {root root' : Node}
    (hAdd : root.addUnder header [m.1] m.2 = some root') :
    Leads (w.toList ++ ['\n']) header root header root' := by
  obtain ⟨s, rfl, hs⟩ := hm
  refine .of_step (by simp) fun fuel rest => ?_
  obtain ⟨c, cs, hKey, hc⟩ := exists_beginsKey m.1
  obtain ⟨cs, hLine⟩ : ∃ cs, (writeMember m.1 s).toList ++ '\n' :: rest = c :: cs := by
    rw [toList_writeMember, hKey]
    exact ⟨_, rfl⟩
  have hPath := readPath_writeMember m.1 s ((skipSpace_of_beginsKey hc cs).trans hLine.symm)
  rw [List.append_assoc, List.singleton_append, hLine]
  refine readLines_key hc hPath ?_ hAdd (lineEnd_newline rest) fuel
  -- the value stands behind the equals sign, and the line end stops it
  rw [hs.skipSpace]
  refine hs.read _ _ ?_ (stops_cons (by simp) rest)
  simp only [List.length_cons, List.length_append]
  omega

theorem exists_beginsPath {path : List String} (hne : path ≠ []) :
    ∃ c cs, (writePath path).toList = c :: cs ∧ BeginsKey c := by
  match path, hne with
  | key :: path, _ =>
    obtain ⟨c, cs, hKey, hc⟩ := exists_beginsKey key
    cases path with
    | nil => exact ⟨c, cs, by simp [writePath, hKey], hc⟩
    | cons key' path => exact ⟨c, _, by rw [toList_writePath_cons, hKey]; rfl, hc⟩

/-- The path of a header is read up to the bracket that closes it. -/
theorem readPath_header {path : List String} (hne : path ≠ [])
    (hLength : path.length < nestingLimit) (rest : List Char) :
    readPath ((writePath path).toList ++ ']' :: rest) = some (path, ']' :: rest) := by
  refine readPath_writePath hne hLength (.header rest) ?_
  obtain ⟨c, cs, hPath, hc⟩ := exists_beginsPath hne
  rw [hPath]
  exact skipSpace_of_beginsKey hc _

section Headers

variable {path : List String} (hne : path ≠ []) (hLength : path.length < nestingLimit)
include hne hLength

/-- A header opens a table, to which the lines behind it add. -/
theorem leads_header {header : List String} {root root' : Node}
    (hOpen : root.openTable path = some root') :
    Leads ((writeHeader path).toList ++ ['\n']) header root path root' := by
  refine .of_step (by simp) fun fuel rest => ?_
  have hPath := readPath_header hne hLength ('\n' :: rest)
  obtain ⟨c, cs, hcs, hc⟩ := exists_beginsPath hne
  have hLine : (writeHeader path).toList ++ ['\n'] ++ rest =
      '[' :: ((writePath path).toList ++ ']' :: '\n' :: rest) := by
    simp [writeHeader]
  have hBracket : c ≠ '[' := hc.ne (by decide)
  have hSkip (cs : List Char) : skipSpace ('[' :: cs) = '[' :: cs := rfl
  rw [hcs, List.cons_append] at hPath
  rw [hLine, hcs, List.cons_append, readLines, hSkip]
  -- one bracket, not two: the header of a table
  split
  next hEq => cases hEq
  next hEq => cases hEq
  next hEq => exact absurd (List.cons.inj (List.cons.inj hEq).2).1 hBracket
  next hEq =>
    cases hEq
    simp only [hPath, Option.bind_eq_bind, Option.bind_some, hOpen, lineEnd_newline]
  next hne hEq => exact absurd (List.cons.inj hEq).1.symm hne

/-- A header of an item opens the next table of a list. -/
theorem leads_itemHeader {header : List String} {root root' : Node}
    (hOpen : root.openItem path = some root') :
    Leads ((writeItemHeader path).toList ++ ['\n']) header root path root' := by
  refine .of_step (by simp) fun fuel rest => ?_
  have hPath := readPath_header hne hLength (']' :: '\n' :: rest)
  have hLine : (writeItemHeader path).toList ++ ['\n'] ++ rest =
      '[' :: '[' :: ((writePath path).toList ++ ']' :: ']' :: '\n' :: rest) := by
    simp [writeItemHeader]
  have hSkip (cs : List Char) : skipSpace ('[' :: cs) = '[' :: cs := rfl
  rw [hLine, readLines]
  simp only [hSkip, hPath, Option.bind_eq_bind, Option.bind_some, hOpen, lineEnd_newline]

end Headers

/-- The lines of plain members. -/
def memberLines (ws : List String) : List Char :=
  ws.flatMap fun w => w.toList ++ ['\n']

/-- The plain members of a table are added to it line by line. -/
theorem leads_members {C : Node → Node} {path : List String} (hC : IsContext C path)
    {members : List (String × Tree)} {ws : List String}
    (h : List.Forall₂ (MemberReadsBack 0) members ws) (implicit : Bool)
    (pre : List (String × Node)) (hNames : (pre.map (·.1) ++ members.map (·.1)).Nodup) :
    Leads (memberLines ws) path (C (.table implicit false pre)) path
      (C (.table implicit false (pre ++ members.map leafMember))) := by
  induction h generalizing pre with
  | nil =>
    rw [List.map_nil, List.append_nil]
    exact .refl path _
  | @cons m w members ws hm _ ih =>
    have hFresh : m.1 ∉ pre.map (·.1) := Node.fresh_of_nodup hNames
    have hAdd := (hC implicit pre).addUnder hFresh m.2
    have hRest := ih (pre ++ [leafMember m]) (by simpa [leafMember] using hNames)
    rw [List.append_assoc, List.singleton_append] at hRest
    exact (leads_member hm hAdd).trans hRest

/-! ## Sections -/

/-- The text of sections, with a blank line before each. -/
def sectionsText (sections : List String) : List Char :=
  sections.flatMap fun s => '\n' :: s.toList

theorem sectionsText_append (sections sections' : List String) :
    sectionsText (sections ++ sections') = sectionsText sections ++ sectionsText sections' :=
  List.flatMap_append

/-- The text of a document, after a blank line, is that of its sections. -/
theorem sectionsText_eq {sections : List String} (hne : sections ≠ []) :
    '\n' :: ("\n".intercalate sections).toList = sectionsText sections := by
  induction sections with
  | nil => exact absurd rfl hne
  | cons s ss ih =>
    cases ss with
    | nil => simp [sectionsText]
    | cons s' ss =>
      have hRest := ih (List.cons_ne_nil s' ss)
      rw [Text.toList_intercalate_cons]
      change '\n' :: (s.toList ++ '\n' :: ("\n".intercalate (s' :: ss)).toList) = _
      rw [hRest]
      rfl

/-- Sections change the tree in this way, whichever header stands before them. -/
def Adds (sections : List String) (root root' : Node) : Prop :=
  ∀ header, ∃ header', Leads (sectionsText sections) header root header' root'

theorem Adds.refl (root : Node) : Adds [] root root :=
  fun header => ⟨header, .refl header root⟩

theorem Adds.trans {sections sections' : List String} {root root' root'' : Node}
    (h : Adds sections root root') (h' : Adds sections' root' root'') :
    Adds (sections ++ sections') root root'' := by
  intro header
  obtain ⟨header', hLeads⟩ := h header
  obtain ⟨header'', hLeads'⟩ := h' header'
  exact ⟨header'', by rw [sectionsText_append]; exact hLeads.trans hLeads'⟩

/-! ## Finished tables -/

/-- A node of that name which finishes as the member does. -/
def Finishes (m : String × Tree) (n : String × Node) : Prop :=
  n.1 = m.1 ∧ Alike n.2.toTree m.2

/-- A table of plain members and the others after them finishes as all the members do. -/
theorem alike_toTree {members : List (String × Tree)} {nodes : List (String × Node)}
    (h : List.Forall₂ Finishes (members.filter fun m => !isPlain m.2) nodes)
    (implicit dotted : Bool) :
    Alike (Node.table implicit dotted
      ((members.filter fun m => isPlain m.2).map leafMember ++ nodes)).toTree
      (.record members) := by
  have hPlain : List.Forall₂ Finishes (members.filter fun m => isPlain m.2)
      ((members.filter fun m => isPlain m.2).map leafMember) := by
    rw [List.forall₂_map_right_iff]
    exact List.forall₂_same.mpr fun m _ => ⟨rfl, .refl m.2⟩
  -- the finished members, sorted as the members were before the plain ones went to the front
  have hPerm := List.filter_append_perm (fun m : String × Tree => isPlain m.2) members
  obtain ⟨sorted, hSorted, hPerm'⟩ := List.perm_comp_forall₂ hPerm.symm (List.rel_append hPlain h)
  rw [Node.toTree_table]
  refine .record (hPerm'.symm.map _) ?_ ?_
  · rw [List.map_map, ← List.forall₂_eq_eq_eq, List.forall₂_map_left_iff,
      List.forall₂_map_right_iff]
    exact hSorted.flip.imp fun _ _ hn => hn.1
  · rw [List.map_map, List.forall₂_map_left_iff, List.forall₂_map_right_iff]
    exact hSorted.flip.imp fun _ _ hn => hn.2

/-! ## Regular trees -/

/-- The sections of a member add a node to its table that finishes as the member. The table need not
be there before. -/
def AddsMember (d : Nat) (t : Tree) : Prop :=
  ∀ ⦃path : List String⦄ ⦃key : String⦄ ⦃sections : List String⦄,
    path.length + d < nestingLimit → memberSections path key t = some sections →
    ∀ ⦃root : Node⦄ ⦃implicit : Bool⦄ ⦃pre : List (String × Node)⦄ ⦃C : Node → Node⦄,
      Focuses root path (.table implicit false pre) C → IsContext C path →
      key ∉ pre.map (·.1) →
      ∃ n, Adds sections root (memberContext C implicit pre key n) ∧ Alike n.toTree t

/-- The sections of an item add a node to a list of tables that finishes as the item. -/
def AddsItem (d : Nat) (t : Tree) : Prop :=
  ∀ ⦃path : List String⦄ ⦃sections : List String⦄,
    path ≠ [] → path.length + d < nestingLimit → writeTable path true t = some sections →
    ∀ ⦃root : Node⦄ ⦃C : Node → Node⦄,
      root.openItem path = some (C (.table false false [])) → IsContext C path →
      ∃ n, Adds sections root (C n) ∧ Alike n.toTree t

/-- The tree in which nodes have been added to a table. It is as before if there are none. -/
def addNodes (root : Node) (C : Node → Node) (implicit : Bool) (pre : List (String × Node)) :
    List (String × Node) → Node
  | [] => root
  | n :: ns => C (.table implicit false (pre ++ n :: ns))

theorem addNodes_of_eq {root : Node} {C : Node → Node} {implicit : Bool}
    {pre : List (String × Node)} (hRoot : root = C (.table implicit false pre))
    (nodes : List (String × Node)) :
    addNodes root C implicit pre nodes = C (.table implicit false (pre ++ nodes)) := by
  cases nodes with
  | nil => rw [List.append_nil, ← hRoot, addNodes]
  | cons => rfl

section Members

variable {d : Nat} {members : List (String × Tree)} {path : List String}
  (hLength : path.length + d < nestingLimit)
  (ih : ∀ m ∈ members, isPlain m.2 = false → AddsMember d m.2)
include hLength ih

/-- The sections below a table add nodes to it, one after the other. -/
theorem adds_below {sections : List (List String)}
    (h : List.Forall₂ (fun m here => memberSections path m.1 m.2 = some here) members sections)
    {root : Node} {implicit : Bool} {C : Node → Node} (pre : List (String × Node))
    (hFocus : Focuses root path (.table implicit false pre) C) (hC : IsContext C path)
    (hNames : (pre.map (·.1) ++ (members.filter fun m => !isPlain m.2).map (·.1)).Nodup) :
    ∃ nodes, Adds sections.flatten root (addNodes root C implicit pre nodes) ∧
      List.Forall₂ Finishes (members.filter fun m => !isPlain m.2) nodes := by
  -- from member to member the table grows by the node of the last one, and the tree around it stays
  induction h generalizing root pre with
  | nil => exact ⟨[], .refl root, .nil⟩
  | @cons m here members sections hHere _ ih' =>
    have hRest : ∀ m' ∈ members, isPlain m'.2 = false → AddsMember d m'.2 :=
      fun m' hm => ih m' (List.mem_cons_of_mem _ hm)
    cases hPlain : isPlain m.2 with
    | true =>
      -- a plain member stands in a line, and has no sections
      rw [memberSections_of_isPlain hPlain] at hHere
      obtain rfl : [] = here := Option.some.inj hHere
      simp only [List.filter_cons, hPlain] at hNames ⊢
      exact ih' hRest pre hFocus hNames
    | false =>
      -- another member makes the table grow by its node
      simp only [List.filter_cons, hPlain, Bool.not_false, if_true] at hNames ⊢
      have hFresh : m.1 ∉ pre.map (·.1) := Node.fresh_of_nodup hNames
      obtain ⟨n, hAdds, hAlike⟩ :=
        ih m List.mem_cons_self hPlain hLength hHere hFocus hC hFresh
      obtain ⟨nodes, hAdds', hFinish⟩ := ih' hRest (pre ++ [(m.1, n)])
        (hC implicit _) (by simpa using hNames)
      rw [addNodes_of_eq rfl, List.append_assoc] at hAdds'
      exact ⟨(m.1, n) :: nodes, hAdds.trans hAdds', .cons ⟨rfl, hAlike⟩ hFinish⟩

/-- The lines of an empty table and the sections below it fill it. -/
theorem leads_content (hRegular : ∀ m ∈ members, Regular d m.2)
    (hNames : (members.map (·.1)).Nodup) {ws below : List String}
    (hws : writePlain members = some ws) (hBelow : writeBelow path members = some below)
    {C : Node → Node} (hC : IsContext C path) :
    ∃ n header', Leads (memberLines ws ++ sectionsText below) path
      (C (.table false false [])) header' (C n) ∧ Alike n.toTree (.record members) := by
  rw [writeBelow_eq] at hBelow
  obtain ⟨parts, hParts, rfl⟩ := Option.map_eq_some_iff.mp hBelow
  -- the plain members and the others have different names, so each is new where it is added
  have hSplit := List.filter_append_perm (fun m : String × Tree => isPlain m.2) members
  have hNodup : ((members.filter fun m => isPlain m.2).map (·.1) ++
      (members.filter fun m => !isPlain m.2).map (·.1)).Nodup := by
    rw [← List.map_append]
    exact (hSplit.map _).nodup_iff.mpr hNames
  have hLeaves : ((members.filter fun m => isPlain m.2).map leafMember).map (·.1) =
      (members.filter fun m => isPlain m.2).map (·.1) := by
    rw [List.map_map]
    rfl
  have hRead : List.Forall₂ (MemberReadsBack 0) (members.filter fun m => isPlain m.2) ws :=
    memberReadsBack_of_regular (fun m hm => hRegular m (List.mem_of_mem_filter hm)) hws (by omega)
  have hPlain := leads_members hC hRead false [] (List.nodup_append.mp hNodup).1
  rw [List.nil_append] at hPlain
  obtain ⟨nodes, hAdds, hFinish⟩ := adds_below hLength ih (Traversal.mapM_eq_some_iff.mp hParts)
    _ (hC false _) hC (by rw [hLeaves]; exact hNodup)
  rw [addNodes_of_eq rfl] at hAdds
  obtain ⟨header', hLeads⟩ := hAdds path
  exact ⟨_, header', hPlain.trans hLeads, alike_toTree hFinish false false⟩

/-- A header that opens a table, the lines of the table and the sections below it. -/
theorem adds_headed (hRegular : ∀ m ∈ members, Regular d m.2)
    (hNames : (members.map (·.1)).Nodup) {ws below : List String}
    (hws : writePlain members = some ws) (hBelow : writeBelow path members = some below)
    {line : String} {root : Node} {C : Node → Node} (hC : IsContext C path)
    (hLine : ∀ header, Leads (line.toList ++ ['\n']) header root path
      (C (.table false false []))) :
    ∃ n, Adds (writeLines (line :: ws) :: below) root (C n) ∧ Alike n.toTree (.record members) := by
  obtain ⟨n, header', hLeads, hAlike⟩ := leads_content hLength ih hRegular hNames hws hBelow hC
  have hText : sectionsText (writeLines (line :: ws) :: below) =
      ['\n'] ++ ((line.toList ++ ['\n']) ++ (memberLines ws ++ sectionsText below)) := by
    simp [sectionsText, toList_writeLines, memberLines]
  refine ⟨n, fun header => ⟨header', ?_⟩, hAlike⟩
  rw [hText]
  exact (leads_blank header root).trans ((hLine header).trans hLeads)

end Members

section Records

variable {d : Nat} {members : List (String × Tree)} (hRegular : ∀ m ∈ members, Regular d m.2)
  (hNames : (members.map (·.1)).Nodup)
  (ih : ∀ m ∈ members, isPlain m.2 = false → AddsMember d m.2)
include hRegular hNames ih

/-- A record in a list of tables. -/
theorem addsItem_record : AddsItem (d + 1) (.record members) := by
  intro path sections hne hLength hSections root C hOpen hC
  obtain ⟨head, below, hHead, hBelow, rfl⟩ := exists_of_writeTable hSections
  rw [tableHead_item] at hHead
  obtain ⟨ws, hws, rfl⟩ := Option.map_eq_some_iff.mp hHead
  exact adds_headed (by omega) ih hRegular hNames hws hBelow hC fun _ =>
    leads_itemHeader hne (by omega) hOpen

/-- A record among the members of a table. If all its members are tables it has no header: its first
table brings it into being. -/
theorem addsMember_record : AddsMember (d + 1) (.record members) := by
  intro path key sections hLength hSections root implicit pre C hFocus hC hKey
  have hne : path ++ [key] ≠ [] := List.append_ne_nil_of_right_ne_nil path (List.cons_ne_nil key [])
  have hPath : (path ++ [key]).length = path.length + 1 := List.length_append
  obtain ⟨head, below, hHead, hBelow, rfl⟩ := exists_of_writeTable hSections
  rw [tableHead_table hne] at hHead
  obtain ⟨ws, hws, hHead⟩ := Option.map_eq_some_iff.mp hHead
  by_cases hHeaderless : ws = [] ∧ members ≠ []
  · -- the sections below are read in a place where no table is yet
    obtain ⟨rfl, hMembers⟩ := hHeaderless
    rw [if_pos ⟨rfl, hMembers⟩] at hHead
    subst hHead
    have hPlain : (members.filter fun m => isPlain m.2) = [] :=
      List.forall₂_nil_right_iff.mp (forall₂_of_writeInline hws)
    rw [writeBelow_eq] at hBelow
    obtain ⟨parts, hParts, rfl⟩ := Option.map_eq_some_iff.mp hBelow
    have hNodup : ((members.filter fun m => !isPlain m.2).map (·.1)).Nodup :=
      hNames.sublist (List.filter_sublist.map _)
    obtain ⟨nodes, hAdds, hFinish⟩ := adds_below (by omega) ih
      (Traversal.mapM_eq_some_iff.mp hParts) [] (hFocus.child hKey) (hC.child hKey) hNodup
    have hAlike := alike_toTree hFinish true false
    rw [hPlain] at hAlike
    cases nodes with
    | nil =>
      -- there is a member, and it is no plain one
      have hSplit := List.filter_append_perm (fun m : String × Tree => isPlain m.2) members
      rw [hPlain, List.forall₂_nil_right_iff.mp hFinish] at hSplit
      exact absurd hSplit.symm.eq_nil hMembers
    | cons n ns => exact ⟨_, hAdds, hAlike⟩
  · -- the table has a header, and its lines and sections come below it
    rw [if_neg hHeaderless] at hHead
    subst hHead
    exact adds_headed (by omega) ih hRegular hNames hws hBelow (hC.child hKey) fun _ =>
      leads_header hne (by omega) (hFocus.openTable hKey)

end Records

/-- The items of a list of tables are added one after the other. -/
theorem adds_items {d : Nat} {path : List String} {key : String}
    (hLength : path.length + 1 + d < nestingLimit) {items : List Tree}
    {sections : List (List String)} (hne : items ≠ [])
    (h : List.Forall₂ (fun t here => writeTable (path ++ [key]) true t = some here) items sections)
    (ih : ∀ t ∈ items, AddsItem d t) {root : Node} {implicit : Bool}
    {pre : List (String × Node)} {C : Node → Node} (hC : IsContext C path)
    (hKey : key ∉ pre.map (·.1)) (done : List Node)
    (hOpen : root.openItem (path ++ [key]) = some (memberContext C implicit pre key
      (.tables (done ++ [.table false false []])))) :
    ∃ nodes, Adds sections.flatten root
        (memberContext C implicit pre key (.tables (done ++ nodes))) ∧
      List.Forall₂ (fun n t => Alike n.toTree t) nodes items := by
  -- each item opens the list at the place where the one before it has left it
  induction h generalizing root done with
  | nil => exact absurd rfl hne
  | @cons t here items sections hHere hRest ih' =>
    have hPath : (path ++ [key]).length = path.length + 1 := List.length_append
    obtain ⟨n, hAdds, hAlike⟩ := ih t List.mem_cons_self
      (List.append_ne_nil_of_right_ne_nil path (List.cons_ne_nil key [])) (by omega) hHere
      hOpen (hC.item hKey done)
    cases hRest with
    | nil => exact ⟨[n], by simpa using hAdds, .cons hAlike .nil⟩
    | @cons t' here' items sections hHere' hRest =>
      -- the next item opens the list again
      obtain ⟨nodes, hAdds', hAlikes⟩ := ih' (List.cons_ne_nil t' items)
        (fun t ht => ih t (List.mem_cons_of_mem _ ht)) (done ++ [n])
        (hC.openItem hKey (done ++ [n]))
      rw [List.append_assoc] at hAdds'
      exact ⟨n :: nodes, hAdds.trans hAdds', .cons hAlike hAlikes⟩

/-- A list of tables among the members of a table. -/
theorem addsMember_list {d : Nat} {items : List Tree} (hTables : isTables (.list items) = true)
    (ih : ∀ t ∈ items, AddsItem d t) : AddsMember (d + 1) (.list items) := by
  intro path key sections hLength hSections root implicit pre C hFocus hC hKey
  have hne : items ≠ [] := by
    rintro rfl
    cases hTables
  rw [memberSections, if_pos hTables, writeTables_eq] at hSections
  obtain ⟨parts, hParts, rfl⟩ := Option.map_eq_some_iff.mp hSections
  obtain ⟨nodes, hAdds, hAlike⟩ := adds_items (by omega) hne
    (Traversal.mapM_eq_some_iff.mp hParts) ih hC hKey [] (hFocus.openItem hKey)
  refine ⟨.tables nodes, hAdds, ?_⟩
  rw [Node.toTree_tables]
  exact .list (List.forall₂_map_left_iff.mpr hAlike)

/-- The sections of a regular tree add a node that finishes as the tree, as a member of a table and
as an item of a list. -/
theorem addsSections_of_regular {d : Nat} {t : Tree} (h : Regular d t) :
    (isPlain t = false → AddsMember d t) ∧ (isTable t = true → AddsItem d t) := by
  induction h with
  | bool | int | text => exact ⟨nofun, nofun⟩
  | @list d items _ ih =>
    refine ⟨fun hPlain => ?_, nofun⟩
    have hTables : isTables (.list items) = true := by simpa [isPlain, isTable] using hPlain
    exact addsMember_list hTables fun t ht => (ih t ht).2 (isTable_of_mem hTables ht)
  | @record d members hNames hMembers ih =>
    have hBelow : ∀ m ∈ members, isPlain m.2 = false → AddsMember d m.2 :=
      fun m hm => (ih m hm).1
    exact ⟨fun _ => addsMember_record hMembers hNames hBelow,
      fun _ => addsItem_record hMembers hNames hBelow⟩

/-! ## Documents -/

/-- What is read begins with no byte order mark. -/
theorem readLines_mark (fuel : Nat) (header : List String) (root : Node) (cs : List Char) :
    readLines fuel header root ('\ufeff' :: cs) = none := by
  cases fuel with
  | zero => rfl
  | succ fuel => rfl

/-- The sections of a record fill the tree of the document, which is empty at first. -/
theorem leads_document {d : Nat} {members : List (String × Tree)}
    (h : Regular d (.record members)) (hd : d < nestingLimit) {sections : List String}
    (hSections : writeTable [] false (.record members) = some sections) :
    ∃ n header', Leads (sectionsText sections) [] (.table false false []) header' n ∧
      Alike n.toTree (.record members) := by
  obtain ⟨head, below, hHead, hBelow, rfl⟩ := exists_of_writeTable hSections
  rw [tableHead_root] at hHead
  obtain ⟨ws, hws, rfl⟩ := Option.map_eq_some_iff.mp hHead
  cases h with
  | @record d _ hNames hMembers =>
    have hLength : ([] : List String).length + d < nestingLimit := by
      rw [List.length_nil]
      omega
    obtain ⟨n, header', hLeads, hAlike⟩ := leads_content hLength
      (fun m hm => (addsSections_of_regular (hMembers m hm)).1) hMembers hNames hws hBelow
      isContext_id
    refine ⟨n, header', ?_, hAlike⟩
    split
    next hNone =>
      -- no line stands outside of the tables
      rw [hNone] at hLeads
      exact hLeads
    next =>
      -- the lines outside of the tables come behind a blank one
      have hText : sectionsText ([writeLines ws] ++ below) =
          ['\n'] ++ (memberLines ws ++ sectionsText below) := by
        simp [sectionsText, toList_writeLines, memberLines]
      rw [hText]
      exact (leads_blank [] _).trans hLeads

/-- **Documents are read back.** What is written for a regular record that is not
nested too deeply is read as that record, up to the order of members. -/
theorem read_write {d : Nat} {members : List (String × Tree)} (h : Regular d (.record members))
    (hd : d < nestingLimit) {s : String} (hs : write (.record members) = some s) :
    ∃ t, read s = some t ∧ Alike t (.record members) := by
  obtain ⟨sections, hSections, rfl⟩ := Option.map_eq_some_iff.mp hs
  obtain ⟨n, header', hLeads, hAlike⟩ := leads_document h hd hSections
  have hLines : readLines (("\n".intercalate sections).toList.length + 1) []
      (.table false false []) ("\n".intercalate sections).toList = some n := by
    by_cases hNone : sections = []
    · -- an empty document leaves the empty table
      subst hNone
      obtain ⟨fuel', hFuel', hRead⟩ := hLeads 1 [] Nat.one_pos
      obtain ⟨fuel', rfl⟩ := Nat.exists_eq_add_one.mpr hFuel'
      exact hRead
    · -- a blank line before the document changes nothing
      have hText := sectionsText_eq hNone
      obtain ⟨fuel', hFuel', hRead⟩ := hLeads (("\n".intercalate sections).toList.length + 2) []
        (by rw [← hText]; simp)
      obtain ⟨fuel', rfl⟩ := Nat.exists_eq_add_one.mpr hFuel'
      rw [← hText, List.append_nil] at hRead
      exact hRead
  refine ⟨n.toTree, ?_, hAlike⟩
  unfold read
  split
  next cs hMark =>
    -- a document that can be read has no mark that could be dropped
    rw [hMark, readLines_mark] at hLines
    cases hLines
  next =>
    dsimp only
    rw [hLines, Option.map_some]

end StreamVerdict.Toml
