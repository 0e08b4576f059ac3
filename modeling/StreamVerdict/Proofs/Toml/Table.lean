import StreamVerdict.Proofs.Tree.Alike
import StreamVerdict.Toml.Table

/-!
# Building tables in place

The lines of a document change a tree of tables at the end of a path. What a
change at that place comes to for the whole tree is said by a function from the
node at that place to the tree. A table that is entered in passing stands at its
place before it is there: it comes into being with the first change below it.

Main definitions:

* `Toml.Focuses` — a change at the end of a path, as a change of one node;
* `Toml.IsContext` — a tree with a place for a table at the end of a path.

Main results:

* `Toml.Focuses.child` — the place for a table that is not yet there;
* `Toml.IsContext.child` / `Toml.IsContext.item` — a table among the members of
  another, and the last table of a list;
* `Toml.Focuses.addUnder` / `Toml.Focuses.openTable` /
  `Toml.Focuses.openItem` — what the lines of a document do to a tree.
-/

namespace StreamVerdict.Toml

namespace Node

/-! ## Finished nodes -/

@[simp] theorem toTree_leaf (t : Tree) : (leaf t).toTree = t := rfl

@[simp] theorem toTree_table (implicit dotted : Bool) (members : List (String × Node)) :
    (table implicit dotted members).toTree =
      .record (members.map fun m => (m.1, m.2.toTree)) := by
  rw [toTree]
  induction members with
  | nil => rfl
  | cons m ms ih =>
    rw [membersToTrees, List.map_cons, ← Tree.record.inj ih]

@[simp] theorem toTree_tables (items : List Node) :
    (tables items).toTree = .list (items.map toTree) := by
  rw [toTree]
  induction items with
  | nil => rfl
  | cons n ns ih => rw [itemsToTrees, List.map_cons, ← Tree.list.inj ih]

/-! ## Members -/

variable {members : List (String × Node)} {key : String}

/-- Names that follow those of a table, and differ from them, are fresh in it. -/
theorem fresh_of_nodup {names rest : List String} {key : String}
    (h : (names ++ key :: rest).Nodup) : key ∉ names :=
  fun hMem => (List.nodup_append.mp h).2.2 key hMem key List.mem_cons_self rfl

theorem member?_of_fresh (h : key ∉ members.map (·.1)) : member? members key = none := by
  rw [member?, Option.map_eq_none_iff, List.find?_eq_none]
  intro m hm hEq
  exact h (List.mem_map.mpr ⟨m, hm, eq_of_beq hEq⟩)

theorem member?_last (h : key ∉ members.map (·.1)) (n : Node) :
    member? (members ++ [(key, n)]) key = some n := by
  have hNone : members.find? (·.1 == key) = none := Option.map_eq_none_iff.mp (member?_of_fresh h)
  simp [member?, hNone]

theorem setMember_of_fresh (h : key ∉ members.map (·.1)) (n : Node) :
    setMember members key n = members ++ [(key, n)] := by
  refine if_neg ?_
  rw [List.any_eq_true]
  rintro ⟨m, hm, hEq⟩
  exact h (List.mem_map.mpr ⟨m, hm, eq_of_beq hEq⟩)

theorem setMember_last (h : key ∉ members.map (·.1)) (n n' : Node) :
    setMember (members ++ [(key, n)]) key n' = members ++ [(key, n')] := by
  have hKept : (members.map fun m => if m.1 == key then (key, n') else m) = members := by
    refine (List.map_congr_left fun m hm => if_neg fun hEq => ?_).trans (List.map_id members)
    exact h (List.mem_map.mpr ⟨m, hm, eq_of_beq hEq⟩)
  rw [setMember, if_pos (by simp), List.map_append, hKept]
  simp

/-! ## Paths -/

/-- A path in two parts is followed part by part. -/
theorem descend_append (dotted : Bool) (change : Node → Option Node) (path path' : List String)
    (n : Node) : descend dotted change (path ++ path') n =
      descend dotted (descend dotted change path') path n := by
  induction path generalizing n with
  | nil => rw [List.nil_append, descend]
  | cons key path ih =>
    cases n with
    | leaf | tables => rfl
    | table implicit isDotted members =>
      simp only [List.cons_append, descend, ih]

variable (change : Node → Option Node) (implicit : Bool)

/-- A table that is missing comes into being if something is changed in it. -/
theorem descend_fresh (h : key ∉ members.map (·.1)) :
    descend false change [key] (.table implicit false members) =
      (change (.table true false [])).map
        fun n => .table implicit false (members ++ [(key, n)]) := by
  rw [descend, member?_of_fresh h]
  simp only [setMember_of_fresh h, descend]

/-- A change in the last table among the members. -/
theorem descend_last (h : key ∉ members.map (·.1)) (inner : Bool) (ms : List (String × Node)) :
    descend false change [key]
        (.table implicit false (members ++ [(key, .table inner false ms)])) =
      (change (.table inner false ms)).map
        fun n => .table implicit false (members ++ [(key, n)]) := by
  rw [descend, member?_last h]
  simp only [setMember_last h, descend, Bool.false_and, Bool.false_eq_true, if_false]

/-- A change in the last table of the list that is the last of the members. -/
theorem descend_last_item (h : key ∉ members.map (·.1)) (items : List Node) (n : Node) :
    descend false change [key]
        (.table implicit false (members ++ [(key, .tables (items ++ [n]))])) =
      (change n).map
        fun n => .table implicit false (members ++ [(key, .tables (items ++ [n]))]) := by
  rw [descend, member?_last h]
  simp [setMember_last h, descend]

end Node

/-! ## Places in a tree -/

/-- A change at the end of the path is a change of one node, in a tree around it. -/
def Focuses (root : Node) (path : List String) (n : Node) (C : Node → Node) : Prop :=
  ∀ change, Node.descend false change path root = (change n).map C

/-- A tree with a place at the end of the path, at which any table may stand. -/
def IsContext (C : Node → Node) (path : List String) : Prop :=
  ∀ implicit members, Focuses (C (.table implicit false members)) path
    (.table implicit false members) C

/-- The whole tree is the place at the end of the empty path. -/
theorem isContext_id : IsContext id [] := by
  intro implicit members change
  rw [Node.descend, Option.map_id]
  rfl

variable {root : Node} {path : List String} {implicit : Bool} {members : List (String × Node)}
  {C : Node → Node} {key : String}

/-- The tree around a member that comes last in a table. -/
def memberContext (C : Node → Node) (implicit : Bool) (members : List (String × Node))
    (key : String) (n : Node) : Node :=
  C (.table implicit false (members ++ [(key, n)]))

/-- Where no member is yet, an empty table comes into being as soon as something changes in it. -/
theorem Focuses.child (h : Focuses root path (.table implicit false members) C)
    (hKey : key ∉ members.map (·.1)) :
    Focuses root (path ++ [key]) (.table true false []) (memberContext C implicit members key) := by
  intro change
  rw [Node.descend_append, h, Node.descend_fresh _ _ hKey, Option.map_map]
  rfl

/-- The last of the members of a table is a place for a table. -/
theorem IsContext.child (hC : IsContext C path) (hKey : key ∉ members.map (·.1)) :
    IsContext (memberContext C implicit members key) (path ++ [key]) := by
  intro inner ms change
  rw [Node.descend_append, memberContext, hC, Node.descend_last _ _ hKey, Option.map_map]
  rfl

/-- The end of a list of tables is a place for a table, if the list comes last in its table. -/
theorem IsContext.item (hC : IsContext C path) (hKey : key ∉ members.map (·.1))
    (items : List Node) :
    IsContext (fun n => memberContext C implicit members key (.tables (items ++ [n])))
      (path ++ [key]) := by
  intro inner ms change
  simp only [memberContext]
  rw [Node.descend_append, hC, Node.descend_last_item _ _ hKey, Option.map_map]
  rfl

/-! ## Lines -/

/-- A member of a table that is a finished value. -/
def leafMember (m : String × Tree) : String × Node :=
  (m.1, .leaf m.2)

/-- A key with its value adds a member to a table. -/
theorem addValue_fresh (hKey : key ∉ members.map (·.1)) (t : Tree) :
    Node.addValue [key] t (.table implicit false members) =
      some (.table implicit false (members ++ [leafMember (key, t)])) := by
  rw [Node.addValue]
  simp [Node.descend, Node.addLeaf, Node.member?_of_fresh hKey, leafMember]

/-- A key with its value adds a member to the table of the header. -/
theorem Focuses.addUnder (h : Focuses root path (.table implicit false members) C)
    (hKey : key ∉ members.map (·.1)) (t : Tree) :
    Node.addUnder path [key] t root =
      some (C (.table implicit false (members ++ [leafMember (key, t)]))) := by
  rw [Node.addUnder, h, addValue_fresh hKey]
  rfl

/-- A header opens a table that has not been there. -/
theorem Focuses.openTable (h : Focuses root path (.table implicit false members) C)
    (hKey : key ∉ members.map (·.1)) :
    Node.openTable (path ++ [key]) root =
      some (memberContext C implicit members key (.table false false [])) := by
  rw [Node.openTable, List.reverse_append]
  simp only [List.reverse_singleton, List.singleton_append, List.reverse_reverse]
  rw [h]
  simp only [Node.member?_of_fresh hKey]
  rfl

/-- A header of an item opens the first table of a list that has not been there. -/
theorem Focuses.openItem (h : Focuses root path (.table implicit false members) C)
    (hKey : key ∉ members.map (·.1)) :
    Node.openItem (path ++ [key]) root =
      some (memberContext C implicit members key (.tables [.table false false []])) := by
  rw [Node.openItem, List.reverse_append]
  simp only [List.reverse_singleton, List.singleton_append, List.reverse_reverse]
  rw [h]
  simp only [Node.member?_of_fresh hKey]
  rfl

/-- A header of an item opens the next table of the list that comes last. -/
theorem IsContext.openItem (hC : IsContext C path) (hKey : key ∉ members.map (·.1))
    (items : List Node) :
    Node.openItem (path ++ [key]) (memberContext C implicit members key (.tables items)) =
      some (memberContext C implicit members key (.tables (items ++ [.table false false []]))) := by
  rw [Node.openItem, List.reverse_append]
  simp only [List.reverse_singleton, List.singleton_append, List.reverse_reverse]
  rw [memberContext, hC]
  simp only [Node.member?_last hKey, Node.setMember_last hKey]
  rfl

end StreamVerdict.Toml
