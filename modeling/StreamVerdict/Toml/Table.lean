import StreamVerdict.Tree

/-!
# Building tables

Lines of a document add to a tree of tables. A table comes into being by a header of its own, or
in passing, on the way to a key; only one that came into being in passing may still get a header.
Keys with dots may add to tables that such keys made, and to no others.
-/

namespace StreamVerdict.Toml

/-- A node of a document that is being read. -/
inductive Node where
  /-- A finished value. -/
  | leaf (value : Tree)
  /-- A table. It is implicit if it came into being in passing, and dotted if that was on the way
  to a key with dots. -/
  | table (implicit dotted : Bool) (members : List (String × Node))
  /-- A list of tables that grows with every header for it. -/
  | tables (items : List Node)

namespace Node

/-- The member of a name. -/
def member? (members : List (String × Node)) (name : String) : Option Node :=
  (members.find? (·.1 == name)).map (·.2)

/-- Puts a member in place of the one of its name, or adds it. -/
def setMember (members : List (String × Node)) (name : String) (n : Node) :
    List (String × Node) :=
  if members.any (·.1 == name) then
    members.map fun m => if m.1 == name then (name, n) else m
  else members ++ [(name, n)]

/-- Follows a path of keys from a table, making the tables that are missing, and changes the table
at its end. A list of tables stands for its last one. On the way to a key with dots only implicit
tables may be passed. -/
def descend (dotted : Bool) (change : Node → Option Node) : List String → Node → Option Node
  | [], n => change n
  | key :: keys, .table implicit isDotted members =>
    let set (n : Node) : Node := .table implicit isDotted (setMember members key n)
    match member? members key with
    | none => (descend dotted change keys (.table true dotted [])).map set
    | some (.leaf _) => none
    | some (.tables items) =>
      match items.reverse with
      | [] => none
      | last :: earlier =>
        -- the table opened last is the one that is being filled
        (descend dotted change keys last).map fun n => set (.tables ((n :: earlier).reverse))
    | some (.table inner innerDotted ms) =>
      if dotted && !inner then none
      else (descend dotted change keys (.table inner innerDotted ms)).map set
  | _ :: _, _ => none

/-- Adds a value to a table under a new key. `direct` says that the key has no dots; with dots the
table must be one that such keys made. -/
def addLeaf (direct : Bool) (key : String) (value : Tree) : Node → Option Node
  | .table implicit dotted members =>
    if dotted == direct || (member? members key).isSome then none
    else some (.table implicit dotted (members ++ [(key, .leaf value)]))
  | _ => none

/-- Adds a value under a key that may have dots. -/
def addValue (key : List String) (value : Tree) (n : Node) : Option Node :=
  match key.reverse with
  | [] => none
  | last :: path =>
    descend true (addLeaf path.isEmpty last value) path.reverse n

/-- Opens a table by a header. -/
def openTable (path : List String) (n : Node) : Option Node :=
  match path.reverse with
  | [] => none
  | last :: parents =>
    let change : Node → Option Node
      | .table implicit dotted members =>
        match member? members last with
        | none => some (.table implicit dotted (members ++ [(last, .table false false [])]))
        | some (.table true false ms) =>
          some (.table implicit dotted (setMember members last (.table false false ms)))
        | some _ => none
      | _ => none
    descend false change parents.reverse n

/-- Opens the next table of a list by a header. -/
def openItem (path : List String) (n : Node) : Option Node :=
  match path.reverse with
  | [] => none
  | last :: parents =>
    let fresh : Node := .table false false []
    let change : Node → Option Node
      | .table implicit dotted members =>
        match member? members last with
        | none => some (.table implicit dotted (members ++ [(last, .tables [fresh])]))
        | some (.tables items) =>
          some (.table implicit dotted (setMember members last (.tables (items ++ [fresh]))))
        | some _ => none
      | _ => none
    descend false change parents.reverse n

/-- Adds a value to the table whose header was read last. -/
def addUnder (header : List String) (key : List String) (value : Tree) (n : Node) :
    Option Node :=
  descend false (addValue key value) header n

mutual

/-- The finished value of a node. -/
def toTree : Node → Tree
  | leaf value => value
  | table _ _ members => .record (membersToTrees members)
  | tables items => .list (itemsToTrees items)

/-- The finished members of a table. -/
def membersToTrees : List (String × Node) → List (String × Tree)
  | [] => []
  | (name, n) :: ms => (name, n.toTree) :: membersToTrees ms

/-- The finished items of a list of tables. -/
def itemsToTrees : List Node → List Tree
  | [] => []
  | n :: ns => n.toTree :: itemsToTrees ns

end

end Node

end StreamVerdict.Toml
