/-!
# Trees of data

A configuration is read from a text and written to one through a tree of plain values, whatever
the format of the text.
-/

namespace StreamVerdict

/-- A tree of plain values. -/
inductive Tree where
  | null
  | bool (b : Bool)
  | int (i : Int)
  /-- A number that is no integer, or none in reach. No configuration holds one. -/
  | real
  | text (s : String)
  | list (items : List Tree)
  /-- Named members, in the order in which they were given. A name may come twice. -/
  | record (members : List (String × Tree))
  /-- A well-formed piece of text that denotes no value. It can be passed over but not read. -/
  | unreadable

namespace Tree

mutual

/-- Whether the whole tree can be read. -/
def isReadable : Tree → Bool
  | unreadable => false
  | list items => areReadable items
  | record members => membersReadable members
  | null | bool _ | int _ | real | text _ => true

/-- Whether all trees of a list can be read. -/
def areReadable : List Tree → Bool
  | [] => true
  | t :: ts => t.isReadable && areReadable ts

/-- Whether all members can be read. -/
def membersReadable : List (String × Tree) → Bool
  | [] => true
  | (_, t) :: ms => t.isReadable && membersReadable ms

end

end Tree

end StreamVerdict
