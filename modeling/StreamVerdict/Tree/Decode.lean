import StreamVerdict.KeyMap
import StreamVerdict.Tree

/-!
# Reading values from trees

How the parts of a configuration are found in a tree. A structure is a record of its fields, or a
list of them in the order in which they are declared; fields that are not declared are passed
over. An alternative is told by the shape of a tree, which must then be readable as a whole.
-/

namespace StreamVerdict.Tree

/-- What two formats of text do not agree on. -/
structure Style where
  /-- Whether a list that stands for a structure may have items to spare. -/
  allowsSpare : Bool
  /-- What stands beside the name of a choice that is written as a record. -/
  isEmptyChoice : Tree → Bool

/-- The style in which alternatives are read, whatever the format. -/
def Style.inner (s : Style) : Style :=
  { s with allowsSpare := false }

/-- A truth value. -/
def bool? : Tree → Option Bool
  | bool b => some b
  | _ => none

/-- A text. -/
def text? : Tree → Option String
  | text s => some s
  | _ => none

/-- A natural number of 64 bits. -/
def word? : Tree → Option UInt64
  | int i => if 0 ≤ i && i < UInt64.size then some (UInt64.ofNat i.toNat) else none
  | _ => none

/-- A value, or nothing for null. -/
def orNull? {α : Type} (f : Tree → Option α) : Tree → Option (Option α)
  | null => some none
  | t => (f t).map some

/-- A list of values. -/
def list? {α : Type} (f : Tree → Option α) : Tree → Option (List α)
  | list items => items.mapM f
  | _ => none

/-- A map from texts to texts. The last entry of a name counts. -/
def textMap? : Tree → Option TextMap
  | record members => do
    let entries ← members.mapM fun (name, t) => do
      let s ← t.text?
      some (name, s)
    some (.ofList entries)
  | _ => none

/-- The first of two readings that succeeds, of a tree that is readable as a whole. -/
def either? {α : Type} (f g : Tree → Option α) (t : Tree) : Option α :=
  if t.isReadable then f t <|> g t else none

/-- One of several named choices, written as its name. It may also be written as a record that
holds the name and nothing else of note. -/
def choice? {α : Type} (s : Style) (choices : List (String × α)) (t : Tree) : Option α :=
  let named (name : String) := (choices.find? (·.1 == name)).map (·.2)
  match t with
  | text name => named name
  | record [(name, beside)] => if s.isEmptyChoice beside then named name else none
  | _ => none

/-- The parts of a structure, one for each of its fields, where they are given. No field may come
twice. -/
def fields? (s : Style) (names : List String) : Tree → Option (List (Option Tree))
  | record members =>
    if names.any fun name => 1 < members.countP (·.1 == name) then none
    else some (names.map fun name => (members.find? (·.1 == name)).map (·.2))
  | list items =>
    if names.length < items.length && !s.allowsSpare then none
    else some ((items.take names.length).map some ++
      List.replicate (names.length - items.length) none)
  | _ => none

/-- Reads a field, or takes what is meant where it is not given. -/
def orElse? {α : Type} (absent : α) (f : Tree → Option α) : Option Tree → Option α
  | none => some absent
  | some t => f t

end StreamVerdict.Tree
