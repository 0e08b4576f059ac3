import StreamVerdict.Unicode.Age
import StreamVerdict.Unicode.Binary
import StreamVerdict.Unicode.Category
import StreamVerdict.Unicode.Script
import StreamVerdict.Unicode.ScriptExtension

/-!
# Character properties by name

A property is asked for by name, as in `Greek` or `Lu`, or by name and value, as in
`script=Greek`. Names match loosely: case, blanks, hyphens, underscores and a leading `is` do
not count.
-/

namespace StreamVerdict.Unicode

/-- A property that a character has or lacks. -/
inductive Property where
  | any
  | assigned
  | ascii
  | category (name : String)
  | script (name : String)
  | scriptExtension (name : String)
  | binary (name : String)
  | age (version : String)
  deriving DecidableEq

/-- The form of a name in which loose matching compares it. The name `isc` keeps its first two
letters, since `c` alone names something else. -/
def looseName (name : List Char) : String :=
  let (isLed, body) := match name with
    | i :: s :: rest => if i.toLower = 'i' && s.toLower = 's' then (true, rest) else (false, name)
    | _ => (false, name)
  let kept := (body.filter fun c => c.toNat < 128 && !(c = ' ' || c = '_' || c = '-')).map
    Char.toLower
  if isLed && kept = ['c'] then "isc" else String.ofList kept

namespace Property

/-- The entry that a family of named sets holds for a name in loose form. -/
private def lookIn (family : List NamedTable) (make : String → Property) (name : String) :
    Option Property :=
  (NamedTable.find? family name).map fun _ => make name

/-- A general category, or one of the three sets that count as categories. -/
def category? (name : String) : Option Property :=
  if name = "any" then some .any
  else if name = "assigned" then some .assigned
  else if name = "ascii" then some .ascii
  else lookIn categories .category name

/-- The property that a bare name stands for. Yes-or-no properties come first, then general
categories, then scripts; `cf`, `sc` and `lc` always mean the categories. -/
def byName? (name : List Char) : Option Property :=
  let loose := looseName name
  let binary := if loose = "cf" || loose = "sc" || loose = "lc" then none
    else lookIn binaryProperties .binary loose
  binary <|> category? loose <|> lookIn scripts .script loose

/-- The property that a name with a value stands for. -/
def byValue? (name value : List Char) : Option Property :=
  let loose := looseName value
  match looseName name with
  | "gc" | "generalcategory" => category? loose
  | "sc" | "script" => lookIn scripts .script loose
  | "scx" | "scriptextensions" => lookIn scriptExtensions .scriptExtension loose
  | "age" => lookIn ages .age loose
  | _ => none

/-- The characters of a named set of a family. -/
private def tableOf (family : List NamedTable) (name : String) : RangeTable :=
  match NamedTable.find? family name with
  | some t => t.table
  | none => ⟨[]⟩

/-- The characters that have the property. -/
def table : Property → RangeTable
  | any => ⟨[0]⟩
  | assigned => ⟨0 :: (tableOf categories "cn").bounds⟩
  | ascii => ⟨[0, 128]⟩
  | category name => tableOf categories name
  | script name => tableOf scripts name
  | scriptExtension name => tableOf scriptExtensions name
  | binary name => tableOf binaryProperties name
  | age version => tableOf ages version

/-- Whether a character has the property. -/
def holds (p : Property) (c : Char) : Bool :=
  p.table.contains c

end Property

end StreamVerdict.Unicode
