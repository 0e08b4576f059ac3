import StreamVerdict.Text.Letter
import StreamVerdict.Text.Quoted

/-!
# Events

An event is a list of named texts that a source delivers. Names are put into lower case when the
event is made, and looked up without regard to the case of the letters A to Z. Where a name
comes twice, its first field counts.
-/

namespace StreamVerdict

/-- A list of named texts, in the order in which they arrived. -/
structure Event where
  fields : List (String × String)
  deriving DecidableEq

namespace Event

/-- The field that holds the name of an event. -/
def nameField : String := "event"

/-- The field that holds the text of an event made of one text. -/
def valueField : String := "value"

/-- An event of named texts. -/
def ofPairs (pairs : List (String × String)) : Event :=
  ⟨pairs.map fun (name, value) => (Text.lowercase name, value)⟩

/-- An event of one text. -/
def ofText (value : String) : Event :=
  ⟨[(valueField, value)]⟩

/-- The value of the first field of a name. -/
def get? (e : Event) (name : String) : Option String :=
  (e.fields.find? fun (k, _) => Text.sameAscii k name).map (·.2)

/-- Whether there is a field of a name. -/
def contains (e : Event) (name : String) : Bool :=
  (e.get? name).isSome

/-- The name of the event, if it has one. -/
def name? (e : Event) : Option String :=
  e.get? nameField

/-- The event in braces, with its values quoted. -/
def describe (e : Event) : String :=
  "\x7b" ++ ", ".intercalate (e.fields.map fun (k, v) => k ++ ": " ++ Text.quote v) ++ "\x7d"

end Event

end StreamVerdict
