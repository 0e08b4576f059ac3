import StreamVerdict.Error
import StreamVerdict.Event

/-!
# Callbacks

A callback decides about an event. Configurations refer to callbacks by name.
-/

namespace StreamVerdict

/-- A decision about an event. -/
abbrev Callback := Event → Bool

/-- Callbacks by name, in the order in which the names were first registered. -/
structure CallbackRegistry where
  entries : List (String × Callback) := []

namespace CallbackRegistry

/-- Adds a callback. It takes the place of an earlier one of its name. -/
def register (r : CallbackRegistry) (name : String) (callback : Callback) : CallbackRegistry :=
  if r.entries.any (·.1 == name) then
    ⟨r.entries.map fun entry => if entry.1 == name then (name, callback) else entry⟩
  else
    ⟨r.entries ++ [(name, callback)]⟩

/-- Whether a name is registered. -/
def contains (r : CallbackRegistry) (name : String) : Bool :=
  r.entries.any (·.1 == name)

/-- The callback of a name. -/
def get (r : CallbackRegistry) (name : String) : Except Error Callback :=
  match r.entries.find? (·.1 == name) with
  | some (_, callback) => .ok callback
  | none => .error (.unknownCallback name)

/-- The names, by code points. -/
def names (r : CallbackRegistry) : List String :=
  (r.entries.map (·.1)).mergeSort fun a b => !(b < a : Bool)

end CallbackRegistry

end StreamVerdict
