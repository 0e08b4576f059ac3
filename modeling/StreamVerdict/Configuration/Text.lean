import StreamVerdict.Configuration.Encode
import StreamVerdict.Json.Read
import StreamVerdict.Json.Write
import StreamVerdict.Toml.Read
import StreamVerdict.Toml.Write

/-!
# Configurations as texts

A plan is read from a text in either of two formats and written in either of them.
-/

namespace StreamVerdict

/-- In JSON a list that stands for a structure has no items to spare, and null stands beside the
name of a choice. -/
def Json.style : Tree.Style where
  allowsSpare := false
  isEmptyChoice
    | .null => true
    | _ => false

/-- In TOML items to spare are passed over, and nothing stands beside the name of a choice. -/
def Toml.style : Tree.Style where
  allowsSpare := true
  isEmptyChoice
    | .list [] | .record [] => true
    | _ => false

/-- Reads a value from a JSON text. -/
def Json.decode? {α : Type} (f : Tree.Style → Tree → Option α) (s : String) : Option α :=
  (Json.read s).bind (f Json.style)

namespace Plan

/-- Reads a plan from a JSON text. The reason of the error stops short: the place and the cause of
the failure, in the words of the reader of the format, are left out behind it. -/
def ofJson (s : String) : Except Error Plan :=
  match Json.decode? Plan.ofTree? s with
  | some p => .ok p
  | none => .error (.configuration "failed to parse config")

/-- Reads a plan from a TOML text. The reason of the error stops short as it does for JSON. -/
def ofToml (s : String) : Except Error Plan :=
  match (Toml.read s).bind (Plan.ofTree? Toml.style) with
  | some p => .ok p
  | none => .error (.configuration "failed to parse config")

/-- Writes a plan as a TOML text. Numbers of 64 bits without a sign may be too large for it. The
reason of the error stops short of the words of the writer of the format. -/
def toToml (p : Plan) : Except Error String :=
  match Toml.write p.toTree with
  | some s => .ok s
  | none => .error (.configuration "failed to serialize config")

end Plan

end StreamVerdict
