import StreamVerdict.Error
import StreamVerdict.KeyMap
import StreamVerdict.Log
import StreamVerdict.Verdict

/-!
# Checks

A check is carried out before or after a test and keeps a verdict of its own. What kind of check
it is, and what it remembers, is its body. It may be tied to capabilities of the system under
test, without which it is skipped.
-/

namespace StreamVerdict

/-- The identity of a check and when it is carried out. -/
structure CheckInfo where
  name : String
  enabled : Bool := true
  /-- Whether a pass is expected. The failure of a check that is expected to fail is a warning. -/
  passExpected : Bool := true
  /-- The value that each of some capabilities must have. -/
  requirements : TextMap := .empty
  deriving DecidableEq

namespace CheckInfo

/-- Asks for a value of a capability. -/
def requiring (i : CheckInfo) (capability value : String) : CheckInfo :=
  { i with requirements := i.requirements.insert capability value }

/-- Turns the check off. -/
def disabled (i : CheckInfo) : CheckInfo :=
  { i with enabled := false }

/-- Expects the check to fail. -/
def expectingFailure (i : CheckInfo) : CheckInfo :=
  { i with passExpected := false }

end CheckInfo

/-- The options of the system under test. -/
structure Capabilities where
  options : TextMap := .empty
  deriving DecidableEq

namespace Capabilities

/-- Sets an option. -/
def set (c : Capabilities) (name value : String) : Capabilities :=
  ⟨c.options.insert name value⟩

/-- Switches an option on. -/
def enable (c : Capabilities) (name : String) : Capabilities :=
  c.set name "1"

/-- The value of an option. -/
def get? (c : Capabilities) (name : String) : Option String :=
  c.options.get? name

/-- Whether every capability that a check asks for has the value it must have. -/
def satisfies (c : Capabilities) (i : CheckInfo) : Bool :=
  i.requirements.entries.all fun (name, value) => c.get? name == some value

/-- Whether a check is to be carried out. -/
def admits (c : Capabilities) (i : CheckInfo) : Bool :=
  i.enabled && c.satisfies i

end Capabilities

/-- A check with a body of the type `κ`. -/
structure Check (κ : Type) where
  info : CheckInfo
  verdict : Verdict := {}
  body : κ

namespace Check

variable {κ : Type}

/-- The name of a check. -/
def name (c : Check κ) : String :=
  c.info.name

/-- The status of a check. -/
def status (c : Check κ) : Status :=
  c.verdict.status

/-- The check and its verdict in words. -/
def describe (c : Check κ) : String :=
  s!"test condition [{c.name}]: {c.verdict.describe}"

/-- What carrying out a check brings about. -/
structure Finding (κ ω : Type) where
  verdict : Verdict
  body : κ
  world : ω
  /-- Why the check could not be carried out, if it could not. -/
  error : Option Error := none

end Check

/-- Bodies of the type `κ` that can be carried out in worlds of the type `ω`. -/
class Examiner (κ ω : Type) where
  /-- Carries out a check, given the earlier check that it is paired with. -/
  examine : Check κ → (related : Option (Check κ)) → ω → Check.Finding κ ω

end StreamVerdict
