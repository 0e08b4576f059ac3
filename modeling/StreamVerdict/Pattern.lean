import StreamVerdict.Error
import StreamVerdict.Event
import StreamVerdict.Regex.Compile

/-!
# Patterns

A pattern says which events are meant: every field of its positive clauses must be there and
match, and no field of its negative clauses may be there and match. A pattern without positive
clauses means no event.

Main definitions:

* `Clause`: a regular expression bound to a field, and `Clause.check`;
* `Pattern`: positive and negative clauses, and `Pattern.accepts`.
-/

namespace StreamVerdict

/-- How a field of an event compares with a clause. -/
inductive Finding where
  | matched
  | mismatch
  | missing
  deriving DecidableEq

/-- A regular expression bound to a field. It is matched from the first character of the value
on, and need not reach its end. -/
structure Clause where
  field : String
  source : String
  regex : Regex.Expr
  deriving DecidableEq

namespace Clause

/-- Reads the expression of a clause. -/
def compile (field source : String) : Except Error Clause :=
  match Regex.compile source with
  | .ok regex => .ok ⟨Text.lowercase field, source, regex⟩
  | .error fault => .error (.invalidRegex field source fault.message)

/-- Compares the field of an event with the clause. -/
def check (c : Clause) (e : Event) : Finding :=
  match e.get? c.field with
  | none => .missing
  | some value => if c.regex.isMatch value then .matched else .mismatch

end Clause

/-- Which events are meant. -/
structure Pattern where
  positive : List Clause
  negative : List Clause
  deriving DecidableEq

namespace Pattern

/-- Reads the clauses of a pattern, positive ones first. The first one that is no regular
expression decides the error. -/
def compile (positive negative : List (String × String)) : Except Error Pattern := do
  let positive ← positive.mapM fun (field, source) => Clause.compile field source
  let negative ← negative.mapM fun (field, source) => Clause.compile field source
  .ok ⟨positive, negative⟩

/-- The pattern of one expression for the text of an event. -/
def ofText (source : String) : Except Error Pattern :=
  compile [(Event.valueField, source)] []

/-- Whether the pattern has no positive clause. -/
def isEmpty (p : Pattern) : Bool :=
  p.positive.isEmpty

/-- Whether the event is meant. A negative clause whose field is missing does not stand in the
way. -/
def accepts (p : Pattern) (e : Event) : Bool :=
  !p.isEmpty && p.positive.all (fun c => c.check e == .matched) &&
    p.negative.all (fun c => c.check e != .matched)

/-- The clauses in words. -/
def describe (p : Pattern) : String :=
  ", ".intercalate
    (p.positive.map (fun c => s!"{c.field}=~/{c.source}/") ++
      p.negative.map (fun c => s!"{c.field}!~/{c.source}/"))

end Pattern

end StreamVerdict
