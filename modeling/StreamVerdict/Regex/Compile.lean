import StreamVerdict.Regex.Parse
import StreamVerdict.Regex.Search

/-!
# Patterns at the start of a text

A field is matched from its first character on. `compile` reads the source of a pattern with the
anchor put around it as text, and refuses expressions that would take too much room.
-/

namespace StreamVerdict.Regex

namespace Expr

/-- About how many bytes a set of characters takes, as a machine that reads bytes. -/
def charsRoom (s : CharSet) : Nat :=
  match s with
  | .range first last => if first = last then 32 * first.utf8Size else 40
  | s => 32 + 60 * s.stretches

/-- Whether the expression can take no character at all. -/
def takesNothing : Expr → Bool
  | empty => true
  | chars _ => false
  | assert _ => true
  | seq a b => a.takesNothing && b.takesNothing
  | alt a b => a.takesNothing && b.takesNothing
  | times a _ hi => hi = some 0 || a.takesNothing

/-- About how many bytes an expression takes once every repetition is written out. This is an
estimate: expressions close to `maxRoom` can fall on the other side of it when the machine is
built and measured. -/
def room : Expr → Nat
  | empty => 32
  | chars s => charsRoom s
  | assert _ => 32
  | seq a b => a.room + b.room
  | alt a b => a.room + b.room + 40
  | times a lo hi =>
    let copies := match hi with
      | some h => h
      | none => max lo 1
    let copies := if a.takesNothing then min copies 1 else copies
    copies * a.room + (copies - lo) * 40 + 32

end Expr

/-- The most room that an expression may take, in bytes. Where exactly it ends is only known as well
as `Expr.room` estimates. -/
def maxRoom : Nat := 10 * 1024 * 1024

/-- The text of an expression that matches from the start of a text on. -/
def anchor (source : String) : String :=
  "^(?:" ++ source ++ ")"

/-- Reads an expression and checks the room it takes. -/
def compileChars (cs : List Char) : Except Fault Expr := do
  let e ← parse cs
  if maxRoom < e.room then .error (.tooLarge maxRoom) else .ok e

/-- The expression of a pattern that matches from the start of a text on. The anchor is put around
the source as text, before any of it is read. -/
def compile (source : String) : Except Fault Expr :=
  compileChars (anchor source).toList

end StreamVerdict.Regex
