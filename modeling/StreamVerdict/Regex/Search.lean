import StreamVerdict.Regex.Basic

/-!
# Searching a text

A text is read one character at a time, while a list is kept of all that may still have to be
matched: each entry is a sequence of expressions left over from a match under way. A character
turns an entry into what is left of it, in every way it can be read. The work for one character
is bounded by the number of distinct entries, so no expression makes the search explode.
-/

namespace StreamVerdict.Regex

namespace Expr

/-- Whether the expression matches the empty text between two neighbours. -/
def nullable (before after : Option Char) : Expr → Bool
  | empty => true
  | chars _ => false
  | assert a => a.holds before after
  | seq a b => a.nullable before after && b.nullable before after
  | alt a b => a.nullable before after || b.nullable before after
  | times a lo _ => lo == 0 || a.nullable before after

/-- What is left to match, in every possible way, once `c` has been read after `before`. -/
def left (before : Option Char) (c : Char) : Expr → List (List Expr)
  | empty => []
  | chars s => if s.contains c then [[]] else []
  | assert _ => []
  | seq a b =>
    (a.left before c).map (· ++ [b]) ++
      if a.nullable before (some c) then b.left before c else []
  | alt a b => a.left before c ++ b.left before c
  | times a lo hi =>
    if hi = some 0 then []
    else
      -- empty passes through `a` count, so the pass that reads `c` may be the last one needed
      let lo' := if a.nullable before (some c) then 0 else lo - 1
      (a.left before c).map (· ++ [times a lo' (hi.map (· - 1))])

end Expr

/-- Whether a sequence of expressions matches the empty text between two neighbours. -/
def seqNullable (before after : Option Char) (rs : List Expr) : Bool :=
  rs.all (·.nullable before after)

/-- What is left of a sequence of expressions once `c` has been read. -/
def seqLeft (before : Option Char) (c : Char) : List Expr → List (List Expr)
  | [] => []
  | r :: rs =>
    (r.left before c).map (· ++ rs) ++
      if r.nullable before (some c) then seqLeft before c rs else []

/-- Reads a text from a place with `before` in front of it. The list `under` holds what is left of
every match that began earlier. -/
def searchFrom (r : Expr) (before : Option Char) (under : List (List Expr)) : List Char → Bool
  | [] => ([r] :: under).any (seqNullable before none)
  | c :: cs =>
    ([r] :: under).any (seqNullable before (some c)) ||
      searchFrom r (some c) (([r] :: under).flatMap (seqLeft before c)).eraseDups cs

namespace Expr

/-- Whether some part of the text matches. -/
def isMatch (r : Expr) (text : String) : Bool :=
  searchFrom r none [] text.toList

end Expr

end StreamVerdict.Regex
