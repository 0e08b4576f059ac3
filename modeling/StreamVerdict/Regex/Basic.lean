import StreamVerdict.Regex.CharSet

/-!
# Regular expressions

An expression describes texts piece by piece. Besides characters it may hold assertions, which
take no characters and look at the two neighbours of their place: the character before it and
the one after it, where there are such.

Main definitions:

* `Expr`: expressions;
* `Assertion.holds`: what an assertion asks of the two neighbours of a place;
* `Expr.Matches`: the texts that an expression matches between two neighbours;
* `Expr.MatchesIn`: whether some part of a text matches.
-/

namespace StreamVerdict.Regex

/-- Which edge of a word an assertion asks for. -/
inductive WordEdge where
  | either
  | neither
  | start
  | finish
  | startHalf
  | finishHalf
  deriving DecidableEq

/-- A condition on a place in a text. -/
inductive Assertion where
  /-- The start of the text. -/
  | textStart
  /-- The end of the text. -/
  | textEnd
  /-- The start of a line. With `crlf` a line may end in a carriage return, a line feed or both. -/
  | lineStart (crlf : Bool)
  /-- The end of a line. -/
  | lineEnd (crlf : Bool)
  /-- An edge of a word, made of ASCII characters alone or of all word characters. -/
  | word (ascii : Bool) (edge : WordEdge)
  deriving DecidableEq

namespace Assertion

/-- Whether a neighbour exists and belongs to a word. -/
def isWord (ascii : Bool) : Option Char → Bool
  | none => false
  | some c => if ascii then (WideClass.ascii .word).contains c else WideClass.word.contains c

/-- Whether the assertion holds between two neighbours. -/
def holds : Assertion → (before after : Option Char) → Bool
  | textStart, before, _ => before.isNone
  | textEnd, _, after => after.isNone
  | lineStart false, before, _ => before.isNone || before = some '\n'
  -- a carriage return and the line feed behind it end one line
  | lineStart true, before, after =>
    before.isNone || before = some '\n' || (before = some '\r' && after ≠ some '\n')
  | lineEnd false, _, after => after.isNone || after = some '\n'
  | lineEnd true, before, after =>
    after.isNone || after = some '\r' || (after = some '\n' && before ≠ some '\r')
  | word ascii edge, before, after =>
    let b := isWord ascii before
    let a := isWord ascii after
    match edge with
    | .either => b != a
    | .neither => b == a
    | .start => !b && a
    | .finish => b && !a
    | .startHalf => !b
    | .finishHalf => !a

end Assertion

/-- A regular expression. -/
inductive Expr where
  /-- The empty text. -/
  | empty
  /-- One character of a set. -/
  | chars (s : CharSet)
  /-- The empty text, at a place where the assertion holds. -/
  | assert (a : Assertion)
  /-- One expression after the other. -/
  | seq (a b : Expr)
  /-- Either of two expressions. -/
  | alt (a b : Expr)
  /-- An expression from `lo` to `hi` times over, or without limit. -/
  | times (a : Expr) (lo : Nat) (hi : Option Nat)
  deriving DecidableEq

namespace Expr

/-- One character and no other. -/
def char (c : Char) : Expr :=
  chars (.single c)

/-- The expressions of a list one after the other. -/
def seqs : List Expr → Expr
  | [] => empty
  | [a] => a
  | a :: as => seq a (seqs as)

/-- Any of the expressions of a list after the first one given. -/
def alts : Expr → List Expr → Expr
  | a, [] => a
  | a, b :: bs => alt a (alts b bs)

/-- `a.Matches before w after` says that `a` describes the text `w` when `before` and `after` are
the characters on its two sides. -/
inductive Matches : Expr → Option Char → List Char → Option Char → Prop where
  | empty {p n} : Matches .empty p [] n
  | chars {s c p n} (h : s.contains c = true) : Matches (.chars s) p [c] n
  | assert {a p n} (h : a.holds p n = true) : Matches (.assert a) p [] n
  | seq {a b p n u v} (ha : Matches a p u (v.head?.or n)) (hb : Matches b (u.getLast?.or p) v n) :
      Matches (.seq a b) p (u ++ v) n
  | altLeft {a b p n w} (h : Matches a p w n) : Matches (.alt a b) p w n
  | altRight {a b p n w} (h : Matches b p w n) : Matches (.alt a b) p w n
  | done {a hi p n} : Matches (.times a 0 hi) p [] n
  | once {a lo hi p n u v} (hhi : hi ≠ some 0) (ha : Matches a p u (v.head?.or n))
      (hr : Matches (.times a (lo - 1) (hi.map (· - 1))) (u.getLast?.or p) v n) :
      Matches (.times a lo hi) p (u ++ v) n

/-- Some part of the text matches. -/
def MatchesIn (a : Expr) (text : List Char) : Prop :=
  ∃ pre w post, text = pre ++ w ++ post ∧ a.Matches pre.getLast? w post.head?

end Expr

end StreamVerdict.Regex
