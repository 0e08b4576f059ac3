import Mathlib.Data.List.Basic
import StreamVerdict.Pattern
import StreamVerdict.Proofs.Regex.Group

/-!
# The anchor put around an expression

A clause is matched from the first character of a value on. The anchor and a
group are put around its source as text, before any of it is read, and this is
not always the same as an anchor put around the expression that the source
stands for.

For most sources it is: the group holds what the source comes to by itself. A
source that ends in a comment takes the end of the group into the comment, and
is refused. The group also makes the nesting deeper and the expression larger,
so that a source which just keeps the limits by itself may exceed them.

The other way round, a source which is no expression may become one. It must
close the group that was opened for it, and open another one for the parenthesis
at its end. What stands between the two groups is not anchored then.

Main definitions:

* `read`: what a text comes to by itself, with its depth;
* `EndsInComment`, `FitsInGroup`: the conditions under which the anchor does what
  it should.

Main results:

* `compile_eq_ok_iff`: the sources that are accepted, among those that are
  expressions by themselves;
* `eq_groupUnopened_of_compile`: the others;
* `Clause.anchored_iff_group_closed`: what a clause matches.
-/

namespace StreamVerdict

namespace Regex

/-! ## What the anchor makes of a text -/

/-- What a text comes to by itself, with the depth to which it nests. -/
def read (cs : List Char) : Except Fault (Nested Expr) :=
  Reading.finish (cs.length + 1) { rest := cs }

/-- What is accepted must not nest too deep. -/
def checkDepth (p : Nested Expr) : Except Fault Expr :=
  if maxDepth < p.depth then .error (.tooDeep maxDepth) else .ok p.value

theorem parse_eq (cs : List Char) : parse cs = read cs >>= checkDepth :=
  rfl

/-- What was read before the group that is put around the source. -/
def anchorBody : Body :=
  { items := [.piece ⟨.assert .textStart, 0⟩] }

/-- An expression at the start of the text. -/
def Expr.anchored (e : Expr) : Expr :=
  .seq (.assert .textStart) e

theorem toList_anchor (source : String) :
    (anchor source).toList = '^' :: '(' :: '?' :: ':' :: (source.toList ++ [')']) := by
  simp [anchor]

theorem parse_anchor (source : String) :
    parse (anchor source).toList =
      (Reading.within [anchorBody] { rest := source.toList ++ [')'] }).finish
        (source.toList.length + 4) >>= checkDepth := by
  rw [toList_anchor, parse_eq, read, List.length_cons, List.length_cons, List.length_cons,
    List.length_cons, List.length_append]
  rfl

theorem parse_append_parenthesis (cs : List Char) :
    parse (cs ++ [')']) =
      (Reading.within [] { rest := cs ++ [')'] }).finish (cs.length + 4) >>= checkDepth := by
  rw [parse_eq, read]
  congr 1
  refine Reading.finish_eq_of_lt ?_ ?_
  all_goals simp

/-- The group is closed behind the source, and both become one expression. -/
theorem closeAround_anchorBody (p : Nested Expr) :
    Reading.closeAround p [anchorBody] = .ok ⟨p.value.anchored, p.depth + 2⟩ := by
  simp [Reading.closeAround, anchorBody, Body.push, Body.close, Body.split, Body.alternative,
    Expr.seqs, Item.nested, Expr.anchored]
  omega

/-! ## Conditions on a source -/

/-- A parenthesis behind the source changes nothing: it belongs to a comment. -/
def EndsInComment (source : String) : Prop :=
  parse (source.toList ++ [')']) = parse source.toList

/-- The source is an expression that stays within the limits if a group and an anchor are put
around it. The limit of nesting is exact. The limit of room is as approximate as `Expr.room`, in
which the anchor takes 32 bytes. -/
def FitsInGroup (source : String) : Prop :=
  ∃ p, read source.toList = .ok p ∧ p.depth + 2 ≤ maxDepth ∧ p.value.room + 32 ≤ maxRoom

theorem checkDepth_eq_ok_iff {p : Nested Expr} {e : Expr} :
    checkDepth p = .ok e ↔ p.depth ≤ maxDepth ∧ p.value = e := by
  unfold checkDepth
  split_ifs with hDeep
  · simp [Nat.not_le.mpr hDeep]
  · simp [Nat.not_lt.mp hDeep]

theorem compileChars_eq_ok_iff {cs : List Char} {e : Expr} :
    compileChars cs = .ok e ↔ parse cs = .ok e ∧ e.room ≤ maxRoom := by
  rw [compileChars, Traversal.bind_eq_ok_iff]
  constructor
  · rintro ⟨e', hParse, h⟩
    split_ifs at h with hLarge
    cases h
    exact ⟨hParse, Nat.not_lt.mp hLarge⟩
  · rintro ⟨hParse, hRoom⟩
    exact ⟨e, hParse, if_neg (Nat.not_lt.mpr hRoom)⟩

theorem fitsInGroup_iff {source : String} {p : Nested Expr} (h : read source.toList = .ok p) :
    FitsInGroup source ↔ p.depth + 2 ≤ maxDepth ∧ p.value.room + 32 ≤ maxRoom := by
  simp [FitsInGroup, h]

theorem Expr.room_anchored (e : Expr) : e.anchored.room = e.room + 32 :=
  Nat.add_comm 32 e.room

/-- The source by itself, with a parenthesis behind it, and with the anchor around it. -/
theorem exists_ending (source : String) :
    ∃ y, Ending source.toList (read source.toList) y ∧
      parse (source.toList ++ [')']) = y [] >>= checkDepth ∧
      parse (anchor source).toList = y [anchorBody] >>= checkDepth :=
  ⟨fun base => (Reading.within base { rest := source.toList ++ [')'] }).finish
      (source.toList.length + 4),
    Reading.finish_ending (r := { rest := source.toList }) (.refl _) (Nat.lt_succ_self _) (by simp),
    parse_append_parenthesis _, parse_anchor source⟩

/-! ## Which sources are accepted -/

/-- Among the sources that are expressions by themselves, those are accepted that do not end in a
comment and stay within the limits. They stand for the same expression, at the start of a text. -/
theorem compile_eq_ok_iff {source : String} {e r : Expr}
    (he : compileChars source.toList = .ok e) :
    compile source = .ok r ↔
      r = e.anchored ∧ ¬ EndsInComment source ∧ FitsInGroup source := by
  obtain ⟨hParse, -⟩ := compileChars_eq_ok_iff.mp he
  obtain ⟨p, hRead, hDepth⟩ := Traversal.bind_eq_ok_iff.mp (parse_eq _ ▸ hParse)
  obtain ⟨-, rfl⟩ := checkDepth_eq_ok_iff.mp hDepth
  obtain ⟨y, hEnding, hBehind, hAnchor⟩ := exists_ending source
  rw [compile, compileChars_eq_ok_iff, EndsInComment, hParse, hBehind, hAnchor,
    fitsInGroup_iff hRead]
  rw [hRead] at hEnding
  cases hEnding with
  | closed h =>
    -- the source ends at the parenthesis, so the whole is its anchored form within the limits
    rw [h, h, closeAround_anchorBody]
    change (checkDepth _ = _ ∧ _) ↔ _
    rw [checkDepth_eq_ok_iff]
    constructor
    · rintro ⟨⟨hDeep, rfl⟩, hRoom⟩
      exact ⟨rfl, nofun, hDeep, Expr.room_anchored _ ▸ hRoom⟩
    · rintro ⟨rfl, -, hDeep, hRoom⟩
      exact ⟨⟨hDeep, rfl⟩, Expr.room_anchored _ ▸ hRoom⟩
  | swallowed _ h =>
    -- the parenthesis is swallowed by a comment, and the group stays open
    rw [h, h]
    constructor
    · rintro ⟨hClosed, -⟩
      cases hClosed
    · rintro ⟨-, hEnds, -⟩
      exact absurd hDepth hEnds

/-- A source that is accepted, but is no expression by itself, closes a group that it has not
opened. -/
theorem eq_groupUnopened_of_compile {source : String} {r : Expr} {fault : Fault}
    (h : compile source = .ok r) (hFault : compileChars source.toList = .error fault) :
    fault = .groupUnopened := by
  obtain ⟨y, hEnding, -, hAnchor⟩ := exists_ending source
  obtain ⟨hParse, hRoom⟩ := compileChars_eq_ok_iff.mp h
  obtain ⟨q, hq, hDepth⟩ := Traversal.bind_eq_ok_iff.mp (hAnchor ▸ hParse)
  generalize hRead : read source.toList = x at hEnding
  cases hEnding with
  | @closed p _ hClosed =>
    -- within the limits in the group, the source is within them by itself
    rw [hClosed, closeAround_anchorBody] at hq
    cases hq
    obtain ⟨hDeep, rfl⟩ := checkDepth_eq_ok_iff.mp hDepth
    have hParse : parse source.toList = .ok p.value := by
      rw [parse_eq, hRead]
      exact checkDepth_eq_ok_iff.mpr ⟨Nat.le_of_add_right_le hDeep, rfl⟩
    rw [Expr.room_anchored] at hRoom
    rw [compileChars_eq_ok_iff.mpr ⟨hParse, Nat.le_of_add_right_le hRoom⟩] at hFault
    cases hFault
  | swallowed _ hSwallowed =>
    rw [hSwallowed] at hq
    cases hq
  | unopened =>
    -- by itself the source closes a group that it has not opened
    rw [compileChars, parse_eq, hRead] at hFault
    cases hFault
    rfl
  | refused hRefused => exact absurd hq (hRefused _ (by simp) q)

/-- Only a source with a number sign in it can end in a comment. -/
theorem mem_of_endsInComment {source : String} {e : Expr} (he : parse source.toList = .ok e)
    (h : EndsInComment source) : '#' ∈ source.toList := by
  obtain ⟨p, hRead, -⟩ := Traversal.bind_eq_ok_iff.mp (parse_eq _ ▸ he)
  obtain ⟨y, hEnding, hBehind, -⟩ := exists_ending source
  rw [EndsInComment, he, hBehind] at h
  rw [hRead] at hEnding
  cases hEnding with
  | closed hClosed =>
    rw [hClosed] at h
    cases h
  | swallowed hMem => exact hMem

/-- What is accepted is found where the expression is, at the start of a text. -/
theorem isMatch_anchored_iff {source : String} {e : Expr} (he : compileChars source.toList = .ok e)
    {text : String} : e.anchored.isMatch text = true ↔ e.MatchesAtStart text.toList := by
  have hOrdered : e.anchored.IsOrdered :=
    ⟨trivial, isOrdered_of_parse (compileChars_eq_ok_iff.mp he).1⟩
  rw [Expr.isMatch_iff hOrdered]
  exact Expr.matchesIn_textStart_seq_iff

end Regex

/-! ## Clauses -/

namespace Clause

open Regex (compileChars EndsInComment FitsInGroup)

theorem compile_eq_ok_iff {field source : String} {c : Clause} :
    Clause.compile field source = .ok c ↔
      Regex.compile source = .ok c.regex ∧ c = ⟨Text.lowercase field, source, c.regex⟩ := by
  unfold Clause.compile
  cases Regex.compile source with
  | error fault => simp
  | ok regex =>
    simp only [Except.ok.injEq]
    constructor
    · rintro rfl
      exact ⟨rfl, rfl⟩
    · rintro ⟨rfl, hc⟩
      exact hc.symm

theorem check_eq_matched_iff {c : Clause} {e : Event} :
    c.check e = .matched ↔ ∃ value, e.get? c.field = some value ∧ c.regex.isMatch value = true := by
  unfold Clause.check
  cases e.get? c.field with
  | none => simp
  | some value => simp

/-- **A clause is anchored at the start of the value, if its source leaves the group alone.** For
every field and every source:

1. If the source is an expression by itself, it is accepted exactly if it does not end in a
   comment and stays within the limits inside of a group. A source without a number sign never
   ends in a comment. What is accepted matches an event exactly if the field is present and the
   expression, taken by itself, has a match that begins at the first character of its value.
2. If the source is accepted, but is no expression by itself, then it closes a group that it has
   not opened. -/
theorem anchored_iff_group_closed (field source : String) :
    (∀ e, compileChars source.toList = .ok e →
      ((∃ c, Clause.compile field source = .ok c) ↔
        ¬ EndsInComment source ∧ FitsInGroup source) ∧
      (EndsInComment source → '#' ∈ source.toList) ∧
      ∀ c, Clause.compile field source = .ok c → ∀ event,
        (c.check event = .matched ↔
          ∃ value, event.get? (Text.lowercase field) = some value ∧
            e.MatchesAtStart value.toList)) ∧
    ∀ c, Clause.compile field source = .ok c → ∀ fault,
      compileChars source.toList = .error fault → fault = .groupUnopened := by
  refine ⟨fun e he => ⟨?_, ?_, ?_⟩, ?_⟩
  · -- it compiles just if the parenthesis is seen and the whole fits
    constructor
    · rintro ⟨c, hc⟩
      exact ((Regex.compile_eq_ok_iff he).mp (compile_eq_ok_iff.mp hc).1).2
    · intro hFits
      exact ⟨⟨Text.lowercase field, source, e.anchored⟩,
        compile_eq_ok_iff.mpr ⟨(Regex.compile_eq_ok_iff he).mpr ⟨rfl, hFits⟩, rfl⟩⟩
  · exact Regex.mem_of_endsInComment (Regex.compileChars_eq_ok_iff.mp he).1
  · -- what is compiled is the anchored form
    intro c hc event
    obtain ⟨hRegex, hClause⟩ := compile_eq_ok_iff.mp hc
    obtain ⟨hAnchored, -⟩ := (Regex.compile_eq_ok_iff he).mp hRegex
    rw [check_eq_matched_iff, hClause, hAnchored]
    simp only [Regex.isMatch_anchored_iff he]
  · intro c hc fault hFault
    exact Regex.eq_groupUnopened_of_compile (compile_eq_ok_iff.mp hc).1 hFault

/-- Two alternatives stay together in the group, and both are anchored. Two groups, each half open,
come out of the group. -/
theorem alternatives_anchored :
    (∃ c, Clause.compile "value" "a|b" = .ok c ∧ ∀ event, (c.check event = .matched ↔
      ∃ value, event.get? (Text.lowercase "value") = some value ∧
        (Regex.Expr.alt (.char 'a') (.char 'b')).MatchesAtStart value.toList)) ∧
    (∃ c, Clause.compile "value" "a)|(?:b" = .ok c) ∧
    compileChars "a)|(?:b".toList = .error .groupUnopened := by
  have hValid : compileChars "a|b".toList = .ok (.alt (.char 'a') (.char 'b')) := by
    decide +kernel
  have hAccepted : Clause.compile "value" "a|b" = .ok ⟨"value", "a|b",
      Regex.Expr.anchored (.alt (.char 'a') (.char 'b'))⟩ := by
    decide +kernel
  have hOpen : Clause.compile "value" "a)|(?:b" = .ok ⟨"value", "a)|(?:b",
      .alt (Regex.Expr.anchored (.char 'a')) (.char 'b')⟩ := by
    decide +kernel
  obtain ⟨fault, hFault⟩ : ∃ fault, compileChars "a)|(?:b".toList = .error fault :=
    ⟨.groupUnopened, by decide +kernel⟩
  refine ⟨⟨_, hAccepted, ?_⟩, ⟨_, hOpen⟩, ?_⟩
  · exact ((anchored_iff_group_closed "value" "a|b").1 _ hValid).2.2 _ hAccepted
  · rw [hFault, (anchored_iff_group_closed "value" "a)|(?:b").2 _ hOpen fault hFault]

/-- A source that is no expression is accepted, and is found behind the start of a value. One that
is an expression with a comment at its end is refused. -/
theorem half_open_groups_accepted :
    (∃ c, Clause.compile "value" "a)|(?:b" = .ok c ∧ c.check (.ofText "xb") = .matched) ∧
    (¬ ∃ e, compileChars "a)|(?:b".toList = .ok e) ∧
    (∃ e, compileChars "(?x)a #c".toList = .ok e) ∧
    ¬ ∃ c, Clause.compile "value" "(?x)a #c" = .ok c := by
  have hOpen : Clause.compile "value" "a)|(?:b" = .ok ⟨"value", "a)|(?:b",
      .alt (Regex.Expr.anchored (.char 'a')) (.char 'b')⟩ := by
    decide +kernel
  have hInvalid : compileChars "a)|(?:b".toList = .error .groupUnopened := by decide +kernel
  have hValid : compileChars "(?x)a #c".toList = .ok (.seq .empty (.char 'a')) := by
    decide +kernel
  have hRefused : Clause.compile "value" "(?x)a #c" =
      .error (.invalidRegex "value" "(?x)a #c" "unclosed group") := by
    decide +kernel
  refine ⟨⟨_, hOpen, by decide +kernel⟩, ?_, ⟨_, hValid⟩, ?_⟩
  · rintro ⟨e, he⟩
    rw [hInvalid] at he
    cases he
  · rintro ⟨c, hc⟩
    rw [hRefused] at hc
    cases hc

end Clause

end StreamVerdict
