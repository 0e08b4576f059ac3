import Mathlib.Data.List.Basic
import StreamVerdict.Proofs.Regex.Anchor

/-!
# Escaped texts

A text that has a backslash in front of every character with a meaning of its
own is read back as these characters, one after the other. No piece of it opens
or closes a group, repeats another one or begins a comment, so the anchor around
it and an assertion behind it stay what they are, and only its length can be too
much.

With the end of the text asked for behind it, such an expression matches one
text and no other: neither a longer one nor one with a line break behind it.

Main definitions:

* `Expr.exactly`: a text, and the end behind it;
* `Body.pushAll`: what a group holds after several single expressions.

Main results:

* `Reading.finish_escapeChars`: an escaped text is read one character at a time;
* `compile_escaped`: what it comes to with the anchor around it;
* `isMatch_anchored_exactly_iff`: the only text that it matches.
-/

namespace StreamVerdict.Regex

/-! ## One text and no other -/

namespace Expr

/-- The characters of a text, and the end of the text behind them. -/
def exactly (cs : List Char) : Expr :=
  seqs (cs.map char ++ [assert .textEnd])

theorem matches_seqs_iff {rs : List Expr} {p n : Option Char} {w : List Char} :
    (seqs rs).Matches p w n ↔ SeqMatches rs p w n := by
  induction rs generalizing p w with
  | nil =>
    constructor
    · rintro ⟨⟩
      rfl
    · rintro rfl
      exact .empty
  | cons r rs ih =>
    cases rs with
    | nil => exact seqMatches_singleton.symm
    | cons s rs =>
      change (seq r (seqs (s :: rs))).Matches p w n ↔ _
      rw [matches_seq_iff]
      constructor
      · rintro ⟨u, v, rfl, hr, hRest⟩
        exact ⟨u, v, rfl, hr, ih.mp (seqMatches_singleton.mp hRest)⟩
      · rintro ⟨u, v, rfl, hr, hRest⟩
        exact ⟨u, v, rfl, hr, seqMatches_singleton.mpr (ih.mpr hRest)⟩

theorem matches_char_iff {c : Char} {p n : Option Char} {w : List Char} :
    (char c).Matches p w n ↔ w = [c] := by
  simp [char, matches_chars_iff]

/-- Characters match themselves, and the end is where no character comes after them. -/
theorem seqMatches_exactly_iff {cs w : List Char} {p n : Option Char} :
    SeqMatches (cs.map char ++ [assert .textEnd]) p w n ↔ w = cs ∧ n = none := by
  induction cs generalizing p w with
  | nil =>
    simp [seqMatches_singleton, matches_assert_iff, Assertion.holds, and_comm]
  | cons c cs ih =>
    rw [List.map_cons, List.cons_append]
    constructor
    · rintro ⟨u, v, rfl, hc, hcs⟩
      obtain rfl := matches_char_iff.mp hc
      obtain ⟨rfl, hn⟩ := ih.mp hcs
      exact ⟨rfl, hn⟩
    · rintro ⟨rfl, hn⟩
      exact ⟨[c], cs, rfl, matches_char_iff.mpr rfl, ih.mpr ⟨rfl, hn⟩⟩

theorem matchesAtStart_exactly_iff {cs text : List Char} :
    (exactly cs).MatchesAtStart text ↔ text = cs := by
  unfold MatchesAtStart exactly
  simp only [matches_seqs_iff, seqMatches_exactly_iff]
  constructor
  · rintro ⟨w, rest, rfl, rfl, hEnd⟩
    rw [List.head?_eq_none_iff.mp hEnd, List.append_nil]
  · rintro rfl
    exact ⟨text, [], (List.append_nil _).symm, rfl, rfl⟩

theorem isOrdered_exactly (cs : List Char) : (exactly cs).IsOrdered := by
  refine isOrdered_seqs fun r hr => ?_
  rcases List.mem_append.mp hr with hr | hr
  · obtain ⟨c, -, rfl⟩ := List.mem_map.mp hr
    trivial
  · obtain rfl := List.mem_singleton.mp hr
    trivial

/-- At the start of a text, the text itself is found and no other one. -/
theorem isMatch_anchored_exactly_iff {cs : List Char} {text : String} :
    (exactly cs).anchored.isMatch text = true ↔ text.toList = cs := by
  have hOrdered : (exactly cs).anchored.IsOrdered := ⟨trivial, isOrdered_exactly cs⟩
  rw [isMatch_iff hOrdered, anchored, matchesIn_textStart_seq_iff, matchesAtStart_exactly_iff]

end Expr

/-! ## Several single expressions in a group -/

namespace Body

/-- Adds expressions that hold no others to the alternative being read. -/
def pushAll (b : Body) (es : List Expr) : Body :=
  es.foldl (fun b e => b.push e 0) b

theorem pushAll_eq (b : Body) (es : List Expr) :
    b.pushAll es = { b with items := (es.map fun e => .piece ⟨e, 0⟩).reverse ++ b.items } := by
  induction es generalizing b with
  | nil => rfl
  | cons e es ih =>
    rw [pushAll, List.foldl_cons, ← pushAll, ih]
    simp [push]

theorem flags_pushAll (b : Body) (es : List Expr) : (b.pushAll es).flags = b.flags := by
  rw [pushAll_eq]

theorem pushAll_append (b : Body) (es es' : List Expr) :
    b.pushAll (es ++ es') = (b.pushAll es).pushAll es' :=
  List.foldl_append

/-- Single expressions have no depth. -/
theorem foldl_depth_eq_zero (es : List Expr) :
    ((es.map fun e => (⟨e, 0⟩ : Nested Expr)).map (·.depth)).foldl max 0 = 0 := by
  induction es with
  | nil => rfl
  | cons e es ih => exact ih

/-- In a group with nothing else in it they are read as a sequence. -/
theorem close_pushAll (es : List Expr) :
    ((Body.pushAll {} es).close).value = Expr.seqs es ∧ ((Body.pushAll {} es).close).depth ≤ 1 := by
  have hNested : (Body.pushAll {} es).items.reverse.map Item.nested =
      es.map fun e => (⟨e, 0⟩ : Nested Expr) := by
    rw [pushAll_eq]
    simp [Function.comp_def, Item.nested]
  -- no bar has been pushed, so the body is its one alternative
  have hClose : (Body.pushAll {} es).close = (Body.pushAll {} es).alternative := by
    rw [pushAll_eq]
    rfl
  rw [hClose, alternative, hNested]
  cases es with
  | nil => exact ⟨rfl, Nat.zero_le _⟩
  | cons e es =>
    cases es with
    | nil => exact ⟨rfl, Nat.zero_le _⟩
    | cons e' es =>
      refine ⟨?_, ?_⟩
      · simp [Function.comp_def]
      · exact Nat.le_of_eq (congrArg (1 + ·) (foldl_depth_eq_zero (e :: e' :: es)))

end Body

/-! ## Reading an escaped text -/

/-- What may have a meaning of its own loses it behind a backslash. -/
theorem isEscapable_of_isMeta {c : Char} (h : isMeta c = true) : isEscapable c = true := by
  rw [isMeta, decide_eq_true_eq] at h
  exact List.all_eq_true.mp (by decide) c h

theorem length_le_length_escapeChars (cs : List Char) : cs.length ≤ (escapeChars cs).length := by
  induction cs with
  | nil => exact Nat.le_refl _
  | cons c cs ih =>
    have hPiece : 1 ≤ (if isMeta c then ['\\', c] else [c]).length := by split <;> simp
    rw [escapeChars, List.flatMap_cons, ← escapeChars, List.length_append, List.length_cons]
    omega

theorem Flags.escape_of_isEscapable {f : Flags} {c : Char} (h : isEscapable c = true)
    (cs : List Char) : f.escape (c :: cs) = .ok (.char c false, cs) := by
  simp only [Flags.escape]
  exact if_pos h

namespace Reading

variable {r : Reading}

theorem step_of_not_isMeta {c : Char} (hFlags : r.body.flags = {}) (h : isMeta c = false)
    (cs : List Char) : r.step c cs = .ok (r.push (.char c) cs) := by
  unfold Reading.step
  split
  case h_13 =>
    rw [hFlags]
    rfl
  -- every character with a branch of its own has a meaning of its own
  all_goals exact absurd h (by decide)

theorem step_backslash {c : Char} (hFlags : r.body.flags = {}) (h : isMeta c = true)
    (cs : List Char) : r.step '\\' (c :: cs) = .ok (r.push (.char c) cs) := by
  change (r.body.flags.escape (c :: cs) >>= _) = _
  rw [Flags.escape_of_isEscapable (isEscapable_of_isMeta h), hFlags]
  rfl

theorem step_dollar (hFlags : r.body.flags = {}) (cs : List Char) :
    r.step '$' cs = .ok (r.push (.assert .textEnd) cs) := by
  change Except.ok (r.push (.assert (if r.body.flags.multiLine then _ else _)) cs) = _
  rw [hFlags]
  rfl

/-- Without flags nothing is skipped. -/
theorem skip_of_eq (hFlags : r.body.flags = {}) (cs : List Char) : r.body.flags.skip cs = cs := by
  rw [hFlags]
  rfl

/-- A character of the text, with a backslash before it or without, takes one round. -/
theorem finish_escapeChars_cons (hFlags : r.body.flags = {}) (n : Nat) (c : Char)
    (cs tail : List Char) :
    finish (n + 1) { r with rest := escapeChars (c :: cs) ++ tail } =
      finish n (r.push (.char c) (escapeChars cs ++ tail)) := by
  rw [escapeChars, List.flatMap_cons, ← escapeChars]
  cases hMeta : isMeta c with
  | true =>
    rw [finish_of_cons (skip_of_eq hFlags _)]
    exact congrArg (· >>= finish n) (step_backslash hFlags hMeta _)
  | false =>
    rw [finish_of_cons (skip_of_eq hFlags _)]
    exact congrArg (· >>= finish n) (step_of_not_isMeta hFlags hMeta _)

/-- An escaped text is read one character at a time, and what comes after it remains. -/
theorem finish_escapeChars (hFlags : r.body.flags = {}) (n : Nat) (cs tail : List Char) :
    finish (n + cs.length) { r with rest := escapeChars cs ++ tail } =
      finish n { r with body := r.body.pushAll (cs.map .char), rest := tail } := by
  induction cs generalizing r with
  | nil => rfl
  | cons c cs ih =>
    rw [List.length_cons, ← Nat.add_assoc, finish_escapeChars_cons hFlags]
    exact ih (r := r.push (.char c) r.rest) hFlags

/-- Behind it the end of the text is asked for, and the group around it is closed. -/
theorem finish_dollar (hFlags : r.body.flags = {}) (n : Nat) :
    finish (n + 3) { r with rest := ['$', ')'] } =
      closeAround (r.body.push (.assert .textEnd) 0).close r.outer := by
  rw [finish_of_cons (skip_of_eq hFlags _)]
  refine (congrArg (· >>= finish (n + 2)) (step_dollar hFlags _)).trans ?_
  exact finish_of_parenthesis (r := r.push (.assert .textEnd) [')']) (skip_of_eq hFlags _) n

/-- In a group of its own, an escaped text with a dollar sign behind it comes to its characters and
the end of the text. -/
theorem finish_escaped (cs : List Char) (outer : List Body) :
    finish ((escapeChars cs ++ ['$']).length + 4)
        { outer, rest := escapeChars cs ++ ['$'] ++ [')'] } =
      closeAround (Body.pushAll {} (cs.map .char ++ [.assert .textEnd])).close outer := by
  -- there is a round for every character of the text, and there are more for what comes after it
  obtain ⟨k, hk⟩ := Nat.le.dest (length_le_length_escapeChars cs)
  have hRounds : (escapeChars cs ++ ['$']).length + 4 = k + 2 + 3 + cs.length := by
    simp only [List.length_append, List.length_singleton]
    omega
  let start : Reading := { outer, rest := [] }
  let body : Body := Body.pushAll {} (cs.map .char)
  have hBody : body.push (.assert .textEnd) 0 =
      Body.pushAll {} (cs.map .char ++ [.assert .textEnd]) := by
    rw [Body.pushAll_append]
    rfl
  rw [hRounds, List.append_assoc, ← hBody]
  refine (finish_escapeChars (r := start) rfl (k + 2 + 3) cs ['$', ')']).trans ?_
  exact finish_dollar (r := { start with body }) (Body.flags_pushAll _ _) (k + 2)

end Reading

/-- With a dollar sign behind it and the anchor around it, an escaped text stands for the text and
its end. -/
theorem parse_escaped (s : String) :
    parse (anchor (String.ofList (escapeChars s.toList) ++ "$")).toList =
      .ok (Expr.exactly s.toList).anchored := by
  have hSource : (String.ofList (escapeChars s.toList) ++ "$").toList =
      escapeChars s.toList ++ ['$'] := by simp
  have hRead := Reading.finish_escaped s.toList [anchorBody]
  rw [closeAround_anchorBody] at hRead
  obtain ⟨hValue, hDepth⟩ := Body.close_pushAll (s.toList.map .char ++ [.assert .textEnd])
  rw [parse_anchor, hSource]
  refine (congrArg (· >>= checkDepth) hRead).trans (checkDepth_eq_ok_iff.mpr ⟨?_, ?_⟩)
  · -- the sequence, the group around it and the anchor before it
    exact (Nat.add_le_add_right hDepth 2).trans (by decide)
  · rw [hValue]
    rfl

/-- It is refused only if it takes too much room. -/
theorem compile_escaped (s : String) :
    compile (String.ofList (escapeChars s.toList) ++ "$") =
      if maxRoom < (Expr.exactly s.toList).anchored.room then .error (.tooLarge maxRoom)
      else .ok (Expr.exactly s.toList).anchored := by
  rw [compile, compileChars, parse_escaped]
  rfl

end StreamVerdict.Regex
