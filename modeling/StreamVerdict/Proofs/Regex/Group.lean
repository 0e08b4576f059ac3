import Mathlib.Data.List.Basic
import StreamVerdict.Proofs.Regex.Bracket
import StreamVerdict.Proofs.Regex.Ordered

/-!
# Groups with a parenthesis behind

Outside of brackets a parenthesis that is not escaped closes a group. So a text
that is an expression by itself, read as part of a larger one, is read up to its
end as it would be by itself, and the parenthesis behind it closes the group
that was open when it began. This group is no matter of the text: `within` puts
any groups around a reading, and every piece but the closing parenthesis does
the same to it.

A text that is no expression by itself does not become one. There is one
exception, where it closes a group that it has not opened: then the rest of it
is read outside of that group.

Main definitions:

* `Reading.within`: a reading with more groups around it;
* `Ending`: how a text, read inside of other groups with a parenthesis behind
  it, compares with the text by itself.

Main results:

* `Flags.opening_tracks` and `Flags.bounds_tracks`: openings of groups, and
  bounds of repetitions;
* `Reading.step_tracks` and `Reading.step_within`: what one piece does;
* `Reading.finish_ending`: what the whole reading comes to.
-/

namespace StreamVerdict.Regex

variable {src cs cs' : List Char}

/-! ## Openings of groups -/

theorem readGroupName_tracks (h : Remains src cs cs') :
    Tracks (Agree src) (fun _ => False) (readGroupName cs) (readGroupName cs') := by
  cases h with
  | swallowed => exact .errors
  | behind hSuffix =>
    cases hDrop : cs.dropWhile (· ≠ '>') with
    | nil =>
      -- the name is not closed, and the parenthesis does not close it
      have hDrop' : (cs ++ [')']).dropWhile (· ≠ '>') = [] := by
        rw [List.dropWhile_append, hDrop]
        rfl
      rw [readGroupName, readGroupName, hDrop, hDrop']
      exact .errors
    | cons c rest =>
      obtain ⟨hTake, hDrop'⟩ := cut_append hDrop [')']
      have hRest : rest <:+ cs :=
        (List.suffix_cons c rest).trans (hDrop ▸ List.dropWhile_suffix _)
      rw [readGroupName, readGroupName, hDrop, hDrop', hTake]
      dsimp only
      split
      next => exact .errors
      next =>
        split_ifs
        · exact .ok ⟨rfl, .behind (hRest.trans hSuffix)⟩
        · exact .errors

/-- Flags up to the character that ends them. At the end of the text, the parenthesis does. -/
theorem readFlags_tracks (seen : List Char) (on : Bool) (f : Flags) (h : Remains src cs cs') :
    Tracks (fun a b => Agree₂ src a b ∧ a.2.2 ≠ []) (·.2.2 = [')']) (readFlags seen on f cs)
      (readFlags seen on f cs') := by
  induction cs generalizing cs' seen on f with
  | nil =>
    -- the flags go on up to the end, where the parenthesis would close them
    refine .error fun b hb => ?_
    rcases h.eq_or_eq_of_nil with rfl | rfl
    · simp only [readFlags] at hb
      split_ifs at hb with hEnds
      · cases hb
        rfl
      all_goals exact absurd (by decide) hEnds
    · cases hb
  | cons c cs ih =>
    obtain rfl := h.eq_of_cons
    simp only [readFlags]
    split_ifs
    · exact .errors
    · exact .ok ⟨⟨rfl, rfl, h⟩, nofun⟩
    · exact .errors
    · exact ih _ _ _ h.tail
    · split
      next => exact ih _ _ _ h.tail
      next => exact .errors

/-- A group with a name. -/
def Flags.nameOpening (f : Flags) (cs : List Char) : Except Fault (Opening × List Char) := do
  let (name, rest) ← readGroupName cs
  .ok (.group f (some name), rest)

/-- What flags begin, by the character that ends them. -/
def endFlags (inner : Flags) (seen rest : List Char) : Except Fault (Opening × List Char) :=
  match rest with
  | ')' :: rest => if seen.isEmpty then .error .repetitionMissing else .ok (.flags inner, rest)
  | _ => .ok (.group inner none, rest.drop 1)

/-- A group with flags, or flags alone. -/
def Flags.flagsOpening (f : Flags) (cs : List Char) : Except Fault (Opening × List Char) := do
  let (inner, seen, rest) ← readFlags [] true f cs
  endFlags inner seen rest

/-- What comes after a question mark. -/
def Flags.markedOpening (f : Flags) (cs : List Char) : Except Fault (Opening × List Char) :=
  match cs with
  | '=' :: _ | '!' :: _ | '<' :: '=' :: _ | '<' :: '!' :: _ => .error .lookAround
  | 'P' :: '<' :: rest | '<' :: rest => f.nameOpening rest
  | rest => f.flagsOpening rest

theorem Flags.opening_of_mark {f : Flags} (h : f.skip cs = '?' :: cs') :
    f.opening cs = f.markedOpening cs' := by
  unfold Flags.opening
  rw [h]
  split
  next hEq => cases hEq; rfl
  next hEq => cases hEq; rfl
  next hEq => cases hEq; rfl
  next hEq => cases hEq; rfl
  next hEq => cases hEq; rfl
  next hSame hNot hEq =>
    cases hEq
    exact (Flags.markedOpening.eq_6 _ _ hSame hNot).symm
  next hSame hNot hBehind hBehindNot hNamed hName hEq =>
    cases hEq
    exact (Flags.markedOpening.eq_7 _ _ hSame hNot hBehind hBehindNot hNamed hName).symm
  next hEq => exact absurd rfl (hEq _)

theorem Flags.opening_of_other {f : Flags} (h : ∀ rest, f.skip cs ≠ '?' :: rest) :
    f.opening cs = .ok (.group f none, f.skip cs) := by
  unfold Flags.opening
  split
  all_goals first | rfl | (rename_i hEq; exact absurd hEq (h _))

theorem Flags.nameOpening_tracks (f : Flags) (h : Remains src cs cs') :
    Tracks (Agree src) (·.2 = []) (f.nameOpening cs) (f.nameOpening cs') := by
  refine (readGroupName_tracks h).bind_ok ?_
  rintro ⟨name, rest⟩ ⟨_, rest'⟩ ⟨rfl, hRest⟩
  exact .ok ⟨rfl, hRest⟩

theorem endFlags_of_ne {inner : Flags} {seen : List Char} {c : Char} (hc : c ≠ ')') :
    endFlags inner seen (c :: cs) = .ok (.group inner none, cs) := by
  unfold endFlags
  split
  next h => exact absurd (List.cons_eq_cons.mp h).1 hc
  next => rfl

/-- Flags. The parenthesis can end them, and then nothing comes after it. -/
theorem Flags.flagsOpening_tracks (f : Flags) (h : Remains src cs cs') :
    Tracks (Agree src) (·.2 = []) (f.flagsOpening cs) (f.flagsOpening cs') := by
  refine (readFlags_tracks [] true f h).bind ?_ ?_
  · rintro ⟨inner, seen, rest⟩ ⟨_, _, rest'⟩ ⟨⟨rfl, rfl, hRest⟩, hne⟩
    dsimp only at hRest hne ⊢
    cases rest with
    | nil => exact absurd rfl hne
    | cons c rest =>
      obtain rfl := hRest.eq_of_cons
      by_cases hc : c = ')'
      · subst hc
        simp only [endFlags]
        split_ifs
        · exact .errors
        · exact .ok ⟨rfl, hRest.tail⟩
      · rw [endFlags_of_ne hc, endFlags_of_ne hc]
        exact .ok ⟨rfl, hRest.tail⟩
  · -- flags that the parenthesis has closed leave nothing
    rintro ⟨inner, seen, rest⟩ b hSpoilt hb
    obtain rfl : rest = [')'] := hSpoilt
    simp only [endFlags] at hb
    split_ifs at hb
    cases hb
    rfl

theorem Flags.markedOpening_tracks (f : Flags) (h : Remains src cs cs') :
    Tracks (Agree src) (·.2 = []) (f.markedOpening cs) (f.markedOpening cs') := by
  rw [Flags.markedOpening.eq_def f cs]
  split
  -- a look ahead or behind is refused in either reading
  next => rw [h.eq_of_cons]; exact .errors
  next => rw [h.eq_of_cons]; exact .errors
  next => rw [h.eq_of_cons]; exact .errors
  next => rw [h.eq_of_cons]; exact .errors
  next => rw [h.eq_of_cons]; exact f.nameOpening_tracks h.tail.tail
  next hSame hNot =>
    -- the parenthesis does not make it a look behind
    rw [h.eq_of_cons, Flags.markedOpening.eq_6 _ _ (h.tail.ne_cons (by decide) hSame)
      (h.tail.ne_cons (by decide) hNot)]
    exact f.nameOpening_tracks h.tail
  next hSame hNot _ _ hNamed hName =>
    have hName' : ∀ rest, cs' ≠ '<' :: rest := h.ne_cons (by decide) hName
    have hNamed' : ∀ rest, cs' ≠ 'P' :: '<' :: rest := by
      rintro rest rfl
      obtain ⟨left, rfl⟩ := h.exists_of_cons (by decide)
      have hLeft := h.tail
      rw [← (List.cons_eq_cons.mp h.eq_of_cons).2] at hLeft
      obtain ⟨left, rfl⟩ := hLeft.exists_of_cons (by decide)
      exact hNamed left rfl
    rw [Flags.markedOpening.eq_7 _ _ (h.ne_cons (by decide) hSame) (h.ne_cons (by decide) hNot)
      (fun _ => hName' _) (fun _ => hName' _) hNamed' hName']
    exact f.flagsOpening_tracks h

/-- All that an opening parenthesis can begin. -/
theorem Flags.opening_tracks (f : Flags) (h : Remains src cs cs') :
    Tracks (Agree src) (·.2 = []) (f.opening cs) (f.opening cs') := by
  have hSkip := h.skip f
  rcases hSkip.next_or_other (c := '?') (by decide) with
    ⟨rest, hMark, hMark', hRest⟩ | ⟨hne, hne'⟩
  · rw [Flags.opening_of_mark hMark, Flags.opening_of_mark hMark']
    exact f.markedOpening_tracks hRest
  · rw [Flags.opening_of_other hne, Flags.opening_of_other hne']
    exact .ok ⟨rfl, hSkip⟩

/-! ## Repetitions -/

theorem dropLazy_of_ne (h : ∀ rest, cs ≠ '?' :: rest) : dropLazy cs = cs := by
  unfold dropLazy
  split
  next => exact absurd rfl (h _)
  next => rfl

theorem Remains.dropLazy (h : Remains src cs cs') : Remains src (dropLazy cs) (dropLazy cs') := by
  rcases h.next_or_other (c := '?') (by decide) with ⟨rest, rfl, rfl, hRest⟩ | ⟨hne, hne'⟩
  · exact hRest
  · rwa [dropLazy_of_ne hne, dropLazy_of_ne hne']

theorem Flags.afterComma_tracks (f : Flags) (h : Remains src cs cs') :
    Tracks (Agree src) (fun _ => False) (f.afterComma cs) (f.afterComma cs') := by
  rcases h.next_or_other (c := '\x7d') (by decide) with ⟨rest, rfl, rfl, -⟩ | ⟨hne, hne'⟩
  · exact .ok ⟨rfl, h⟩
  · rw [Flags.afterComma.eq_2 _ _ hne, Flags.afterComma.eq_2 _ _ hne']
    refine (f.count_tracks h).bind_ok ?_
    rintro ⟨hi, rest⟩ ⟨_, rest'⟩ ⟨rfl, hRest⟩
    exact .ok ⟨rfl, hRest⟩

theorem Flags.upperBound_tracks (f : Flags) (lo : Nat) (h : Remains src cs cs') :
    Tracks (Agree src) (fun _ => False) (f.upperBound lo cs) (f.upperBound lo cs') := by
  rcases h.next_or_other (c := ',') (by decide) with ⟨rest, rfl, rfl, hRest⟩ | ⟨hne, hne'⟩
  · exact f.afterComma_tracks (hRest.skip f)
  · rw [Flags.upperBound.eq_2 _ _ _ hne, Flags.upperBound.eq_2 _ _ _ hne']
    exact .ok ⟨rfl, h⟩

theorem Flags.endBounds_tracks (f : Flags) (lo : Nat) (hi : Option Nat)
    (h : Remains src cs cs') :
    Tracks (Agree₂ src) (fun _ => False) (f.endBounds lo hi cs) (f.endBounds lo hi cs') := by
  rcases h.next_or_other (c := '\x7d') (by decide) with ⟨rest, rfl, rfl, hRest⟩ | ⟨hne, hne'⟩
  · simp only [Flags.endBounds]
    split_ifs
    · exact .errors
    · exact .ok ⟨rfl, rfl, (hRest.skip f).dropLazy⟩
  · rw [Flags.endBounds.eq_2 _ _ _ _ hne, Flags.endBounds.eq_2 _ _ _ _ hne']
    exact .errors

/-- Bounds of a repetition, in braces. -/
theorem Flags.bounds_tracks (f : Flags) (h : Remains src cs cs') :
    Tracks (Agree₂ src) (fun _ => False) (f.bounds cs) (f.bounds cs') := by
  rw [Flags.bounds_eq, Flags.bounds_eq]
  refine (f.count_tracks (h.skip f)).bind_ok ?_
  rintro ⟨lo, rest⟩ ⟨_, rest'⟩ ⟨rfl, hRest⟩
  refine (f.upperBound_tracks lo hRest).bind_ok ?_
  rintro ⟨hi, rest⟩ ⟨_, rest'⟩ ⟨rfl, hRest⟩
  exact f.endBounds_tracks lo hi hRest

/-- The parenthesis alone is no bound. -/
theorem Flags.bounds_of_parenthesis {f : Flags} (h : f.skip cs = [')']) :
    f.bounds cs = .error .countMissing := by
  rw [Flags.bounds_eq, h]
  rfl

/-! ## Groups around a reading -/

namespace Reading

/-- A reading with more groups around it. -/
def within (base : List Body) (r : Reading) : Reading :=
  { r with outer := r.outer ++ base }

variable {r : Reading} {c : Char}

theorem bind_within {α : Type} {x : Except Fault α} {f g : α → Except Fault Reading}
    {base : List Body} (h : ∀ a, g a = (f a).map (within base)) :
    x >>= g = (x >>= f).map (within base) := by
  cases x with
  | ok a => exact h a
  | error err => rfl

theorem open?_within (base : List Body) :
    (r.within base).open? cs = (r.open? cs).map (within base) := by
  rw [open?_eq, open?_eq]
  refine bind_within fun (opening, rest) => ?_
  cases opening with
  | flags f => rfl
  | group f name => exact bind_within fun _ => rfl

theorem repeat?_within (base : List Body) (lo : Nat) (hi : Option Nat) :
    (r.within base).repeat? lo hi cs = (r.repeat? lo hi cs).map (within base) :=
  bind_within fun _ => rfl

/-- Every piece does the same inside of other groups, as long as it closes none of them. -/
theorem step_within (hClose : c = ')' → r.outer ≠ []) (base : List Body) :
    (r.within base).step c cs = (r.step c cs).map (within base) := by
  -- Only the parentheses look at the groups around: an opening one puts its body in front of
  -- them, and a closing one takes the first of them, which is not one of `base`.
  unfold Reading.step
  split
  · exact open?_within base
  · obtain ⟨b, outer, hOuter⟩ := List.exists_cons_of_ne_nil (hClose rfl)
    simp only [Reading.close?, within, hOuter]
    rfl
  · rfl
  · exact bind_within fun _ => rfl
  · exact repeat?_within base _ _
  · exact repeat?_within base _ _
  · exact repeat?_within base _ _
  · exact bind_within fun _ => bind_within fun (lo, hi, _) => repeat?_within base lo hi
  · exact bind_within fun _ => bind_within fun _ => rfl
  · exact bind_within fun _ => rfl
  · rfl
  · rfl
  · exact bind_within fun _ => rfl

/-! ## One piece -/

/-- What was read with the help of the parenthesis: nothing is left, or an opening brace and the
parenthesis. -/
def IsSpoilt (r : Reading) : Prop :=
  r.rest = [] ∨ r.body.flags.IsBraceOnly r.rest

/-- Two readings that differ in what they have left over. -/
inductive Alongside (src : List Char) (r : Reading) : Reading → Prop
  | mk {rest' : List Char} (h : Remains src r.rest rest') : Alongside src r { r with rest := rest' }

theorem open?_tracks (r : Reading) (cs : List Char) :
    Tracks (Alongside cs) IsSpoilt (r.open? cs) (r.open? (cs ++ [')'])) := by
  rw [open?_eq, open?_eq]
  refine (r.body.flags.opening_tracks (.refl cs)).bind ?_ ?_
  · -- the same opening, and what is left of the source is left in both
    rintro ⟨opening, rest⟩ ⟨_, rest'⟩ ⟨rfl, hRest⟩
    cases opening with
    | flags f => exact .ok (.mk hRest)
    | group f name => exact .bind_same fun names => .ok (.mk hRest)
  · -- behind a spoilt opening there is nothing
    rintro ⟨opening, rest⟩ b hNil hb
    cases opening with
    | flags f =>
      cases hb
      exact .inl hNil
    | group f name =>
      obtain ⟨names, -, hb⟩ := Traversal.bind_eq_ok_iff.mp hb
      cases hb
      exact .inl hNil

theorem repeat?_tracks (r : Reading) (lo : Nat) (hi : Option Nat) (h : Remains src cs cs') :
    Tracks (Alongside src) IsSpoilt (r.repeat? lo hi cs) (r.repeat? lo hi cs') :=
  .bind_same fun _ => .ok (.mk h)

/-- One piece, except for a parenthesis that closes nothing. -/
theorem step_tracks (hClose : c = ')' → r.outer ≠ []) (cs : List Char) :
    Tracks (Alongside cs) IsSpoilt (r.step c cs) (r.step c (cs ++ [')'])) := by
  have hLazy : Remains cs (dropLazy cs) (dropLazy (cs ++ [')'])) := (Remains.refl cs).dropLazy
  unfold Reading.step
  -- most pieces end before the parenthesis; an escape may need what is behind it
  split
  · exact r.open?_tracks cs
  · obtain ⟨b, outer, hOuter⟩ := List.exists_cons_of_ne_nil (hClose rfl)
    simp only [Reading.close?, hOuter]
    exact .ok (.mk (.refl cs))
  · exact .ok (.mk (.refl cs))
  · refine (r.body.flags.bracket_tracks cs).bind_ok ?_
    rintro ⟨s, rest⟩ ⟨_, rest'⟩ ⟨rfl, hRest⟩
    exact .ok (.mk hRest)
  · exact r.repeat?_tracks _ _ hLazy
  · exact r.repeat?_tracks _ _ hLazy
  · exact r.repeat?_tracks _ _ hLazy
  · refine .bind_same fun _ => (r.body.flags.bounds_tracks (.refl cs)).bind_ok ?_
    rintro ⟨lo, hi, rest⟩ ⟨_, _, rest'⟩ ⟨rfl, rfl, hRest⟩
    exact r.repeat?_tracks _ _ hRest
  · refine (r.body.flags.escape_tracks (.refl cs)).bind ?_ ?_
    · rintro ⟨a, rest⟩ ⟨_, rest'⟩ ⟨rfl, hRest⟩
      exact .bind_same fun e => .ok (.mk hRest)
    · rintro ⟨a, rest⟩ b hSpoilt hb
      obtain ⟨e, he, hb⟩ := Traversal.bind_eq_ok_iff.mp hb
      cases hb
      rcases hSpoilt with hNil | ⟨-, hBrace⟩
      · exact .inl hNil
      · exact .inr hBrace
  · exact .bind_same fun e => .ok (.mk (.refl cs))
  · exact .ok (.mk (.refl cs))
  · exact .ok (.mk (.refl cs))
  · exact .bind_same fun e => .ok (.mk (.refl cs))

theorem finish_of_nil (h : r.body.flags.skip r.rest = []) (n : Nat) :
    r.finish (n + 1) =
      if r.outer.isEmpty then .ok r.body.close else .error .groupUnclosed := by
  rw [Reading.finish, h]

theorem finish_of_cons (h : r.body.flags.skip r.rest = c :: cs) (n : Nat) :
    r.finish (n + 1) = r.step c cs >>= finish n := by
  rw [Reading.finish, h]

/-- Inside of a group that is not closed, what is spoilt comes to nothing. -/
theorem finish_of_isSpoilt (hSpoilt : r.IsSpoilt) (hOuter : r.outer ≠ []) (n : Nat)
    (p : Nested Expr) : r.finish n ≠ .ok p := by
  intro h
  cases n with
  | zero => cases h
  | succ n =>
    rcases hSpoilt with hNil | ⟨ahead, hBrace, hAhead⟩
    · -- the source is used up while a group is open
      rw [finish_of_nil (by rw [hNil, Flags.skip_nil])] at h
      simp [hOuter] at h
    · -- the brace opens bounds of a repetition, and the parenthesis is no number
      have hSkip : r.body.flags.skip r.rest = '\x7b' :: ahead := by
        rw [hBrace, r.body.flags.skip_cons_of_ne (by decide) (by decide)]
      rw [finish_of_cons hSkip] at h
      obtain ⟨r', hStep, -⟩ := Traversal.bind_eq_ok_iff.mp h
      obtain ⟨_, -, hStep⟩ := Traversal.bind_eq_ok_iff.mp hStep
      obtain ⟨_, hBounds, -⟩ := Traversal.bind_eq_ok_iff.mp hStep
      rw [Flags.bounds_of_parenthesis hAhead] at hBounds
      cases hBounds

/-! ## The whole expression -/

/-- What a text comes to inside of other groups, with the parenthesis behind it, if `p` is what
it comes to by itself. The parenthesis closes the innermost of these groups, and there must not be
more of them. -/
def closeAround (p : Nested Expr) : List Body → Except Fault (Nested Expr)
  | [] => .error .groupUnopened
  | [b] => .ok (b.push p.value (1 + p.depth)).close
  | _ => .error .groupUnclosed

end Reading

/-- How the outcome of reading a text compares with the outcomes of reading it inside of other
groups, with a parenthesis behind it. -/
inductive Ending (src : List Char) :
    Except Fault (Nested Expr) → (List Body → Except Fault (Nested Expr)) → Prop
  /-- The text is an expression, and the parenthesis closes the group around it. -/
  | closed {p : Nested Expr} {y : List Body → Except Fault (Nested Expr)}
    (h : ∀ base, y base = Reading.closeAround p base) : Ending src (.ok p) y
  /-- The text is an expression, and the parenthesis belongs to a comment in it. -/
  | swallowed {p : Nested Expr} {y : List Body → Except Fault (Nested Expr)} (hMem : '#' ∈ src)
    (h : ∀ base, y base = if base.isEmpty then .ok p else .error .groupUnclosed) :
    Ending src (.ok p) y
  /-- The text closes a group that it has not opened. -/
  | unopened {y : List Body → Except Fault (Nested Expr)} : Ending src (.error .groupUnopened) y
  /-- The text is no expression, and does not become one. -/
  | refused {err : Fault} {y : List Body → Except Fault (Nested Expr)}
    (h : ∀ base ≠ [], ∀ p, y base ≠ .ok p) : Ending src (.error err) y

namespace Reading

variable {r : Reading} {rest' : List Char} {n m : Nat}

theorem closeAround_cons_ne_ok {b : Body} {base : List Body} (hBase : base ≠ [])
    (p q : Nested Expr) : closeAround p (b :: base) ≠ .ok q := by
  cases base with
  | nil => exact absurd rfl hBase
  | cons => nofun

/-- A parenthesis and nothing else closes the group that is open. -/
theorem finish_of_parenthesis (h : r.body.flags.skip r.rest = [')']) (n : Nat) :
    r.finish (n + 2) = closeAround r.body.close r.outer := by
  rw [finish_of_cons h]
  change r.close? [] >>= finish (n + 1) = _
  cases hOuter : r.outer with
  | nil =>
    simp only [Reading.close?, hOuter]
    rfl
  | cons b outer =>
    simp only [Reading.close?, hOuter]
    refine (finish_of_nil (Flags.skip_nil _) n).trans ?_
    cases outer <;> rfl

/-- The end of the text. -/
theorem finish_ending_of_nil (hAhead : r.body.flags.skip r.rest = [])
    (h : Remains src r.rest rest') :
    Ending src (r.finish (n + 1))
      fun base => (within base { r with rest := rest' }).finish (m + 2) := by
  have hSkip := h.skip r.body.flags
  rw [hAhead] at hSkip
  generalize hAhead' : r.body.flags.skip rest' = ahead' at hSkip
  rw [finish_of_nil hAhead]
  cases hSkip with
  | behind =>
    -- the parenthesis is read, and closes the group that was opened around the source
    have hFinish (base : List Body) : (within base { r with rest := rest' }).finish (m + 2) =
        closeAround r.body.close (r.outer ++ base) :=
      finish_of_parenthesis hAhead' m
    simp only [hFinish]
    cases r.outer with
    | nil => exact .closed fun base => rfl
    | cons b outer =>
      exact .refused fun base hBase p => closeAround_cons_ne_ok (by simp [hBase]) _ p
  | swallowed hMem =>
    -- a comment has taken the parenthesis
    have hFinish (base : List Body) : (within base { r with rest := rest' }).finish (m + 2) =
        if (r.outer ++ base).isEmpty then .ok r.body.close else .error .groupUnclosed :=
      finish_of_nil hAhead' (m + 1)
    simp only [hFinish]
    cases r.outer with
    | nil => exact .swallowed hMem fun base => rfl
    | cons b outer => exact .refused fun base hBase p => nofun

/-- Every piece uses the character that it begins with. -/
theorem step_suffix {c : Char} {r' : Reading} (h : r.step c cs = .ok r') : r'.rest <:+ cs := by
  have hClose : c = ')' → r.outer ≠ [] := by
    rintro rfl hOuter
    replace h : r.close? cs = .ok r' := h
    rw [Reading.close?, hOuter] at h
    cases h
  have hTracks := step_tracks hClose cs
  rw [h] at hTracks
  generalize r.step c (cs ++ [')']) = y at hTracks
  cases hTracks with
  | ok hAlong =>
    obtain ⟨hRest⟩ := hAlong
    exact hRest.suffix

/-- More rounds than there are characters make no difference. -/
theorem finish_eq_of_lt (hn : r.rest.length < n) (hm : r.rest.length < m) :
    r.finish n = r.finish m := by
  induction n generalizing r m with
  | zero => cases hn
  | succ n ih =>
    obtain ⟨m, rfl⟩ : ∃ k, m = k + 1 := ⟨m - 1, by omega⟩
    have hLen := (r.body.flags.skip_suffix r.rest).length_le
    cases hAhead : r.body.flags.skip r.rest with
    | nil => rw [finish_of_nil hAhead, finish_of_nil hAhead]
    | cons c cs =>
      rw [hAhead, List.length_cons] at hLen
      rw [finish_of_cons hAhead, finish_of_cons hAhead]
      cases hStep : r.step c cs with
      | error err => rfl
      | ok r' =>
        have hle := (step_suffix hStep).length_le
        exact ih (by omega) (by omega)

/-- A text is read up to its end as it is by itself. -/
theorem finish_ending (h : Remains src r.rest rest') (hn : r.rest.length < n)
    (hm : r.rest.length + 1 < m) :
    Ending src (r.finish n) fun base => (within base { r with rest := rest' }).finish m := by
  -- on the rounds by itself; the parenthesis takes one round more
  induction n generalizing r rest' m with
  | zero => cases hn
  | succ n ih =>
    obtain ⟨m, rfl⟩ : ∃ k, m = k + 2 := ⟨m - 2, by omega⟩
    have hSkip := h.skip r.body.flags
    have hLen := (r.body.flags.skip_suffix r.rest).length_le
    cases hAhead : r.body.flags.skip r.rest with
    | nil => exact finish_ending_of_nil hAhead h
    | cons c cs =>
      rw [hAhead] at hSkip hLen
      rw [List.length_cons] at hLen
      have hAhead' := hSkip.eq_of_cons
      have hFinish (base : List Body) : (within base { r with rest := rest' }).finish (m + 2) =
          (within base r).step c (cs ++ [')']) >>= finish (m + 1) :=
        finish_of_cons hAhead' (m + 1)
      simp only [hFinish]
      rw [finish_of_cons hAhead]
      -- A parenthesis that closes nothing here closes one of the groups in `base` there. Every
      -- other piece is read in the same way, or with the help of the parenthesis behind it.
      by_cases hUnopened : c = ')' ∧ r.outer = []
      · obtain ⟨rfl, hOuter⟩ := hUnopened
        have hStep : r.step ')' cs = .error .groupUnopened := by
          change r.close? cs = _
          rw [Reading.close?, hOuter]
        rw [hStep]
        exact .unopened
      · have hClose : c = ')' → r.outer ≠ [] := fun hc hOuter => hUnopened ⟨hc, hOuter⟩
        simp only [step_within hClose]
        have hTracks := step_tracks hClose cs
        generalize r.step c cs = x at hTracks ⊢
        generalize r.step c (cs ++ [')']) = y at hTracks ⊢
        cases hTracks with
        | ok hAlong =>
          -- the same piece has been read, and the rest is shorter
          obtain ⟨hRest⟩ := hAlong
          have hle := hRest.suffix.length_le
          exact ih (hRest.mono hSkip.tail.suffix) (by omega) (by omega)
        | error hSpoilt =>
          -- alone this is an error, and with the parenthesis what follows is one
          refine .refused fun base hBase p hp => ?_
          obtain ⟨r', hr', hp⟩ := Traversal.bind_eq_ok_iff.mp hp
          cases y with
          | error => cases hr'
          | ok r'' =>
            cases hr'
            exact finish_of_isSpoilt (r := within base r'') (hSpoilt r'' rfl)
              (List.append_ne_nil_of_right_ne_nil _ hBase) _ p hp

end Reading

end StreamVerdict.Regex
