import Mathlib.Data.List.Basic
import StreamVerdict.Proofs.Regex.Parenthesis
import StreamVerdict.Regex.Bracket

/-!
# Brackets with a parenthesis behind

Inside a bracket a parenthesis is a character like any other, so a text that
ends in an open bracket goes on with the parenthesis as one more item. It is
refused all the same, since nothing closes the bracket: whatever is read with
the help of the parenthesis, the end of the text comes next.

Main results:

* `Flags.namedClass_append` and `Flags.peekSecond_append_iff`: the readers that
  look ahead without taking anything do not see the parenthesis;
* `Flags.bracketItem_tracks`: one item;
* `Flags.bracketLoop_tracks` and `Flags.bracket_tracks`: a bracket is closed in
  both readings or in none.
-/

namespace StreamVerdict.Regex

variable {src cs cs' : List Char}

/-! ## Classes named between colons -/

/-- The name of a class and what ends it. -/
def Flags.classNamed (f : Flags) (negated : Bool) (cs : List Char) :
    Option (Except Fault CharSet × List Char) :=
  match cs.dropWhile (· ≠ ':') with
  | ':' :: ']' :: rest =>
    (asciiClass? (String.ofList (cs.takeWhile (· ≠ ':')))).map fun s =>
      (f.foldNegate negated s, rest)
  | _ => none

theorem Flags.classNamed_append (f : Flags) (negated : Bool) (cs : List Char) :
    f.classNamed negated (cs ++ [')']) =
      (f.classNamed negated cs).map fun (s, rest) => (s, rest ++ [')']) := by
  cases hDrop : cs.dropWhile (· ≠ ':') with
  | nil =>
    -- no colon, with the parenthesis or without
    have hDrop' : (cs ++ [')']).dropWhile (· ≠ ':') = [] := by
      rw [List.dropWhile_append, hDrop]
      rfl
    simp only [Flags.classNamed, hDrop, hDrop', Option.map_none]
  | cons c rest =>
    obtain ⟨hTake, hDrop'⟩ := cut_append hDrop [')']
    rw [Flags.classNamed, Flags.classNamed, hTake, hDrop, hDrop']
    cases rest with
    | nil => simp
    | cons d rest =>
      by_cases hClosed : c = ':' ∧ d = ']'
      · -- the name is closed by `:]`, and the parenthesis stays behind it
        obtain ⟨rfl, rfl⟩ := hClosed
        cases asciiClass? (String.ofList (cs.takeWhile (· ≠ ':'))) <;> rfl
      · split
        next hEq => simp_all
        next =>
          split
          next hEq => simp_all
          next => rfl

theorem Flags.classNamed_suffix {f : Flags} {negated : Bool} {s : Except Fault CharSet}
    {rest : List Char} (h : f.classNamed negated cs = some (s, rest)) : rest <:+ cs := by
  unfold Flags.classNamed at h
  split at h
  next rest' hDrop =>
    obtain ⟨_, -, hs⟩ := Option.map_eq_some_iff.mp h
    obtain ⟨-, rfl⟩ := Prod.mk.inj hs
    have hSuffix : rest' <:+ ':' :: ']' :: rest' := List.suffix_append [':', ']'] rest'
    exact hSuffix.trans (hDrop ▸ List.dropWhile_suffix _)
  next => cases h

/-- The sign of a class that lists what is excluded. -/
def classSign : List Char → Bool × List Char
  | '^' :: cs => (true, cs)
  | cs => (false, cs)

theorem Flags.namedClass_colon (f : Flags) (cs : List Char) :
    f.namedClass (':' :: cs) = f.classNamed (classSign cs).1 (classSign cs).2 :=
  rfl

theorem Flags.namedClass_of_ne {f : Flags} {c : Char} (hc : c ≠ ':') :
    f.namedClass (c :: cs) = none := by
  unfold Flags.namedClass
  split
  next h => exact absurd (List.cons_eq_cons.mp h).1 hc
  next => rfl

theorem classSign_of_ne {c : Char} (hc : c ≠ '^') : classSign (c :: cs) = (false, c :: cs) := by
  unfold classSign
  split
  next h => exact absurd (List.cons_eq_cons.mp h).1 hc
  next => rfl

theorem classSign_append (cs : List Char) :
    classSign (cs ++ [')']) = ((classSign cs).1, (classSign cs).2 ++ [')']) := by
  cases cs with
  | nil => rfl
  | cons c cs =>
    by_cases hc : c = '^'
    · subst hc
      rfl
    · rw [List.cons_append, classSign_of_ne hc, classSign_of_ne hc, List.cons_append]

theorem classSign_suffix (cs : List Char) : (classSign cs).2 <:+ cs := by
  unfold classSign
  split
  next => exact List.suffix_cons _ _
  next => exact List.suffix_refl _

/-- Whether a class is named does not depend on the parenthesis. -/
theorem Flags.namedClass_append (f : Flags) (cs : List Char) :
    f.namedClass (cs ++ [')']) =
      (f.namedClass cs).map fun (s, rest) => (s, rest ++ [')']) := by
  cases cs with
  | nil => rfl
  | cons c cs =>
    by_cases hc : c = ':'
    · subst hc
      rw [List.cons_append, Flags.namedClass_colon, Flags.namedClass_colon, classSign_append,
        Flags.classNamed_append]
    · rw [List.cons_append, Flags.namedClass_of_ne hc, Flags.namedClass_of_ne hc]
      rfl

theorem Flags.namedClass_suffix {f : Flags} {s : Except Fault CharSet} {rest : List Char}
    (h : f.namedClass cs = some (s, rest)) : rest <:+ cs := by
  cases cs with
  | nil => cases h
  | cons c cs =>
    by_cases hc : c = ':'
    · subst hc
      rw [Flags.namedClass_colon] at h
      exact (Flags.classNamed_suffix h).trans
        ((classSign_suffix cs).trans (List.suffix_cons _ _))
    · rw [Flags.namedClass_of_ne hc] at h
      cases h

/-! ## The beginning of a bracket -/

/-- The sign of a bracket that lists what is excluded. -/
def Flags.bracketSign (f : Flags) (cs : List Char) : Bool × List Char :=
  match f.skip cs with
  | '^' :: cs => (true, f.skip cs)
  | cs => (false, cs)

/-- The hyphens or the closing bracket that may come first. -/
def Flags.bracketStart (f : Flags) (negated : Bool) (run : List Char × List Char) :
    Except Fault (Bool × List (Nested CharSet) × List Char) :=
  match run.1, run.2 with
  | _, [] => .error .bracketUnclosed
  | [], ']' :: cs =>
    match f.skip cs with
    | [] => .error .bracketUnclosed
    | cs => .ok (negated, [⟨.single ']', 0⟩], cs)
  | _, _ => .ok (negated, run.1.map fun _ => ⟨.single '-', 0⟩, run.2)

theorem Flags.bracketStart_of_other {f : Flags} {negated : Bool} {hyphens : List Char} {c : Char}
    (h : hyphens ≠ [] ∨ c ≠ ']') :
    f.bracketStart negated (hyphens, c :: cs) =
      .ok (negated, hyphens.map fun _ => ⟨.single '-', 0⟩, c :: cs) := by
  unfold Flags.bracketStart
  split
  next hEq => cases hEq
  next hNil hClosing =>
    have hne := h.resolve_left (absurd hNil)
    exact absurd (List.cons_eq_cons.mp hClosing).1 hne
  next => rfl

theorem Flags.openBracket_eq (f : Flags) (cs : List Char) :
    f.openBracket cs =
      f.bracketStart (f.bracketSign cs).1 (f.takeWhile (· = '-') (f.bracketSign cs).2) :=
  rfl

theorem Flags.bracketSign_of_ne {f : Flags} (h : ∀ rest, f.skip cs ≠ '^' :: rest) :
    f.bracketSign cs = (false, f.skip cs) := by
  unfold Flags.bracketSign
  split
  next hEq => exact absurd hEq (h _)
  next => rfl

theorem Flags.bracketSign_agree (f : Flags) (h : Remains src cs cs') :
    Agree src (f.bracketSign cs) (f.bracketSign cs') := by
  have hSkip := h.skip f
  rcases hSkip.next_or_other (c := '^') (by decide) with
    ⟨rest, hSign, hSign', hRest⟩ | ⟨hne, hne'⟩
  · rw [Flags.bracketSign, Flags.bracketSign, hSign, hSign']
    exact ⟨rfl, hRest.skip f⟩
  · rw [Flags.bracketSign_of_ne hne, Flags.bracketSign_of_ne hne']
    exact ⟨rfl, hSkip⟩

/-- The beginning of a bracket. At the end of the text, the parenthesis is left for an item. -/
theorem Flags.bracketStart_tracks (f : Flags) (negated : Bool) {run run' : List Char × List Char}
    (h : Agree src run run') :
    Tracks (Agree₂ src) (·.2.2 = [')']) (f.bracketStart negated run)
      (f.bracketStart negated run') := by
  obtain ⟨hyphens, rest⟩ := run
  obtain ⟨hyphens', rest'⟩ := run'
  obtain ⟨rfl, hRest⟩ := h
  dsimp only at hRest
  cases rest with
  | nil =>
    rcases hRest.eq_or_eq_of_nil with rfl | rfl
    · refine .error fun b hb => ?_
      cases hyphens <;> cases hb <;> rfl
    · exact .errors
  | cons c rest =>
    obtain rfl := hRest.eq_of_cons
    -- only a `]` right behind the opening is taken as a character
    by_cases hOther : hyphens ≠ [] ∨ c ≠ ']'
    · rw [Flags.bracketStart_of_other hOther, Flags.bracketStart_of_other hOther]
      exact .ok ⟨rfl, rfl, hRest⟩
    · obtain ⟨rfl, rfl⟩ : hyphens = [] ∧ c = ']' := by simpa using hOther
      have hSkip := hRest.tail.skip f
      simp only [Flags.bracketStart]
      generalize f.skip rest = ahead at hSkip ⊢
      generalize f.skip (rest ++ [')']) = ahead' at hSkip ⊢
      cases ahead with
      | nil =>
        rcases hSkip.eq_or_eq_of_nil with rfl | rfl
        · refine .error fun b hb => ?_
          cases hb
          rfl
        · exact .errors
      | cons d ahead =>
        obtain rfl := hSkip.eq_of_cons
        exact .ok ⟨rfl, rfl, hSkip⟩

theorem Flags.openBracket_tracks (f : Flags) (h : Remains src cs cs') :
    Tracks (Agree₂ src) (·.2.2 = [')']) (f.openBracket cs) (f.openBracket cs') := by
  have hSign := f.bracketSign_agree h
  rw [Flags.openBracket_eq, Flags.openBracket_eq, ← hSign.value]
  exact f.bracketStart_tracks _ (f.takeWhile_remains (by decide) hSign.rest)

/-! ## Items -/

theorem Flags.bracketAtom_of_ne {f : Flags} {c : Char} (hc : c ≠ '\\') :
    f.bracketAtom (c :: cs) = .ok (.char c false, cs) := by
  unfold Flags.bracketAtom
  split
  next hEq => cases hEq
  next hEq => exact absurd (List.cons_eq_cons.mp hEq).1 hc
  next hEq =>
    obtain ⟨rfl, rfl⟩ := List.cons_eq_cons.mp hEq
    rfl

/-- Single characters and escapes. Every one of them takes its first character. -/
theorem Flags.bracketAtom_cons_tracks (f : Flags) (c : Char) (h : Remains src cs cs') :
    Tracks (Agree src) f.IsSpoiltAtom (f.bracketAtom (c :: cs)) (f.bracketAtom (c :: cs')) := by
  by_cases hc : c = '\\'
  · subst hc
    exact f.escape_tracks h
  · rw [Flags.bracketAtom_of_ne hc, Flags.bracketAtom_of_ne hc]
    exact .ok ⟨rfl, h⟩

theorem Flags.bracketAtom_tracks (f : Flags) (h : Remains src cs cs') :
    Tracks (Agree src) f.IsSpoiltAtom (f.bracketAtom cs) (f.bracketAtom cs') := by
  cases cs with
  | nil =>
    refine .error fun b hb => ?_
    rcases h.eq_or_eq_of_nil with rfl | rfl
    · cases hb
      exact .inl rfl
    · cases hb
  | cons c cs =>
    obtain rfl := h.eq_of_cons
    exact f.bracketAtom_cons_tracks c h.tail

/-- What stands after a number sign, with blanks passed over. -/
def afterSign : List Char → List Char
  | '#' :: rest => rest.dropWhile Text.isBlank
  | rest => rest

theorem afterSign_of_ne {c : Char} (hc : c ≠ '#') : afterSign (c :: cs) = c :: cs := by
  unfold afterSign
  split
  next h => exact absurd (List.cons_eq_cons.mp h).1 hc
  next => rfl

theorem afterSign_append (cs : List Char) : afterSign (cs ++ [')']) = afterSign cs ++ [')'] := by
  cases cs with
  | nil => rfl
  | cons c cs =>
    by_cases hc : c = '#'
    · subst hc
      exact dropWhile_append_parenthesis (by decide) cs
    · rw [List.cons_append, afterSign_of_ne hc, afterSign_of_ne hc, List.cons_append]

/-- The character after the first one is looked for behind blanks and a number sign. -/
theorem Flags.peekSecond_cons (f : Flags) (c : Char) (ahead : List Char) :
    f.peekSecond (c :: ahead) =
      if f.verbose then (afterSign (ahead.dropWhile Text.isBlank)).head?.or ahead.head?
      else ahead.head? := by
  unfold Flags.peekSecond
  cases f.verbose with
  | false => simp [List.head?_eq_getElem?]
  | true =>
    simp only [Bool.not_true, Bool.false_eq_true, if_false, if_true]
    split
    next d rest hFound =>
      replace hFound : afterSign (ahead.dropWhile Text.isBlank) = d :: rest := hFound
      rw [hFound]
      rfl
    next hFound =>
      replace hFound : afterSign (ahead.dropWhile Text.isBlank) = [] := hFound
      rw [hFound]
      rfl

/-- Where nothing else is found, a blank or a number sign comes next. -/
theorem isBlank_of_afterSign_eq_nil {ahead : List Char}
    (h : afterSign (ahead.dropWhile Text.isBlank) = []) :
    ∀ c ∈ ahead.head?, Text.isBlank c = true ∨ c = '#' := by
  intro c hc
  obtain ⟨rest, rfl⟩ := List.head?_eq_some_iff.mp hc
  by_contra hOther
  obtain ⟨hBlank, hSign⟩ := not_or.mp hOther
  rw [List.dropWhile_cons_of_neg hBlank, afterSign_of_ne hSign] at h
  cases h

/-- The two readings see the same hyphens and closing brackets. -/
theorem Flags.peekSecond_append_iff (f : Flags) {x : Char} (hx : x = ']' ∨ x = '-') (c : Char)
    (ahead : List Char) :
    f.peekSecond (c :: (ahead ++ [')'])) = some x ↔ f.peekSecond (c :: ahead) = some x := by
  have hOther : x ≠ ')' ∧ Text.isBlank x = false ∧ x ≠ '#' := by
    rcases hx with rfl | rfl <;> decide
  rw [Flags.peekSecond_cons, Flags.peekSecond_cons]
  split_ifs
  · rw [dropWhile_append_parenthesis (by decide), afterSign_append]
    cases hFound : afterSign (ahead.dropWhile Text.isBlank) with
    | nil =>
      -- the parenthesis comes next, and it is neither of the two
      refine iff_of_false (by simpa using hOther.1.symm) fun hNext => ?_
      rcases isBlank_of_afterSign_eq_nil hFound x hNext with hBlank | hSign
      · exact absurd hBlank (by simp [hOther.2.1])
      · exact hOther.2.2 hSign
    | cons d rest => rfl
  · cases ahead with
    | nil => simpa using hOther.1.symm
    | cons d rest => rfl

/-- An item after its first character, which may begin a range. -/
def Flags.bracketRest (f : Flags) (a : Atom) (cs : List Char) :
    Except Fault (CharSet × List Char) :=
  match cs with
  | [] => .error .bracketUnclosed
  | cs@('-' :: ahead) =>
    let second := f.peekSecond cs
    if second = some ']' || second = some '-' then do
      let s ← f.bracketSet a
      .ok (s, cs)
    else do
      let (b, rest) ← f.bracketAtom (f.skip ahead)
      let first ← f.bracketChar a
      let last ← f.bracketChar b
      if last < first then .error (.rangeReversed first last)
      else .ok (.range first last, rest)
  | cs => do
    let s ← f.bracketSet a
    .ok (s, cs)

theorem Flags.bracketItem_eq (f : Flags) (cs : List Char) :
    f.bracketItem cs = (do
      let (a, cs) ← f.bracketAtom cs
      f.bracketRest a (f.skip cs)) :=
  rfl

theorem Flags.bracketRest_of_ne {f : Flags} {a : Atom} {c : Char} (hc : c ≠ '-') :
    f.bracketRest a (c :: cs) = (do
      let s ← f.bracketSet a
      .ok (s, c :: cs)) := by
  unfold Flags.bracketRest
  split
  next hEq => cases hEq
  next hEq => exact absurd (List.cons_eq_cons.mp hEq).1 hc
  next => rfl

/-- The last item is followed by nothing, or by the parenthesis alone. -/
def IsSpoiltItem (b : CharSet × List Char) : Prop :=
  b.2 = [] ∨ b.2 = [')']

theorem Flags.bracketRest_tracks (f : Flags) (a : Atom) (h : Remains src cs cs') :
    Tracks (Agree src) IsSpoiltItem (f.bracketRest a cs) (f.bracketRest a cs') := by
  cases cs with
  | nil =>
    refine .error fun b hb => ?_
    rcases h.eq_or_eq_of_nil with rfl | rfl
    · rw [Flags.bracketRest_of_ne (by decide)] at hb
      obtain ⟨s, -, hb⟩ := Traversal.bind_eq_ok_iff.mp hb
      cases hb
      exact .inr rfl
    · cases hb
  | cons c cs =>
    obtain rfl := h.eq_of_cons
    by_cases hc : c = '-'
    · subst hc
      simp only [Flags.bracketRest, Bool.or_eq_true, decide_eq_true_eq,
        f.peekSecond_append_iff (.inl rfl), f.peekSecond_append_iff (.inr rfl)]
      split_ifs
      · -- a hyphen that stands for itself
        exact .bind_same fun s => .ok ⟨rfl, h⟩
      · -- a range, up to another atom
        refine (f.bracketAtom_tracks (h.tail.skip f)).bind ?_ ?_
        · rintro ⟨b, rest⟩ ⟨_, rest'⟩ ⟨rfl, hRest⟩
          refine .bind_same fun first => .bind_same fun last => ?_
          dsimp only
          split_ifs
          · exact .errors
          · exact .ok ⟨rfl, hRest⟩
        · rintro ⟨b, rest⟩ item hSpoilt hItem
          obtain ⟨first, -, hItem⟩ := Traversal.bind_eq_ok_iff.mp hItem
          obtain ⟨last, hLast, hItem⟩ := Traversal.bind_eq_ok_iff.mp hItem
          -- an assertion is no end of a range
          rcases hSpoilt with hNil | ⟨⟨e, rfl⟩, -⟩
          · split_ifs at hItem
            cases hItem
            exact .inl hNil
          · cases hLast
    · rw [Flags.bracketRest_of_ne hc, Flags.bracketRest_of_ne hc]
      exact .bind_same fun s => .ok ⟨rfl, h⟩

/-- One item of a bracket. Every item takes its first character. -/
theorem Flags.bracketItem_tracks (f : Flags) (c : Char) (h : Remains src cs cs') :
    Tracks (Agree src) IsSpoiltItem (f.bracketItem (c :: cs)) (f.bracketItem (c :: cs')) := by
  rw [Flags.bracketItem_eq, Flags.bracketItem_eq]
  refine (f.bracketAtom_cons_tracks c h).bind ?_ ?_
  · rintro ⟨a, rest⟩ ⟨_, rest'⟩ ⟨rfl, hRest⟩
    exact f.bracketRest_tracks a (hRest.skip f)
  · rintro ⟨a, rest⟩ item hSpoilt hItem
    rcases hSpoilt with hNil | ⟨⟨e, rfl⟩, ahead, hBrace, -⟩
    · -- nothing is left for the rest of the bracket
      obtain rfl : rest = [] := hNil
      simp [Flags.bracketRest] at hItem
    · obtain rfl : rest = '\x7b' :: ahead := hBrace
      dsimp only at hItem
      rw [f.skip_cons_of_ne (by decide) (by decide), Flags.bracketRest_of_ne (by decide)] at hItem
      cases hItem

/-! ## The whole bracket -/

section Loop

variable {f : Flags} {n : Nat} {stack : List OpenBracket} {items : List (Nested CharSet)}

theorem Flags.bracketLoop_of_nil (h : f.skip cs = []) :
    f.bracketLoop n stack items cs = .error .bracketUnclosed := by
  cases n with
  | zero => rfl
  | succ n => rw [Flags.bracketLoop, h]

/-- A bracket inside, or a class between colons. -/
theorem Flags.bracketLoop_of_opening (h : f.skip cs = '[' :: cs') :
    f.bracketLoop (n + 1) stack items cs =
      (match f.namedClass cs' with
      | some (s, rest) => do
        let s ← s
        f.bracketLoop n stack (⟨s, 0⟩ :: items) rest
      | none => do
        let (negated, inner, rest) ← f.openBracket cs'
        f.bracketLoop n (.opened items negated :: stack) inner rest) := by
  rw [Flags.bracketLoop, h]
  rfl

/-- The end of a bracket, with the groups around it. -/
def Flags.closeBracket (f : Flags) (n : Nat) (whole : Nested CharSet) (cs : List Char) :
    List OpenBracket → Except Fault (Nested CharSet × List Char)
  | .opened outer negated :: stack => do
    let s ← f.foldNegate negated whole.value
    let closed : Nested CharSet := ⟨s, 1 + whole.depth⟩
    if stack.isEmpty then .ok (closed, cs)
    else f.bracketLoop n stack (closed :: outer) cs
  | _ => .error .bracketUnclosed

theorem Flags.bracketLoop_of_closing (h : f.skip cs = ']' :: cs') :
    f.bracketLoop (n + 1) stack items cs =
      f.closeBracket n (closeOp f (joinItems items) stack).1 cs'
        (closeOp f (joinItems items) stack).2 := by
  rw [Flags.bracketLoop, h]
  rfl

/-- An operation or an item. -/
theorem Flags.bracketLoop_of_other {c : Char} (h : f.skip cs = c :: cs') (hOpen : c ≠ '[')
    (hClose : c ≠ ']') :
    f.bracketLoop (n + 1) stack items cs =
      (match setOp? c (cs'.headD ' ') with
      | some op =>
        f.bracketLoop n (.operand op (closeOp f (joinItems items) stack).1 ::
          (closeOp f (joinItems items) stack).2) [] (cs'.drop 1)
      | none => do
        let (s, rest) ← f.bracketItem (c :: cs')
        f.bracketLoop n stack (⟨s, 0⟩ :: items) rest) := by
  rw [Flags.bracketLoop, h]
  split
  next hEq => cases hEq
  next hEq => exact absurd (List.cons_eq_cons.mp hEq).1 hOpen
  next hEq => exact absurd (List.cons_eq_cons.mp hEq).1 hClose
  next hEq =>
    obtain ⟨rfl, rfl⟩ := List.cons_eq_cons.mp hEq
    rfl

/-- The parenthesis alone does not close a bracket. -/
theorem Flags.bracketLoop_of_parenthesis (h : f.skip cs = [')']) :
    f.bracketLoop n stack items cs = .error .bracketUnclosed := by
  cases n with
  | zero => rfl
  | succ n =>
    rw [Flags.bracketLoop_of_other h (by decide) (by decide)]
    have hItem : f.bracketItem [')'] = .error .bracketUnclosed := by
      simp [Flags.bracketItem_eq, Flags.bracketAtom, Flags.bracketRest, bind, Except.bind]
    rw [hItem]
    rfl

end Loop

theorem setOp?_of_ne (c : Char) {d : Char} (hd : d ≠ '&' ∧ d ≠ '-' ∧ d ≠ '~') :
    setOp? c d = none := by
  unfold setOp?
  split <;> simp_all

/-- An operation takes two characters, and the parenthesis is none of them. -/
theorem setOp?_append (c : Char) (cs : List Char) :
    setOp? c ((cs ++ [')']).headD ' ') = setOp? c (cs.headD ' ') := by
  cases cs with
  | cons => rfl
  | nil => exact (setOp?_of_ne c (by decide)).trans (setOp?_of_ne c (by decide)).symm

/-- A bracket is closed in both readings, and at the same place, or in none. -/
theorem Flags.bracketLoop_tracks (f : Flags) {n m : Nat} {stack : List OpenBracket}
    {items : List (Nested CharSet)} (h : Remains src cs cs') (hn : cs.length < n)
    (hm : cs.length + 1 < m) :
    Tracks (Agree src) (fun _ => False) (f.bracketLoop n stack items cs)
      (f.bracketLoop m stack items cs') := by
  -- on the rounds; the items and the brackets around are the same in both readings
  induction n generalizing cs cs' m stack items with
  | zero => cases hn
  | succ n ih =>
    obtain ⟨m, rfl⟩ : ∃ k, m = k + 1 := ⟨m - 1, by omega⟩
    have hSkip := h.skip f
    have hLen := (f.skip_suffix cs).length_le
    generalize hAhead : f.skip cs = ahead at hSkip hLen
    generalize hAhead' : f.skip cs' = ahead' at hSkip
    cases ahead with
    | nil =>
      rw [Flags.bracketLoop_of_nil hAhead]
      rcases hSkip.eq_or_eq_of_nil with rfl | rfl
      · rw [Flags.bracketLoop_of_parenthesis hAhead']
        exact .errors
      · rw [Flags.bracketLoop_of_nil hAhead']
        exact .errors
    | cons c rest =>
      obtain rfl := hSkip.eq_of_cons
      rw [List.length_cons] at hLen
      have hSuffix : rest <:+ src := hSkip.tail.suffix
      -- what has been read of the rest leaves less than there was
      have hNext {stack : List OpenBracket} {items : List (Nested CharSet)}
          {left left' : List Char} (hLeft : Remains rest left left') :
          Tracks (Agree src) (fun _ => False) (f.bracketLoop n stack items left)
            (f.bracketLoop m stack items left') := by
        have hle := hLeft.suffix.length_le
        exact ih (hLeft.mono hSuffix) (by omega) (by omega)
      -- an inner bracket or a named class
      by_cases hOpen : c = '['
      · subst hOpen
        rw [Flags.bracketLoop_of_opening hAhead, Flags.bracketLoop_of_opening hAhead',
          Flags.namedClass_append]
        cases hNamed : f.namedClass rest with
        | some named =>
          exact .bind_same fun s => hNext (.behind (Flags.namedClass_suffix hNamed))
        | none =>
          refine (f.openBracket_tracks (.refl rest)).bind ?_ ?_
          · rintro ⟨negated, inner, left⟩ ⟨_, _, left'⟩ ⟨rfl, rfl, hLeft⟩
            exact hNext hLeft
          · -- the parenthesis was left for an item, and no bracket is closed behind it
            rintro ⟨negated, inner, left⟩ b hSpoilt hb
            obtain rfl : left = [')'] := hSpoilt
            dsimp only at hb
            rw [Flags.bracketLoop_of_parenthesis f.skip_parenthesis] at hb
            cases hb
      -- the end of a bracket, which may be the outermost
      by_cases hClose : c = ']'
      · subst hClose
        rw [Flags.bracketLoop_of_closing hAhead, Flags.bracketLoop_of_closing hAhead']
        obtain ⟨whole, around⟩ := closeOp f (joinItems items) stack
        match around with
        | [] | .operand _ _ :: _ => exact .errors
        | .opened outer negated :: around =>
          refine .bind_same fun s => ?_
          dsimp only
          split_ifs
          · exact .ok ⟨rfl, hSkip.tail⟩
          · exact hNext (.refl rest)
      -- an operation between two sets, or an item
      rw [Flags.bracketLoop_of_other hAhead hOpen hClose,
        Flags.bracketLoop_of_other hAhead' hOpen hClose, setOp?_append]
      cases hOp : setOp? c (rest.headD ' ') with
      | some op =>
        -- the second character of an operation is there by itself
        cases rest with
        | nil =>
          rw [List.headD_nil, setOp?_of_ne c (by decide)] at hOp
          cases hOp
        | cons d rest => exact hNext (.behind (List.suffix_cons d rest))
      | none =>
        refine (f.bracketItem_tracks c (.refl rest)).bind ?_ ?_
        · rintro ⟨s, left⟩ ⟨_, left'⟩ ⟨rfl, hLeft⟩
          exact hNext hLeft
        · rintro ⟨s, left⟩ b hSpoilt hb
          dsimp only at hb
          rcases hSpoilt with hNil | hParenthesis
          · obtain rfl : left = [] := hNil
            rw [Flags.bracketLoop_of_nil f.skip_nil] at hb
            cases hb
          · obtain rfl : left = [')'] := hParenthesis
            rw [Flags.bracketLoop_of_parenthesis f.skip_parenthesis] at hb
            cases hb

/-- A bracket after its opening character. -/
theorem Flags.bracket_tracks (f : Flags) (cs : List Char) :
    Tracks (Agree cs) (fun _ => False) (f.bracket cs) (f.bracket (cs ++ [')'])) := by
  refine (f.openBracket_tracks (.refl cs)).bind ?_ ?_
  · rintro ⟨negated, items, rest⟩ ⟨_, _, rest'⟩ ⟨rfl, rfl, hRest⟩
    have hle : rest.length ≤ cs.length := hRest.suffix.length_le
    rw [List.length_append]
    exact f.bracketLoop_tracks hRest (Nat.lt_succ_of_le hle) (by simp; omega)
  · rintro ⟨negated, items, rest⟩ b hSpoilt hb
    obtain rfl : rest = [')'] := hSpoilt
    dsimp only at hb
    rw [Flags.bracketLoop_of_parenthesis f.skip_parenthesis] at hb
    cases hb

end StreamVerdict.Regex
