import Mathlib.Data.List.Basic
import StreamVerdict.Proofs.Traversal
import StreamVerdict.Regex.Escape

/-!
# Reading with a parenthesis behind

A text is read twice, as it is and with a closing parenthesis behind it. Every
reader stops before the parenthesis, for it belongs to no name, number or
blank, so the two readings agree on what they find, and the second one has the
parenthesis left over. Two things can come in between.

A comment runs to the end of its line, and takes the parenthesis with it if the
line does not end before. Then nothing is left over in either reading.

A text may also stop in the middle of a piece. By itself it is refused there,
but the parenthesis may be just what was missing, as after a backslash. What is
read in this way is spoilt: the parenthesis is used up, or stands where nothing
can be made of it.

Main definitions:

* `Remains`: what the two readings have left over;
* `Tracks`: how the outcomes of the two readings compare.

Main results:

* `Remains.skip`, `Flags.span_remains` and `Flags.count_tracks`: blanks,
  comments, runs of characters and numbers;
* `Flags.escape_tracks`: all that a backslash can begin.
-/

namespace StreamVerdict.Regex

/-! ## What is left over -/

/-- `Remains src cs cs'` says that `cs` is left over of the text `src`, and `cs'` of the same text
with a closing parenthesis behind it. -/
inductive Remains (src : List Char) : List Char → List Char → Prop
  /-- The parenthesis has not been reached. -/
  | behind {cs : List Char} (h : cs <:+ src) : Remains src cs (cs ++ [')'])
  /-- The parenthesis belongs to a comment. -/
  | swallowed (h : '#' ∈ src) : Remains src [] []

namespace Remains

variable {src cs cs' : List Char} {c : Char}

theorem refl (src : List Char) : Remains src src (src ++ [')']) :=
  .behind (List.suffix_refl src)

theorem suffix (h : Remains src cs cs') : cs <:+ src := by
  cases h with
  | behind h => exact h
  | swallowed => exact List.nil_suffix

theorem mono (h : Remains src cs cs') {src' : List Char} (hSrc : src <:+ src') :
    Remains src' cs cs' := by
  cases h with
  | behind h => exact .behind (h.trans hSrc)
  | swallowed h => exact .swallowed (hSrc.subset h)

/-- As long as something is left of the text, the parenthesis is behind it. -/
theorem eq_of_cons (h : Remains src (c :: cs) cs') : cs' = c :: (cs ++ [')']) := by
  cases h
  rfl

theorem tail (h : Remains src (c :: cs) cs') : Remains src cs (cs ++ [')']) :=
  .behind ((List.suffix_cons c cs).trans h.suffix)

/-- What begins with another character than the parenthesis begins with it in both readings. -/
theorem exists_of_cons (h : Remains src cs (c :: cs')) (hc : c ≠ ')') : ∃ rest, cs = c :: rest := by
  cases cs with
  | nil =>
    cases h
    exact absurd rfl hc
  | cons d rest => exact ⟨rest, congrArg (· :: rest) (List.cons_eq_cons.mp h.eq_of_cons).1.symm⟩

theorem ne_cons (h : Remains src cs cs') (hc : c ≠ ')') (hne : ∀ rest, cs ≠ c :: rest) :
    ∀ rest, cs' ≠ c :: rest := by
  rintro rest rfl
  obtain ⟨left, hLeft⟩ := h.exists_of_cons hc
  exact hne left hLeft

/-- The two readings go on with `c`, or neither of them does. -/
theorem next_or_other (h : Remains src cs cs') (hc : c ≠ ')') :
    (∃ rest, cs = c :: rest ∧ cs' = c :: (rest ++ [')']) ∧ Remains src rest (rest ++ [')'])) ∨
      (∀ rest, cs ≠ c :: rest) ∧ ∀ rest, cs' ≠ c :: rest := by
  by_cases hNext : ∃ rest, cs = c :: rest
  · obtain ⟨rest, rfl⟩ := hNext
    exact .inl ⟨rest, rfl, h.eq_of_cons, h.tail⟩
  · have hne : ∀ rest, cs ≠ c :: rest := fun rest hEq => hNext ⟨rest, hEq⟩
    exact .inr ⟨hne, h.ne_cons hc hne⟩

theorem eq_or_eq_of_nil (h : Remains src [] cs') : cs' = [')'] ∨ cs' = [] := by
  cases h with
  | behind => exact .inl rfl
  | swallowed => exact .inr rfl

end Remains

/-- Two readings find the same, and leave over what they should. -/
structure Agree {α : Type} (src : List Char) (a b : α × List Char) : Prop where
  value : a.1 = b.1
  rest : Remains src a.2 b.2

/-- Two readings find the same two things, and leave over what they should. -/
structure Agree₂ {α β : Type} (src : List Char) (a b : α × β × List Char) : Prop where
  first : a.1 = b.1
  second : a.2.1 = b.2.1
  rest : Remains src a.2.2 b.2.2

/-- `Tracks rel spoilt x y` compares the outcome `x` of reading a text with the outcome `y` of
reading it with a parenthesis behind. What the first finds, the second finds too, up to `rel`;
and what the second finds by itself is spoilt. -/
inductive Tracks {α : Type} (rel : α → α → Prop) (spoilt : α → Prop) :
    Except Fault α → Except Fault α → Prop
  | ok {a b : α} (h : rel a b) : Tracks rel spoilt (.ok a) (.ok b)
  | error {err : Fault} {y : Except Fault α} (h : ∀ b, y = .ok b → spoilt b) :
    Tracks rel spoilt (.error err) y

namespace Tracks

variable {α β : Type} {rel : α → α → Prop} {spoilt : α → Prop} {rel' : β → β → Prop}
  {spoilt' : β → Prop} {x y : Except Fault α}

theorem errors {err err' : Fault} : Tracks rel spoilt (.error err) (.error err') :=
  .error nofun

theorem mono (h : Tracks rel spoilt x y) {rel₂ : α → α → Prop} {spoilt₂ : α → Prop}
    (hRel : ∀ a b, rel a b → rel₂ a b) (hSpoilt : ∀ b, spoilt b → spoilt₂ b) :
    Tracks rel₂ spoilt₂ x y := by
  cases h with
  | ok h => exact .ok (hRel _ _ h)
  | error h => exact .error fun b hb => hSpoilt b (h b hb)

/-- Readings in two steps. -/
theorem bind {f g : α → Except Fault β} (h : Tracks rel spoilt x y)
    (hOk : ∀ a b, rel a b → Tracks rel' spoilt' (f a) (g b))
    (hSpoilt : ∀ b c, spoilt b → g b = .ok c → spoilt' c) :
    Tracks rel' spoilt' (x >>= f) (y >>= g) := by
  cases h with
  | ok h => exact hOk _ _ h
  | error h =>
    refine .error fun c hc => ?_
    obtain ⟨b, rfl, hb⟩ := Traversal.bind_eq_ok_iff.mp hc
    exact hSpoilt b c (h b rfl) hb

/-- Readings in two steps, of which the second reading makes the first one only along with the
first reading. -/
theorem bind_ok {f g : α → Except Fault β} (h : Tracks rel (fun _ => False) x y)
    (hOk : ∀ a b, rel a b → Tracks rel' spoilt' (f a) (g b)) :
    Tracks rel' spoilt' (x >>= f) (y >>= g) :=
  h.bind hOk fun _ _ hFalse => hFalse.elim

theorem bind_error {err : Fault} (h : Tracks rel (fun _ => False) (.error err) y)
    {f g : α → Except Fault β} : Tracks rel' spoilt' (.error err >>= f) (y >>= g) := by
  cases h with
  | error h =>
    refine .error fun c hc => ?_
    obtain ⟨b, hb, -⟩ := Traversal.bind_eq_ok_iff.mp hc
    exact (h b hb).elim

/-- A first step that reads nothing is the same in both readings. -/
theorem bind_same {f g : α → Except Fault β} (h : ∀ a, Tracks rel' spoilt' (f a) (g a)) :
    Tracks rel' spoilt' (x >>= f) (x >>= g) := by
  cases x with
  | ok a => exact h a
  | error err => exact .errors

end Tracks

variable {src cs cs' : List Char}

/-! ## Blanks and comments -/

theorem dropTrivia_suffix (b : Bool) (cs : List Char) : dropTrivia b cs <:+ cs := by
  induction cs generalizing b with
  | nil => simp [dropTrivia]
  | cons c cs ih =>
    have hTail (b : Bool) : dropTrivia b cs <:+ c :: cs := (ih b).trans (List.suffix_cons c cs)
    cases b with
    | true => exact hTail _
    | false =>
      rw [dropTrivia]
      split_ifs
      · exact hTail _
      · exact hTail _
      · exact List.suffix_refl _

/-- Only a comment reaches up to the parenthesis. -/
theorem dropTrivia_append (b : Bool) (cs : List Char) :
    dropTrivia b (cs ++ [')']) = dropTrivia b cs ++ [')'] ∨
      dropTrivia b cs = [] ∧ dropTrivia b (cs ++ [')']) = [] ∧ (b = true ∨ '#' ∈ cs) := by
  induction cs generalizing b with
  | nil =>
    cases b with
    | true => exact .inr ⟨rfl, by decide, .inl rfl⟩
    | false => exact .inl (by decide)
  | cons c cs ih =>
    cases b with
    | true =>
      -- within a comment, up to the end of its line
      rcases ih (c ≠ '\n') with h | ⟨hNil, hNil', -⟩
      · exact .inl h
      · exact .inr ⟨hNil, hNil', .inl rfl⟩
    | false =>
      -- outside of comments: a blank, the sign of a comment, or neither
      rw [List.cons_append, dropTrivia, dropTrivia]
      split_ifs with hBlank hComment
      · rcases ih false with h | ⟨hNil, hNil', hMem⟩
        · exact .inl h
        · exact .inr ⟨hNil, hNil', .inr (List.mem_cons_of_mem c (hMem.resolve_left nofun))⟩
      · rcases ih true with h | ⟨hNil, hNil', -⟩
        · exact .inl h
        · exact .inr ⟨hNil, hNil', .inr (hComment ▸ List.mem_cons_self)⟩
      · exact .inl rfl

theorem Flags.skip_suffix (f : Flags) (cs : List Char) : f.skip cs <:+ cs := by
  unfold Flags.skip
  split_ifs
  · exact dropTrivia_suffix _ _
  · exact List.suffix_refl _

@[simp] theorem Flags.skip_nil (f : Flags) : f.skip [] = [] := by
  simp [Flags.skip, dropTrivia]

theorem Flags.skip_cons_of_ne (f : Flags) {c : Char} (hBlank : Text.isBlank c = false)
    (hComment : c ≠ '#') (cs : List Char) : f.skip (c :: cs) = c :: cs := by
  simp [Flags.skip, dropTrivia, hBlank, hComment]

/-- A parenthesis is neither blank nor a comment. -/
@[simp] theorem Flags.skip_parenthesis (f : Flags) : f.skip [')'] = [')'] :=
  f.skip_cons_of_ne (by decide) (by decide) []

theorem Remains.skip (h : Remains src cs cs') (f : Flags) :
    Remains src (f.skip cs) (f.skip cs') := by
  cases h with
  | swallowed h => simpa using .swallowed h
  | behind hSuffix =>
    unfold Flags.skip
    split_ifs
    · rcases dropTrivia_append false cs with h | ⟨hNil, hNil', hMem⟩
      · rw [h]
        exact .behind ((dropTrivia_suffix _ _).trans hSuffix)
      · rw [hNil, hNil']
        exact .swallowed (hSuffix.subset (hMem.resolve_left nofun))
    · exact .behind hSuffix

/-! ## Runs of characters -/

@[simp] theorem Flags.span_nil (f : Flags) (p : Char → Bool) (n : Nat) :
    f.span p n [] = ([], []) := by
  cases n <;> rfl

theorem Flags.span_remains_nil (f : Flags) (p : Char → Bool) {m : Nat} (h : Remains src [] cs')
    (hm : cs'.length ≤ m) :
    Agree src ([], []) (f.span p m cs') ∨ p ')' = true ∧ (f.span p m cs').2 = [] := by
  rcases h.eq_or_eq_of_nil with rfl | rfl
  · obtain ⟨m, rfl⟩ : ∃ k, m = k + 1 := ⟨m - 1, by simp at hm; omega⟩
    cases hp : p ')' with
    | true => exact .inr (by simp [Flags.span, hp])
    | false => exact .inl (by simpa [Flags.span, hp] using ⟨rfl, h⟩)
  · exact .inl (by simpa using ⟨rfl, h⟩)

/-- A run of characters is the same in both readings, unless the parenthesis is taken for one of
them. Then nothing is left. -/
theorem Flags.span_remains (f : Flags) (p : Char → Bool) {n m : Nat} (h : Remains src cs cs')
    (hn : cs.length ≤ n) (hm : cs'.length ≤ m) :
    Agree src (f.span p n cs) (f.span p m cs') ∨
      p ')' = true ∧ (f.span p n cs).2 = [] ∧ (f.span p m cs').2 = [] := by
  induction n generalizing cs cs' m with
  | zero =>
    obtain rfl : cs = [] := List.eq_nil_of_length_eq_zero (Nat.le_zero.mp hn)
    simpa using f.span_remains_nil p h hm
  | succ n ih =>
    cases cs with
    | nil => simpa using f.span_remains_nil p h hm
    | cons c cs =>
      obtain rfl := h.eq_of_cons
      obtain ⟨m, rfl⟩ : ∃ k, m = k + 1 := ⟨m - 1, by simp at hm; omega⟩
      have hLen : (f.skip cs).length ≤ n :=
        (f.skip_suffix cs).length_le.trans (Nat.le_of_succ_le_succ hn)
      have hLen' : (f.skip (cs ++ [')'])).length ≤ m :=
        (f.skip_suffix _).length_le.trans (Nat.le_of_succ_le_succ hm)
      -- the run goes on behind `c`, or ends before it
      by_cases hc : p c = true
      · simp only [Flags.span, hc, if_true]
        rcases ih (h.tail.skip f) hLen hLen' with hAgree | hLast
        · exact .inl ⟨congrArg (c :: ·) hAgree.value, hAgree.rest⟩
        · exact .inr hLast
      · simp only [Flags.span, hc]
        exact .inl ⟨rfl, h⟩

theorem Flags.takeWhile_remains (f : Flags) {p : Char → Bool} (hp : p ')' = false)
    (h : Remains src cs cs') : Agree src (f.takeWhile p cs) (f.takeWhile p cs') := by
  rcases f.span_remains p h (Nat.le_refl _) (Nat.le_refl _) with hAgree | ⟨hp', -⟩
  · exact hAgree
  · rw [hp] at hp'
    cases hp'

theorem dropWhile_append_parenthesis {p : Char → Bool} (hp : p ')' = false) (cs : List Char) :
    (cs ++ [')']).dropWhile p = cs.dropWhile p ++ [')'] := by
  rw [List.dropWhile_append]
  split_ifs with hNil
  · simp [List.isEmpty_iff.mp hNil, hp]
  · rfl

theorem Remains.dropWhile (h : Remains src cs cs') {p : Char → Bool} (hp : p ')' = false) :
    Remains src (cs.dropWhile p) (cs'.dropWhile p) := by
  cases h with
  | swallowed h => exact .swallowed h
  | behind h =>
    rw [dropWhile_append_parenthesis hp]
    exact .behind ((List.dropWhile_suffix p).trans h)

/-- A text that has been cut is cut at the same place if more follows. -/
theorem cut_append {p : Char → Bool} {c : Char} {rest : List Char}
    (h : cs.dropWhile p = c :: rest) (more : List Char) :
    (cs ++ more).takeWhile p = cs.takeWhile p ∧ (cs ++ more).dropWhile p = c :: (rest ++ more) := by
  have hMem : c ∈ cs := (List.dropWhile_suffix p).subset (h ▸ List.mem_cons_self)
  have hc : p c = false := by
    have hHead := List.head?_dropWhile_not p cs
    simpa [h] using hHead
  refine ⟨Traversal.takeWhile_append_of_mem hMem hc more, ?_⟩
  rw [List.dropWhile_append, h]
  rfl

/-! ## Numbers -/

/-- Counts of repetitions. -/
theorem Flags.count_tracks (f : Flags) (h : Remains src cs cs') :
    Tracks (Agree src) (fun _ => False) (f.count cs) (f.count cs') := by
  -- blanks, digits, blanks: the parenthesis belongs to none of the three
  have hBlanks : Remains src (cs.dropWhile Text.isBlank) (cs'.dropWhile Text.isBlank) :=
    h.dropWhile (by decide)
  have hDigits := f.takeWhile_remains (p := Char.isDigit) (by decide) hBlanks
  have hRest := f.takeWhile_remains (p := Text.isBlank) (by decide) hDigits.rest
  unfold Flags.count
  dsimp only
  rw [← hDigits.value]
  split_ifs
  · exact .errors
  · split
    next => exact .ok ⟨rfl, hRest.rest⟩
    next => exact .errors

theorem Flags.hexFixed_tracks (f : Flags) (n : Nat) (h : Remains src cs cs') :
    Tracks (Agree src) (fun _ => False) (f.hexFixed n cs) (f.hexFixed n cs') := by
  induction n generalizing cs cs' with
  | zero => exact .ok ⟨rfl, h⟩
  | succ n ih =>
    cases cs with
    | nil =>
      rcases h.eq_or_eq_of_nil with rfl | rfl
      · exact .errors
      · exact .errors
    | cons c cs =>
      obtain rfl := h.eq_of_cons
      simp only [Flags.hexFixed]
      split_ifs
      · exact .errors
      · refine (ih (h.tail.skip f)).bind_ok ?_
        rintro ⟨ds, rest⟩ ⟨_, rest'⟩ ⟨rfl, hRest⟩
        exact .ok ⟨rfl, hRest⟩

/-- What stands in braces, after the digits in it. -/
def Flags.hexBraced (f : Flags) : List Char × List Char → Except Fault (Char × List Char)
  | (_, []) => .error .escapeUnfinished
  | (digits, '\x7d' :: rest) => do
    let c ← hexChar digits
    .ok (c, f.skip rest)
  | _ => .error .hexInvalid

theorem Flags.hex_of_brace {f : Flags} {width : Nat} {ahead : List Char}
    (h : f.skip cs = '\x7b' :: ahead) :
    f.hex width cs = f.hexBraced (f.takeWhile (fun c => (hexValue? c).isSome) (f.skip ahead)) := by
  unfold Flags.hex
  rw [h]
  rfl

theorem Flags.hex_of_other {f : Flags} {width : Nat} {c : Char} {ahead : List Char}
    (h : f.skip cs = c :: ahead) (hc : c ≠ '\x7b') :
    f.hex width cs = (do
      let (digits, rest) ← f.hexFixed width (c :: ahead)
      let c ← hexChar digits
      .ok (c, rest)) := by
  unfold Flags.hex
  rw [h]
  split
  next h => cases h
  next h => exact absurd (List.cons_eq_cons.mp h).1 hc
  next => rfl

theorem Flags.hexBraced_of_ne {f : Flags} {digits : List Char} (h : ∀ rest, cs ≠ '\x7d' :: rest) :
    ∃ err, f.hexBraced (digits, cs) = .error err := by
  cases cs with
  | nil => exact ⟨_, rfl⟩
  | cons c cs => exact ⟨_, Flags.hexBraced.eq_3 _ _ nofun (by simpa using h)⟩

theorem Flags.hexBraced_tracks (f : Flags) {run run' : List Char × List Char}
    (h : Agree src run run') :
    Tracks (Agree src) (fun _ => False) (f.hexBraced run) (f.hexBraced run') := by
  obtain ⟨digits, rest⟩ := run
  obtain ⟨digits', rest'⟩ := run'
  obtain ⟨rfl, hRest⟩ := h
  rcases hRest.next_or_other (c := '\x7d') (by decide) with
    ⟨left, rfl, rfl, hLeft⟩ | ⟨hne, hne'⟩
  · exact .bind_same fun c => .ok ⟨rfl, hLeft.skip f⟩
  · obtain ⟨err, hErr⟩ := Flags.hexBraced_of_ne hne
    obtain ⟨err', hErr'⟩ := Flags.hexBraced_of_ne hne'
    rw [hErr, hErr']
    exact .errors

/-- Hexadecimal numbers, with braces and without. -/
theorem Flags.hex_tracks (f : Flags) (width : Nat) (h : Remains src cs cs') :
    Tracks (Agree src) (fun _ => False) (f.hex width cs) (f.hex width cs') := by
  have hSkip := h.skip f
  generalize hAhead : f.skip cs = ahead at hSkip
  generalize hAhead' : f.skip cs' = ahead' at hSkip
  cases ahead with
  | nil =>
    have hNil : f.hex width cs = .error .escapeUnfinished := by rw [Flags.hex, hAhead]
    rw [hNil]
    rcases hSkip.eq_or_eq_of_nil with rfl | rfl
    · -- the parenthesis is no digit
      rw [Flags.hex_of_other hAhead' (by decide)]
      cases width <;> exact .errors
    · rw [Flags.hex, hAhead']
      exact .errors
  | cons c ahead =>
    obtain rfl := hSkip.eq_of_cons
    -- digits in braces, or as many as the width says
    by_cases hc : c = '\x7b'
    · subst hc
      rw [Flags.hex_of_brace hAhead, Flags.hex_of_brace hAhead']
      exact f.hexBraced_tracks (f.takeWhile_remains (by decide) (hSkip.tail.skip f))
    · rw [Flags.hex_of_other hAhead hc, Flags.hex_of_other hAhead' hc]
      refine (f.hexFixed_tracks width hSkip).bind_ok ?_
      rintro ⟨digits, rest⟩ ⟨_, rest'⟩ ⟨rfl, hRest⟩
      exact .bind_same fun c => .ok ⟨rfl, hRest⟩

/-! ## Names of properties -/

/-- A name in braces, after the characters up to the closing one. -/
def Flags.nameBraced : List Char × List Char → Except Fault (List Char × List Char)
  | (_, []) => .error .escapeUnfinished
  | (name, _ :: rest) => .ok (name, rest)

theorem Flags.propertyName_of_brace {f : Flags} {ahead : List Char}
    (h : f.skip cs = '\x7b' :: ahead) :
    f.propertyName cs = nameBraced (f.takeWhile (· ≠ '\x7d') (f.skip ahead)) := by
  unfold Flags.propertyName
  rw [h]
  rfl

theorem Flags.propertyName_of_other {f : Flags} {c : Char} {ahead : List Char}
    (h : f.skip cs = c :: ahead) (hc : c ≠ '\x7b') :
    f.propertyName cs =
      if c = '\\' then .error (.propertyUnknown "\\") else .ok ([c], f.skip ahead) := by
  unfold Flags.propertyName
  rw [h]
  split
  next h => cases h
  next h => exact absurd (List.cons_eq_cons.mp h).1 hc
  next h => rw [if_pos (List.cons_eq_cons.mp h).1]
  next hBack h =>
    obtain ⟨rfl, rfl⟩ := List.cons_eq_cons.mp h
    exact (if_neg hBack).symm

/-- Names of properties. A parenthesis can be such a name. -/
theorem Flags.propertyName_tracks (f : Flags) (h : Remains src cs cs') :
    Tracks (Agree src) (·.2 = []) (f.propertyName cs) (f.propertyName cs') := by
  have hSkip := h.skip f
  generalize hAhead : f.skip cs = ahead at hSkip
  generalize hAhead' : f.skip cs' = ahead' at hSkip
  cases ahead with
  | nil =>
    have hNil : f.propertyName cs = .error .escapeUnfinished := by rw [Flags.propertyName, hAhead]
    rw [hNil]
    rcases hSkip.eq_or_eq_of_nil with rfl | rfl
    · -- the parenthesis is taken for a name of one character
      rw [Flags.propertyName_of_other hAhead' (by decide)]
      refine .error fun b hb => ?_
      cases hb
      exact f.skip_nil
    · rw [Flags.propertyName, hAhead']
      exact .errors
  | cons c ahead =>
    obtain rfl := hSkip.eq_of_cons
    -- a name in braces, or of one character
    by_cases hc : c = '\x7b'
    · subst hc
      rw [Flags.propertyName_of_brace hAhead, Flags.propertyName_of_brace hAhead']
      have hRun := f.span_remains (· ≠ '\x7d') (hSkip.tail.skip f) (Nat.le_refl _) (Nat.le_refl _)
      unfold Flags.takeWhile
      generalize f.span _ _ (f.skip ahead) = run at hRun ⊢
      generalize f.span _ _ (f.skip (ahead ++ [')'])) = run' at hRun ⊢
      obtain ⟨name, rest⟩ := run
      obtain ⟨name', rest'⟩ := run'
      rcases hRun with ⟨rfl, hRest⟩ | ⟨-, rfl, rfl⟩
      · dsimp only at hRest
        cases rest with
        | nil =>
          -- no brace ends the name, and the parenthesis is used up
          rcases hRest.eq_or_eq_of_nil with rfl | rfl
          · refine .error fun b hb => ?_
            cases hb
            rfl
          · exact .errors
        | cons d rest =>
          obtain rfl := hRest.eq_of_cons
          exact .ok ⟨rfl, hRest.tail⟩
      · exact .errors
    · rw [Flags.propertyName_of_other hAhead hc, Flags.propertyName_of_other hAhead' hc]
      split_ifs
      · exact .errors
      · exact .ok ⟨rfl, hSkip.tail.skip f⟩

/-! ## Edges of words -/

/-- Nothing is left but an opening brace and the parenthesis. -/
def Flags.IsBraceOnly (f : Flags) (cs : List Char) : Prop :=
  ∃ ahead, cs = '\x7b' :: ahead ∧ f.skip ahead = [')']

theorem Flags.wordEdge_of_ne {f : Flags} (h : ∀ ahead, cs ≠ '\x7b' :: ahead) :
    f.wordEdge cs = .ok (.either, cs) := by
  unfold Flags.wordEdge
  split
  next => exact absurd rfl (h _)
  next => rfl

/-- The name of an edge, after its characters. -/
def Flags.edgeBraced : List Char × List Char → Except Fault (WordEdge × List Char)
  | (name, '\x7d' :: rest) =>
    match wordEdge? (String.ofList name) with
    | some e => .ok (e, rest)
    | none => .error (.wordEdgeUnknown (String.ofList name))
  | _ => .error .wordEdgeUnclosed

/-- Whether the character may stand in the name of an edge. -/
def inEdgeName (c : Char) : Bool :=
  c.isAlpha || c = '-'

theorem Flags.wordEdge_brace (f : Flags) (ahead : List Char) :
    f.wordEdge ('\x7b' :: ahead) =
      match f.skip ahead with
      | [] => .error .wordEdgeUnclosed
      | c :: rest =>
        if !inEdgeName c then .ok (.either, '\x7b' :: ahead)
        else edgeBraced (f.takeWhile inEdgeName (c :: rest)) := by
  rfl

theorem Flags.edgeBraced_of_ne {name : List Char} (h : ∀ rest, cs ≠ '\x7d' :: rest) :
    edgeBraced (name, cs) = .error .wordEdgeUnclosed :=
  Flags.edgeBraced.eq_2 _ fun _ rest hEq => h rest (congrArg Prod.snd hEq)

theorem edgeBraced_tracks {run run' : List Char × List Char} (h : Agree src run run') :
    Tracks (Agree src) (fun _ => False) (Flags.edgeBraced run) (Flags.edgeBraced run') := by
  obtain ⟨name, rest⟩ := run
  obtain ⟨name', rest'⟩ := run'
  obtain ⟨rfl, hRest⟩ := h
  rcases hRest.next_or_other (c := '\x7d') (by decide) with
    ⟨left, rfl, rfl, hLeft⟩ | ⟨hne, hne'⟩
  · simp only [Flags.edgeBraced]
    split
    · exact .ok ⟨rfl, hLeft⟩
    · exact .errors
  · rw [Flags.edgeBraced_of_ne hne, Flags.edgeBraced_of_ne hne']
    exact .errors

/-- Edges of words. After an opening brace the parenthesis is taken for a count that begins. -/
theorem Flags.wordEdge_tracks (f : Flags) (h : Remains src cs cs') :
    Tracks (Agree src) (fun b => f.IsBraceOnly b.2) (f.wordEdge cs) (f.wordEdge cs') := by
  rcases h.next_or_other (c := '\x7b') (by decide) with
    ⟨ahead, rfl, rfl, hAhead⟩ | ⟨hne, hne'⟩
  · have hSkip := hAhead.skip f
    rw [Flags.wordEdge_brace, Flags.wordEdge_brace]
    generalize f.skip ahead = rest at hSkip
    generalize hRest' : f.skip (ahead ++ [')']) = rest' at hSkip
    cases rest with
    | nil =>
      -- no name begins with the parenthesis, so the brace is left alone
      refine .error fun b hb => ?_
      rcases hSkip.eq_or_eq_of_nil with rfl | rfl
      · cases hb
        exact ⟨_, rfl, hRest'⟩
      · cases hb
    | cons c rest =>
      obtain rfl := hSkip.eq_of_cons
      dsimp only
      split_ifs
      · exact .ok ⟨rfl, h⟩
      · exact (edgeBraced_tracks (f.takeWhile_remains (by decide) hSkip)).mono
          (fun _ _ => id) nofun
  · -- without a brace it is the plain edge of a word
    rw [Flags.wordEdge_of_ne hne, Flags.wordEdge_of_ne hne']
    exact .ok ⟨rfl, h⟩

/-! ## All escapes -/

/-- What is read of a piece with the help of the parenthesis: the parenthesis itself, or an
assertion in front of a count that has no number. -/
def Flags.IsSpoiltAtom (f : Flags) (b : Atom × List Char) : Prop :=
  b.2 = [] ∨ (∃ a, b.1 = .assert a) ∧ f.IsBraceOnly b.2

/-- A character given by its number. -/
def Flags.hexAtom (f : Flags) (width : Nat) (cs : List Char) :
    Except Fault (Atom × List Char) := do
  let (d, rest) ← f.hex width cs
  .ok (.char d (width = 2 && (f.skip cs).head? ≠ some '\x7b'), rest)

theorem Flags.hexAtom_tracks (f : Flags) (width : Nat) (h : Remains src cs cs') :
    Tracks (Agree src) f.IsSpoiltAtom (f.hexAtom width cs) (f.hexAtom width cs') := by
  have hHex := f.hex_tracks width h
  have hSkip := h.skip f
  cases hAhead : f.skip cs with
  | nil =>
    -- there is no number, with the parenthesis or without
    have hError : f.hex width cs = .error .escapeUnfinished := by rw [Flags.hex, hAhead]
    rw [Flags.hexAtom, hError]
    rw [hError] at hHex
    exact hHex.bind_error
  | cons c ahead =>
    have hHead : (f.skip cs).head? = (f.skip cs').head? := by
      rw [hAhead] at hSkip ⊢
      rw [hSkip.eq_of_cons]
      rfl
    rw [Flags.hexAtom, Flags.hexAtom, hHead]
    refine hHex.bind_ok ?_
    rintro ⟨d, rest⟩ ⟨_, rest'⟩ ⟨rfl, hRest⟩
    exact .ok ⟨rfl, hRest⟩

/-- A set given by the name of a property. -/
def Flags.propertyAtom (f : Flags) (negated : Bool) (cs : List Char) :
    Except Fault (Atom × List Char) := do
  let (name, rest) ← f.propertyName cs
  let a ← f.propertyNamed negated name
  .ok (a, rest)

theorem Flags.propertyAtom_tracks (f : Flags) (negated : Bool) (h : Remains src cs cs') :
    Tracks (Agree src) f.IsSpoiltAtom (f.propertyAtom negated cs) (f.propertyAtom negated cs') := by
  refine (f.propertyName_tracks h).bind ?_ ?_
  · rintro ⟨name, rest⟩ ⟨_, rest'⟩ ⟨rfl, hRest⟩
    exact .bind_same fun a => .ok ⟨rfl, hRest⟩
  · rintro ⟨name, rest⟩ b hNil hb
    obtain ⟨a, -, hb⟩ := Traversal.bind_eq_ok_iff.mp hb
    cases hb
    exact .inl hNil

/-- An assertion about the edge of a word. -/
theorem Flags.edgeAtom_tracks (f : Flags) (h : Remains src cs cs') :
    Tracks (Agree src) f.IsSpoiltAtom
      (do
        let (e, rest) ← f.wordEdge cs
        .ok (.assert (.word (!f.unicode) e), rest))
      (do
        let (e, rest) ← f.wordEdge cs'
        .ok (.assert (.word (!f.unicode) e), rest)) := by
  refine (f.wordEdge_tracks h).bind ?_ ?_
  · rintro ⟨e, rest⟩ ⟨_, rest'⟩ ⟨rfl, hRest⟩
    exact .ok ⟨rfl, hRest⟩
  · rintro ⟨e, rest⟩ b hBrace hb
    cases hb
    exact .inr ⟨⟨_, rfl⟩, hBrace⟩

/-- All that a backslash can begin. -/
theorem Flags.escape_tracks (f : Flags) (h : Remains src cs cs') :
    Tracks (Agree src) f.IsSpoiltAtom (f.escape cs) (f.escape cs') := by
  cases cs with
  | nil =>
    refine .error fun b hb => ?_
    rcases h.eq_or_eq_of_nil with rfl | rfl
    · -- the parenthesis stands for itself
      cases hb
      exact .inl rfl
    · cases hb
  | cons c cs =>
    obtain rfl := h.eq_of_cons
    have hRest := h.tail
    have hPlain (a : Atom) :
        Tracks (Agree src) f.IsSpoiltAtom (.ok (a, cs)) (.ok (a, cs ++ [')'])) :=
      .ok ⟨rfl, hRest⟩
    have hWide (negated : Bool) (k : WideClass) : Tracks (Agree src) f.IsSpoiltAtom
        (do
          let a ← f.wideClass negated k
          .ok (a, cs))
        (do
          let a ← f.wideClass negated k
          .ok (a, cs ++ [')'])) :=
      .bind_same hPlain
    simp only [Flags.escape]
    -- what stands for one character is read alike, and the others have their own lemmas
    split_ifs
    · exact hPlain _
    · exact .errors
    · split
      · exact f.hexAtom_tracks 2 hRest
      · exact f.hexAtom_tracks 4 hRest
      · exact f.hexAtom_tracks 8 hRest
      · exact f.propertyAtom_tracks false hRest
      · exact f.propertyAtom_tracks true hRest
      · exact hWide false .digit
      · exact hWide true .digit
      · exact hWide false .blank
      · exact hWide true .blank
      · exact hWide false .word
      · exact hWide true .word
      · exact hPlain _
      · exact hPlain _
      · exact hPlain _
      · exact hPlain _
      · exact hPlain _
      · exact hPlain _
      · exact hPlain _
      · exact hPlain _
      · exact f.edgeAtom_tracks hRest
      · exact hPlain _
      · exact hPlain _
      · exact hPlain _
      · exact .errors

end StreamVerdict.Regex
