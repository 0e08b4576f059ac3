import Mathlib.Data.List.Basic
import Mathlib.Data.Option.Basic
import StreamVerdict.Regex.Search

/-!
# The search finds what the expression describes

`searchFrom` never looks back: after each character it keeps, of every match
that is under way, the sequence of expressions that is left of it. What such a
sequence describes is told by `SeqMatches`, and reading a character turns what
an expression describes into what one of the sequences left of it describes.

Repetitions need care. Passes that take nothing count towards the least number
of them, so they can be put in front as needed, but only as long as the greatest
number allows it. This is why the bounds of a repetition must be in order.

Main definitions:

* `SeqMatches`: the texts that a sequence of expressions matches;
* `Expr.IsOrdered`: the bounds of every repetition are in order;
* `Expr.MatchesAtStart`: a text begins with a match.

Main results:

* `Expr.matches_times_iff`: a repetition is a number of passes within its bounds;
* `Expr.nullable_iff` and `Expr.left_iff`: matches of nothing, and of one
  character and what comes after it;
* `Expr.isMatch_iff`: a search succeeds exactly if some part of the text matches.
-/

namespace StreamVerdict.Regex

/-! ## Sequences of expressions -/

/-- `SeqMatches rs before w after` says that the expressions `rs`, one after the other, describe
the text `w` between two neighbours. -/
def SeqMatches : List Expr → Option Char → List Char → Option Char → Prop
  | [], _, w, _ => w = []
  | r :: rs, p, w, n =>
    ∃ u v, w = u ++ v ∧ r.Matches p u (v.head?.or n) ∧ SeqMatches rs (u.getLast?.or p) v n

theorem seqMatches_singleton {r : Expr} {p n : Option Char} {w : List Char} :
    SeqMatches [r] p w n ↔ r.Matches p w n := by
  constructor
  · rintro ⟨u, v, rfl, hr, rfl⟩
    simpa using hr
  · intro hr
    exact ⟨w, [], by simp, by simpa using hr, rfl⟩

theorem seqMatches_append {rs ss : List Expr} {p n : Option Char} {w : List Char} :
    SeqMatches (rs ++ ss) p w n ↔
      ∃ u v, w = u ++ v ∧ SeqMatches rs p u (v.head?.or n) ∧
        SeqMatches ss (u.getLast?.or p) v n := by
  induction rs generalizing p w with
  | nil => simp [SeqMatches]
  | cons r rs ih =>
    constructor
    · rintro ⟨u, v', rfl, hr, hRest⟩
      obtain ⟨v, x, rfl, hrs, hss⟩ := ih.mp hRest
      refine ⟨u ++ v, x, (List.append_assoc ..).symm, ⟨u, v, rfl, ?_, hrs⟩, ?_⟩
      · simpa [List.head?_append, Option.or_assoc] using hr
      · simpa [List.getLast?_append, Option.or_assoc] using hss
    · rintro ⟨_, x, rfl, ⟨u, v, rfl, hr, hrs⟩, hss⟩
      refine ⟨u, v ++ x, List.append_assoc .., ?_, ih.mpr ⟨v, x, rfl, hrs, ?_⟩⟩
      · simpa [List.head?_append, Option.or_assoc] using hr
      · simpa [List.getLast?_append, Option.or_assoc] using hss

theorem seqMatches_nil_iff {rs : List Expr} {p n : Option Char} :
    SeqMatches rs p [] n ↔ ∀ r ∈ rs, r.Matches p [] n := by
  induction rs with
  | nil => simp [SeqMatches]
  | cons r rs ih =>
    rw [List.forall_mem_cons, ← ih]
    constructor
    · rintro ⟨u, v, huv, hr, hrs⟩
      obtain ⟨rfl, rfl⟩ := List.append_eq_nil_iff.mp huv.symm
      exact ⟨by simpa using hr, by simpa using hrs⟩
    · rintro ⟨hr, hrs⟩
      exact ⟨[], [], rfl, by simpa using hr, by simpa using hrs⟩

/-- A first expression that takes nothing can be left out. -/
theorem seqMatches_cons_of_matches_nil {r : Expr} {rs : List Expr} {p n : Option Char}
    {w : List Char} (hr : r.Matches p [] (w.head?.or n)) (hrs : SeqMatches rs p w n) :
    SeqMatches (r :: rs) p w n :=
  ⟨[], w, rfl, hr, by simpa using hrs⟩

theorem getLast?_cons_or (c : Char) (u : List Char) (p : Option Char) :
    (c :: u).getLast?.or p = u.getLast?.or (some c) := by
  cases u <;> simp [List.getLast?_cons]

/-- A sequence describes a text that begins with `c` if its first expression takes `c`, or takes
nothing and leaves the text to the others. -/
theorem seqMatches_cons_cons_iff {r : Expr} {rs : List Expr} {p n : Option Char} {c : Char}
    {w : List Char} :
    SeqMatches (r :: rs) p (c :: w) n ↔
      (∃ u v, w = u ++ v ∧ r.Matches p (c :: u) (v.head?.or n) ∧
        SeqMatches rs (u.getLast?.or (some c)) v n) ∨
      r.Matches p [] (some c) ∧ SeqMatches rs p (c :: w) n := by
  constructor
  · rintro ⟨u, v, huv, hr, hrs⟩
    -- the first piece takes nothing or takes `c`
    cases u with
    | nil =>
      obtain rfl : c :: w = v := huv
      exact .inr ⟨by simpa using hr, by simpa using hrs⟩
    | cons d u =>
      obtain ⟨rfl, rfl⟩ := List.cons_eq_cons.mp huv
      rw [getLast?_cons_or] at hrs
      exact .inl ⟨u, v, rfl, hr, hrs⟩
  · rintro (⟨u, v, rfl, hr, hrs⟩ | ⟨hr, hrs⟩)
    · exact ⟨c :: u, v, rfl, hr, by rwa [getLast?_cons_or]⟩
    · exact seqMatches_cons_of_matches_nil (by simpa using hr) hrs

namespace Expr

/-! ## Matches by the form of the expression -/

theorem matches_chars_iff {s : CharSet} {p n : Option Char} {w : List Char} :
    (chars s).Matches p w n ↔ ∃ c, s.contains c = true ∧ w = [c] := by
  constructor
  · intro h
    cases h with
    | chars h => exact ⟨_, h, rfl⟩
  · rintro ⟨c, h, rfl⟩
    exact .chars h

theorem matches_assert_iff {a : Assertion} {p n : Option Char} {w : List Char} :
    (assert a).Matches p w n ↔ a.holds p n = true ∧ w = [] := by
  constructor
  · intro h
    cases h with
    | assert h => exact ⟨h, rfl⟩
  · rintro ⟨h, rfl⟩
    exact .assert h

theorem matches_seq_iff {a b : Expr} {p n : Option Char} {w : List Char} :
    (seq a b).Matches p w n ↔ SeqMatches [a, b] p w n := by
  constructor
  · intro h
    cases h with
    | seq ha hb => exact ⟨_, _, rfl, ha, seqMatches_singleton.mpr hb⟩
  · rintro ⟨u, v, rfl, ha, hb⟩
    exact .seq ha (seqMatches_singleton.mp hb)

theorem matches_alt_iff {a b : Expr} {p n : Option Char} {w : List Char} :
    (alt a b).Matches p w n ↔ a.Matches p w n ∨ b.Matches p w n := by
  constructor
  · intro h
    cases h with
    | altLeft h => exact .inl h
    | altRight h => exact .inr h
  · rintro (h | h)
    · exact .altLeft h
    · exact .altRight h

/-- One pass fewer is allowed once one has been made. -/
theorem forall_mem_pred_iff {hi : Option Nat} (hhi : hi ≠ some 0) {j : Nat} :
    (∀ h ∈ hi.map (· - 1), j ≤ h) ↔ ∀ h ∈ hi, j + 1 ≤ h := by
  cases hi with
  | none => simp
  | some h =>
    have hPos : h ≠ 0 := fun h0 => hhi (congrArg some h0)
    simp only [Option.map_some, Option.mem_some_iff, forall_eq']
    omega

theorem matches_times_of_passes {a : Expr} {k lo : Nat} {hi : Option Nat} {p n : Option Char}
    {w : List Char} (hlo : lo ≤ k) (hhi : ∀ h ∈ hi, k ≤ h)
    (hw : SeqMatches (List.replicate k a) p w n) : (times a lo hi).Matches p w n := by
  induction k generalizing lo hi p w with
  | zero =>
    obtain rfl : lo = 0 := Nat.le_zero.mp hlo
    obtain rfl : w = [] := hw
    exact .done
  | succ k ih =>
    obtain ⟨u, v, rfl, ha, hRest⟩ := hw
    have hSome : hi ≠ some 0 := by
      rintro rfl
      exact absurd (hhi 0 rfl) (by omega)
    exact .once hSome ha (ih (by omega) ((forall_mem_pred_iff hSome).mpr hhi) hRest)

/-- A repetition matches what a number of passes within its bounds matches. -/
theorem matches_times_iff {a : Expr} {lo : Nat} {hi : Option Nat} {p n : Option Char}
    {w : List Char} :
    (times a lo hi).Matches p w n ↔
      ∃ k, lo ≤ k ∧ (∀ h ∈ hi, k ≤ h) ∧ SeqMatches (List.replicate k a) p w n := by
  constructor
  · intro hw
    generalize he : times a lo hi = e at hw
    -- on the match: no pass, or one more than the rest has
    induction hw generalizing lo hi with
    | done =>
      obtain ⟨rfl, rfl, rfl⟩ := by simpa using he
      exact ⟨0, Nat.le_refl _, fun _ _ => Nat.zero_le _, rfl⟩
    | @once _ _ _ _ _ u v hhi ha _ _ ih =>
      obtain ⟨rfl, rfl, rfl⟩ := by simpa using he
      obtain ⟨k, hlo, hle, hRest⟩ := ih rfl
      exact ⟨k + 1, by omega, (forall_mem_pred_iff hhi).mp hle, u, v, rfl, ha, hRest⟩
    | _ => cases he
  · rintro ⟨k, hlo, hhi, hw⟩
    exact matches_times_of_passes hlo hhi hw

/-! ## Bounds in order -/

/-- No repetition asks for more passes than it allows. -/
def IsOrdered : Expr → Prop
  | times a lo hi => a.IsOrdered ∧ ∀ h ∈ hi, lo ≤ h
  | seq a b | alt a b => a.IsOrdered ∧ b.IsOrdered
  | _ => True

/-! ## Matches of nothing -/

theorem nullable_iff {r : Expr} (hr : r.IsOrdered) {p n : Option Char} :
    r.nullable p n = true ↔ r.Matches p [] n := by
  induction r with
  | empty => exact ⟨fun _ => .empty, fun _ => rfl⟩
  | chars s => simp [nullable, matches_chars_iff]
  | assert a => simp [nullable, matches_assert_iff]
  | seq a b iha ihb =>
    simp [nullable, matches_seq_iff, seqMatches_nil_iff, iha hr.1, ihb hr.2]
  | alt a b iha ihb => simp [nullable, matches_alt_iff, iha hr.1, ihb hr.2]
  | times a lo hi ih =>
    rw [nullable, Bool.or_eq_true, beq_iff_eq, ih hr.1, matches_times_iff]
    -- no pass is needed, or the passes that are needed all take nothing
    constructor
    · rintro (rfl | ha)
      · exact ⟨0, Nat.le_refl _, fun _ _ => Nat.zero_le _, rfl⟩
      · refine ⟨lo, Nat.le_refl _, hr.2, seqMatches_nil_iff.mpr fun s hs => ?_⟩
        rwa [List.eq_of_mem_replicate hs]
    · rintro ⟨k, hlo, -, hw⟩
      rcases Nat.eq_zero_or_pos k with rfl | hk
      · exact .inl (Nat.le_zero.mp hlo)
      · exact .inr (seqMatches_nil_iff.mp hw a (by simp; omega))

/-! ## Matches that begin with a character -/

/-- Among several passes that take some text there is a first one that takes something. Either no
pass stands in front of it, or a pass can take nothing there. -/
theorem exists_first_pass {a : Expr} {k : Nat} {p n : Option Char} {c : Char} {w : List Char}
    (hw : SeqMatches (List.replicate k a) p (c :: w) n) :
    ∃ j u v, j < k ∧ (j + 1 = k ∨ a.Matches p [] (some c)) ∧ w = u ++ v ∧
      a.Matches p (c :: u) (v.head?.or n) ∧
      SeqMatches (List.replicate j a) (u.getLast?.or (some c)) v n := by
  induction k with
  | zero => cases hw
  | succ k ih =>
    rcases seqMatches_cons_cons_iff.mp hw with ⟨u, v, rfl, ha, hRest⟩ | ⟨ha, hRest⟩
    · exact ⟨k, u, v, by omega, .inl rfl, rfl, ha, hRest⟩
    · obtain ⟨j, u, v, hj, -, hSplit, hPass, hAfter⟩ := ih hRest
      exact ⟨j, u, v, by omega, .inr ha, hSplit, hPass, hAfter⟩

/-- Passes that take nothing can be put in front of others. -/
theorem seqMatches_replicate_add {a : Expr} {p n : Option Char} {w : List Char} {j : Nat}
    (ha : a.Matches p [] (w.head?.or n)) (hw : SeqMatches (List.replicate j a) p w n) (k : Nat) :
    SeqMatches (List.replicate (k + j) a) p w n := by
  induction k with
  | zero => rwa [Nat.zero_add]
  | succ k ih =>
    rw [Nat.add_right_comm]
    exact seqMatches_cons_of_matches_nil ha ih

/-- What is left of each match of `r`, with more to be matched after it. -/
theorem exists_mem_map_append_iff {r : Expr} {rs : List Expr} {p n : Option Char} {c : Char}
    {w : List Char}
    (hr : ∀ u n, r.Matches p (c :: u) n ↔ ∃ l ∈ r.left p c, SeqMatches l (some c) u n) :
    (∃ l ∈ (r.left p c).map (· ++ rs), SeqMatches l (some c) w n) ↔
      ∃ u v, w = u ++ v ∧ r.Matches p (c :: u) (v.head?.or n) ∧
        SeqMatches rs (u.getLast?.or (some c)) v n := by
  constructor
  · rintro ⟨_, hMem, hw⟩
    obtain ⟨l, hl, rfl⟩ := List.mem_map.mp hMem
    obtain ⟨u, v, rfl, hu, hv⟩ := seqMatches_append.mp hw
    exact ⟨u, v, rfl, (hr u _).mpr ⟨l, hl, hu⟩, hv⟩
  · rintro ⟨u, v, rfl, hu, hv⟩
    obtain ⟨l, hl, hu⟩ := (hr u _).mp hu
    exact ⟨l ++ rs, List.mem_map_of_mem hl, seqMatches_append.mpr ⟨u, v, rfl, hu, hv⟩⟩

/-- A repetition of which a pass has been begun. -/
theorem left_times {a : Expr} {lo : Nat} {hi : Option Nat} (hhi : hi ≠ some 0) {p : Option Char}
    {c : Char} :
    (times a lo hi).left p c = (a.left p c).map
      (· ++ [times a (if a.nullable p (some c) then 0 else lo - 1) (hi.map (· - 1))]) := by
  rw [left, if_neg hhi]

/-- A match that begins with `c` goes on with a match of what is left. -/
theorem left_iff {r : Expr} (hr : r.IsOrdered) {p n : Option Char} {c : Char} {w : List Char} :
    r.Matches p (c :: w) n ↔ ∃ l ∈ r.left p c, SeqMatches l (some c) w n := by
  induction r generalizing n w with
  | empty => simpa [left] using nofun
  | chars s =>
    rw [matches_chars_iff, left]
    split_ifs with hc
    · simp only [List.mem_singleton, exists_eq_left, SeqMatches, List.cons_eq_cons]
      exact ⟨fun ⟨_, _, _, hw⟩ => hw, fun hw => ⟨c, hc, rfl, hw⟩⟩
    · simp only [List.not_mem_nil, false_and, exists_false, iff_false, List.cons_eq_cons]
      rintro ⟨d, hd, rfl, -⟩
      exact hc hd
  | assert a => simp [matches_assert_iff, left]
  | seq a b iha ihb =>
    rw [matches_seq_iff, seqMatches_cons_cons_iff, left, seqMatches_singleton, ihb hr.2,
      ← nullable_iff hr.1, ← exists_mem_map_append_iff fun _ _ => iha hr.1]
    by_cases hNull : a.nullable p (some c) = true <;> simp [hNull, or_and_right, exists_or]
  | alt a b iha ihb =>
    rw [matches_alt_iff, iha hr.1, ihb hr.2, left]
    simp only [List.mem_append, or_and_right, exists_or]
  | times a lo hi ih =>
    by_cases hZero : hi = some 0
    · -- no pass is allowed, so no character is taken
      subst hZero
      simp only [left, if_true, List.not_mem_nil, false_and, exists_false, iff_false,
        matches_times_iff]
      rintro ⟨k, -, hk, hw⟩
      obtain rfl : k = 0 := Nat.le_zero.mp (hk 0 rfl)
      cases hw
    · -- The pass that has been begun is the first one that takes something. Passes in front of it
      -- take nothing, and where a pass can do so, any number of them will do.
      rw [left_times hZero, exists_mem_map_append_iff fun _ _ => ih hr.1]
      simp only [seqMatches_singleton, matches_times_iff, forall_mem_pred_iff hZero]
      constructor
      · rintro ⟨k, hlo, hhi, hw⟩
        obtain ⟨j, u, v, hj, hFirst, rfl, hPass, hAfter⟩ := exists_first_pass hw
        refine ⟨u, v, rfl, hPass, j, ?_, fun h hMem => Nat.le_trans hj (hhi h hMem), hAfter⟩
        split
        next => exact Nat.zero_le j
        next hNull =>
          have := hFirst.resolve_right fun h => hNull ((nullable_iff hr.1).mpr h)
          omega
      · rintro ⟨u, v, rfl, hPass, j, hlo, hhi, hAfter⟩
        have hPasses : SeqMatches (List.replicate (j + 1) a) p (c :: (u ++ v)) n :=
          seqMatches_cons_cons_iff.mpr (.inl ⟨u, v, rfl, hPass, hAfter⟩)
        by_cases hle : lo ≤ j + 1
        · exact ⟨j + 1, hle, hhi, hPasses⟩
        · -- passes are missing, and those that take nothing make up for them
          have hEmpty : a.Matches p [] (some c) := by
            rw [← nullable_iff hr.1]
            by_contra hNull
            rw [if_neg hNull] at hlo
            omega
          have hMore := seqMatches_replicate_add (by simpa using hEmpty) hPasses (lo - (j + 1))
          rw [Nat.sub_add_cancel (by omega)] at hMore
          exact ⟨lo, Nat.le_refl _, hr.2, hMore⟩

/-- What is left of an expression has its bounds in order too. -/
theorem IsOrdered.left {r : Expr} (hr : r.IsOrdered) {p : Option Char} {c : Char} {l : List Expr}
    (hl : l ∈ r.left p c) : ∀ s ∈ l, s.IsOrdered := by
  induction r generalizing l with
  | empty => cases hl
  | assert a => cases hl
  | chars s =>
    rw [Expr.left] at hl
    split_ifs at hl with hc
    · obtain rfl : l = [] := by simpa using hl
      exact nofun
    · cases hl
  | seq a b iha ihb =>
    rw [Expr.left, List.mem_append, List.mem_map] at hl
    rcases hl with ⟨l', hl', rfl⟩ | hl
    · exact List.forall_mem_append.mpr ⟨iha hr.1 hl', List.forall_mem_singleton.mpr hr.2⟩
    · split_ifs at hl with hNull
      · exact ihb hr.2 hl
      · cases hl
  | alt a b iha ihb =>
    rw [Expr.left, List.mem_append] at hl
    exact hl.elim (iha hr.1) (ihb hr.2)
  | times a lo hi ih =>
    by_cases hZero : hi = some 0
    · simp [Expr.left, hZero] at hl
    rw [left_times hZero] at hl
    obtain ⟨l', hl', rfl⟩ := List.mem_map.mp hl
    refine List.forall_mem_append.mpr ⟨ih hr.1 hl', List.forall_mem_singleton.mpr ⟨hr.1, ?_⟩⟩
    intro h hMem
    obtain ⟨h', hMem', rfl⟩ := Option.mem_map.mp hMem
    have := hr.2 h' hMem'
    split <;> omega

end Expr

/-! ## Sequences left over -/

theorem seqNullable_iff {rs : List Expr} (hrs : ∀ r ∈ rs, r.IsOrdered) {p n : Option Char} :
    seqNullable p n rs = true ↔ SeqMatches rs p [] n := by
  rw [seqNullable, List.all_eq_true, seqMatches_nil_iff]
  exact forall₂_congr fun r hr => Expr.nullable_iff (hrs r hr)

theorem seqLeft_iff {rs : List Expr} (hrs : ∀ r ∈ rs, r.IsOrdered) {p n : Option Char} {c : Char}
    {w : List Char} :
    SeqMatches rs p (c :: w) n ↔ ∃ l ∈ seqLeft p c rs, SeqMatches l (some c) w n := by
  induction rs with
  | nil => simp [SeqMatches, seqLeft]
  | cons r rs ih =>
    obtain ⟨hr, hrs⟩ := List.forall_mem_cons.mp hrs
    rw [seqMatches_cons_cons_iff, seqLeft, ih hrs, ← Expr.nullable_iff hr,
      ← Expr.exists_mem_map_append_iff fun _ _ => Expr.left_iff hr]
    by_cases hNull : r.nullable p (some c) = true <;> simp [hNull, or_and_right, exists_or]

theorem isOrdered_of_mem_seqLeft {rs : List Expr} (hrs : ∀ r ∈ rs, r.IsOrdered)
    {p : Option Char} {c : Char} {l : List Expr} (hl : l ∈ seqLeft p c rs) :
    ∀ s ∈ l, s.IsOrdered := by
  induction rs with
  | nil => cases hl
  | cons r rs ih =>
    obtain ⟨hr, hrs⟩ := List.forall_mem_cons.mp hrs
    rw [seqLeft, List.mem_append, List.mem_map] at hl
    rcases hl with ⟨l', hl', rfl⟩ | hl
    · exact List.forall_mem_append.mpr ⟨hr.left hl', hrs⟩
    · split_ifs at hl with hNull
      · exact ih hrs hl
      · cases hl

/-! ## The search -/

/-- The text begins with something that the sequence describes. -/
def SeqBegins (rs : List Expr) (before : Option Char) (text : List Char) : Prop :=
  ∃ w post, text = w ++ post ∧ SeqMatches rs before w post.head?

theorem seqBegins_nil_iff {rs : List Expr} (hrs : ∀ r ∈ rs, r.IsOrdered) {p : Option Char} :
    SeqBegins rs p [] ↔ seqNullable p none rs = true := by
  rw [seqNullable_iff hrs]
  constructor
  · rintro ⟨w, post, hSplit, hw⟩
    obtain ⟨rfl, rfl⟩ := List.append_eq_nil_iff.mp hSplit.symm
    exact hw
  · exact fun h => ⟨[], [], rfl, h⟩

theorem seqBegins_cons_iff {rs : List Expr} (hrs : ∀ r ∈ rs, r.IsOrdered) {p : Option Char}
    {c : Char} {text : List Char} :
    SeqBegins rs p (c :: text) ↔
      seqNullable p (some c) rs = true ∨ ∃ l ∈ seqLeft p c rs, SeqBegins l (some c) text := by
  rw [seqNullable_iff hrs]
  constructor
  · rintro ⟨w, post, hSplit, hw⟩
    -- the match is empty or begins with `c`
    cases w with
    | nil =>
      obtain rfl : c :: text = post := hSplit
      exact .inl hw
    | cons d w =>
      obtain ⟨rfl, rfl⟩ := List.cons_eq_cons.mp hSplit
      obtain ⟨l, hl, hw⟩ := (seqLeft_iff hrs).mp hw
      exact .inr ⟨l, hl, w, post, rfl, hw⟩
  · rintro (h | ⟨l, hl, w, post, rfl, hw⟩)
    · exact ⟨[], c :: text, rfl, h⟩
    · exact ⟨c :: w, post, rfl, (seqLeft_iff hrs).mpr ⟨l, hl, hw⟩⟩

/-- A place in a text that begins with `c` lies in front of `c`, or behind it. -/
theorem exists_split_cons_iff (P : Option Char → List Char → Prop) {p : Option Char} {c : Char}
    {text : List Char} :
    (∃ pre rest, c :: text = pre ++ rest ∧ P (pre.getLast?.or p) rest) ↔
      P p (c :: text) ∨ ∃ pre rest, text = pre ++ rest ∧ P (pre.getLast?.or (some c)) rest := by
  constructor
  · rintro ⟨pre, rest, hSplit, h⟩
    -- the place is this one or a later one
    cases pre with
    | nil =>
      obtain rfl : c :: text = rest := hSplit
      exact .inl (by simpa using h)
    | cons d pre =>
      obtain ⟨rfl, rfl⟩ := List.cons_eq_cons.mp hSplit
      exact .inr ⟨pre, rest, rfl, by rwa [getLast?_cons_or] at h⟩
  · rintro (h | ⟨pre, rest, rfl, h⟩)
    · exact ⟨[], c :: text, rfl, by simpa using h⟩
    · exact ⟨c :: pre, rest, rfl, by rwa [getLast?_cons_or]⟩

/-- A search from some place on succeeds if one of the matches under way can be completed, or a
match begins at that place or a later one. -/
theorem searchFrom_iff {r : Expr} (hr : r.IsOrdered) {p : Option Char}
    {under : List (List Expr)} (hUnder : ∀ l ∈ under, ∀ s ∈ l, s.IsOrdered) {text : List Char} :
    searchFrom r p under text = true ↔
      (∃ l ∈ under, SeqBegins l p text) ∨
        ∃ pre rest, text = pre ++ rest ∧ SeqBegins [r] (pre.getLast?.or p) rest := by
  induction text generalizing p under with
  | nil =>
    have hAll : ∀ l ∈ [r] :: under, ∀ s ∈ l, s.IsOrdered :=
      List.forall_mem_cons.mpr ⟨List.forall_mem_singleton.mpr hr, hUnder⟩
    rw [searchFrom, List.any_eq_true]
    -- at the end of the text only what can be empty is completed
    constructor
    · rintro ⟨l, hl, hNull⟩
      have hBegins := (seqBegins_nil_iff (hAll l hl)).mpr hNull
      rcases List.mem_cons.mp hl with rfl | hl
      · exact .inr ⟨[], [], rfl, by simpa using hBegins⟩
      · exact .inl ⟨l, hl, hBegins⟩
    · rintro (⟨l, hl, hBegins⟩ | ⟨pre, rest, hSplit, hBegins⟩)
      · exact ⟨l, List.mem_cons_of_mem _ hl, (seqBegins_nil_iff (hUnder l hl)).mp hBegins⟩
      · obtain ⟨rfl, rfl⟩ := List.append_eq_nil_iff.mp hSplit.symm
        refine ⟨[r], List.mem_cons_self, (seqBegins_nil_iff (hAll _ List.mem_cons_self)).mp ?_⟩
        simpa using hBegins
  | cons c text ih =>
    have hAll : ∀ l ∈ [r] :: under, ∀ s ∈ l, s.IsOrdered :=
      List.forall_mem_cons.mpr ⟨List.forall_mem_singleton.mpr hr, hUnder⟩
    have hNext : ∀ l ∈ (([r] :: under).flatMap (seqLeft p c)).eraseDups, ∀ s ∈ l,
        s.IsOrdered := by
      intro l hl
      obtain ⟨l', hl', hLeft⟩ := List.mem_flatMap.mp (List.mem_eraseDups.mp hl)
      exact isOrdered_of_mem_seqLeft (hAll l' hl') hLeft
    -- all that is under way at the next place, or is completed here
    have hHere : (([r] :: under).any (seqNullable p (some c)) = true ∨
        ∃ l ∈ (([r] :: under).flatMap (seqLeft p c)).eraseDups, SeqBegins l (some c) text) ↔
        SeqBegins [r] p (c :: text) ∨ ∃ l ∈ under, SeqBegins l p (c :: text) := by
      rw [← List.exists_mem_cons_iff (SeqBegins · p (c :: text)), List.any_eq_true]
      constructor
      · rintro (⟨l, hl, hNull⟩ | ⟨l, hl, hBegins⟩)
        · exact ⟨l, hl, (seqBegins_cons_iff (hAll l hl)).mpr (.inl hNull)⟩
        · obtain ⟨l', hl', hLeft⟩ := List.mem_flatMap.mp (List.mem_eraseDups.mp hl)
          exact ⟨l', hl', (seqBegins_cons_iff (hAll l' hl')).mpr (.inr ⟨l, hLeft, hBegins⟩)⟩
      · rintro ⟨l, hl, hBegins⟩
        rcases (seqBegins_cons_iff (hAll l hl)).mp hBegins with hNull | ⟨l', hLeft, hBegins⟩
        · exact .inl ⟨l, hl, hNull⟩
        · exact .inr ⟨l', List.mem_eraseDups.mpr (List.mem_flatMap.mpr ⟨l, hl, hLeft⟩), hBegins⟩
    rw [searchFrom, Bool.or_eq_true, ih hNext, ← or_assoc, hHere,
      exists_split_cons_iff (SeqBegins [r]), or_assoc, or_left_comm]

namespace Expr

/-- **Searching is sound and complete.** A search succeeds exactly if some part of the text
matches. -/
theorem isMatch_iff {r : Expr} (hr : r.IsOrdered) {text : String} :
    r.isMatch text = true ↔ r.MatchesIn text.toList := by
  rw [isMatch, searchFrom_iff hr (by simp)]
  simp only [List.not_mem_nil, false_and, exists_false, false_or, Option.or_none]
  constructor
  · rintro ⟨pre, _, hSplit, w, post, rfl, hw⟩
    exact ⟨pre, w, post, by rw [hSplit, List.append_assoc], seqMatches_singleton.mp hw⟩
  · rintro ⟨pre, w, post, hSplit, hw⟩
    exact ⟨pre, w ++ post, by rw [hSplit, List.append_assoc], w, post, rfl,
      seqMatches_singleton.mpr hw⟩

/-! ## Matches at the start of a text -/

/-- The text begins with a match. What comes after the match does not matter. -/
def MatchesAtStart (r : Expr) (text : List Char) : Prop :=
  ∃ w rest, text = w ++ rest ∧ r.Matches none w rest.head?

/-- With the start of the text asked for in front, a match is one at the start. -/
theorem matchesIn_textStart_seq_iff {r : Expr} {text : List Char} :
    (seq (assert .textStart) r).MatchesIn text ↔ r.MatchesAtStart text := by
  constructor
  · rintro ⟨pre, w, post, rfl, hw⟩
    obtain ⟨u, v, rfl, hStart, hr⟩ := matches_seq_iff.mp hw
    obtain ⟨hNone, rfl⟩ := matches_assert_iff.mp hStart
    obtain rfl : pre = [] := by simpa [Assertion.holds] using hNone
    exact ⟨v, post, by simp, by simpa using seqMatches_singleton.mp hr⟩
  · rintro ⟨w, rest, rfl, hw⟩
    refine ⟨[], w, rest, by simp, matches_seq_iff.mpr ⟨[], w, rfl, ?_, ?_⟩⟩
    · exact .assert rfl
    · exact seqMatches_singleton.mpr (by simpa using hw)

end Expr

end StreamVerdict.Regex
