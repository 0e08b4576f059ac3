import Mathlib.Data.List.Basic
import StreamVerdict.Json.Read
import StreamVerdict.Toml.Scalar

/-!
# Texts as characters

A reader works on the characters of a text, so what is written is taken apart
into them: runs of characters of one kind, pieces with a separator between them,
and the digits of a number, from which every reader of digits gets it back.

Main results:

* `Text.takeWhile_run` / `Text.dropWhile_run` — a run of characters of a kind;
* `Text.toList_intercalate_cons` — pieces with a separator between them;
* `Text.toList_toString` — the text of a natural number;
* `Text.toDigits_cases` — a number has no leading zero;
* `Json.digitsValue_toDigits` / `Toml.digitsValue_toDigits` — the value of the
  digits of a number.
-/

namespace StreamVerdict

namespace Text

/-! ## Runs of characters -/

/-- A run of characters of a kind is taken up to the first that is of another kind. -/
theorem takeWhile_run {p : Char → Bool} {run rest : List Char} (hRun : ∀ c ∈ run, p c = true)
    (hRest : ∀ c ∈ rest.head?, p c = false) : (run ++ rest).takeWhile p = run := by
  rw [List.takeWhile_append_of_pos hRun]
  cases rest with
  | nil => simp
  | cons c rest => simp [hRest c rfl]

theorem dropWhile_run {p : Char → Bool} {run rest : List Char} (hRun : ∀ c ∈ run, p c = true)
    (hRest : ∀ c ∈ rest.head?, p c = false) : (run ++ rest).dropWhile p = rest := by
  rw [List.dropWhile_append_of_pos hRun]
  cases rest with
  | nil => rfl
  | cons c rest => simp [hRest c rfl]

/-! ## Pieces -/

theorem toList_intercalate_cons (sep s s' : String) (ss : List String) :
    (sep.intercalate (s :: s' :: ss)).toList =
      s.toList ++ (sep.toList ++ (sep.intercalate (s' :: ss)).toList) := by
  rw [String.intercalate_cons_cons, String.toList_append, String.toList_append, List.append_assoc]

/-- Pieces with a separator between them begin with the first one. -/
theorem exists_intercalate_eq (sep s : String) (ss : List String) :
    ∃ more, (sep.intercalate (s :: ss)).toList = s.toList ++ more := by
  cases ss with
  | nil => exact ⟨[], by simp⟩
  | cons s' ss => exact ⟨_, toList_intercalate_cons sep s s' ss⟩

/-! ## Digits -/

theorem toList_toString (n : Nat) : (toString (n : Int)).toList = Nat.toDigits 10 n :=
  Nat.toList_repr

theorem isDigit_of_mem {n : Nat} {c : Char} (h : c ∈ Nat.toDigits 10 n) : c.isDigit = true :=
  Nat.isDigit_of_mem_toDigits (by decide) (by decide) h

/-- A number other than zero does not begin with the digit zero. -/
theorem head?_toDigits_ne {n : Nat} (h : n ≠ 0) : (Nat.toDigits 10 n).head? ≠ some '0' := by
  induction n using Nat.strongRecOn with
  | ind n ih =>
    rw [Nat.toDigits_eq_if (by decide)]
    split
    next hlt =>
      have hAll : ∀ d, d < 10 → d ≠ 0 → d.digitChar ≠ '0' := by decide
      simpa using hAll n hlt h
    -- the number has the leading digits of its tenth
    next hge =>
      have hHead := ih (n / 10) (by omega) (by omega)
      obtain ⟨c, cs, hcs⟩ := List.exists_cons_of_ne_nil
        (Nat.toDigits_ne_nil (n := n / 10) (b := 10))
      simpa [hcs] using hHead

/-- A number is zero or has no leading zero. -/
theorem toDigits_cases (n : Nat) :
    (n = 0 ∧ Nat.toDigits 10 n = ['0']) ∨
      ∃ c cs, Nat.toDigits 10 n = c :: cs ∧ c.isDigit = true ∧ c ≠ '0' := by
  by_cases h : n = 0
  · exact .inl ⟨h, by rw [h]; rfl⟩
  · right
    obtain ⟨c, cs, hcs⟩ := List.exists_cons_of_ne_nil (Nat.toDigits_ne_nil (n := n) (b := 10))
    refine ⟨c, cs, hcs, isDigit_of_mem (n := n) (by simp [hcs]), ?_⟩
    have hHead := head?_toDigits_ne h
    simpa [hcs] using hHead

theorem foldl_toDigits (n : Nat) :
    (Nat.toDigits 10 n).foldl (fun n c => n * 10 + (c.toNat - '0'.toNat)) 0 = n := by
  have h := Nat.ofDigitChars_toDigits (b := 10) (n := n) (by decide) (by decide)
  rw [Nat.ofDigitChars_eq_foldl] at h
  simpa only [Nat.mul_comm] using h

end Text

theorem Json.digitsValue_toDigits (n : Nat) : Json.digitsValue (Nat.toDigits 10 n) = n :=
  Text.foldl_toDigits n

theorem Toml.digitsValue_toDigits (n : Nat) : Toml.digitsValue 10 (Nat.toDigits 10 n) = n := by
  refine Eq.trans (List.foldl_ext _ _ _ fun m c hc => ?_) (Text.foldl_toDigits n)
  rw [Toml.digitValue, if_pos (Text.isDigit_of_mem hc)]

end StreamVerdict
