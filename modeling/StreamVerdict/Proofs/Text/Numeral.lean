import Mathlib.Data.List.TakeWhile
import StreamVerdict.Proofs.Text.Characters
import StreamVerdict.Text.Blank
import StreamVerdict.Text.Natural

/-!
# Numerals

A numeral is one or more digits after an optional plus sign. The reader of
natural numbers accepts exactly the numerals of numbers that are small enough,
with any number of leading zeros: the value so far never goes down, so once it
is too large no digit that follows can help.

Main results:

* `Text.readNatural_eq_ok_iff` — what is read as a number;
* `Text.exists_trimChars` / `Text.trimChars_between` — what is left when the
  blanks at both ends are taken away.
-/

namespace StreamVerdict.Text

/-! ## Digits -/

/-- A text is a numeral of a number: an optional plus sign and digits of that value. -/
def IsNumeral (cs : List Char) (n : Nat) : Prop :=
  ∃ sign digits, cs = sign ++ digits ∧ (sign = [] ∨ sign = ['+']) ∧ digits ≠ [] ∧
    (∀ c ∈ digits, c.isDigit = true) ∧ Nat.ofDigitChars 10 digits 0 = n

/-- More digits never make a value smaller. -/
theorem le_ofDigitChars (digits : List Char) (value : Nat) :
    value ≤ Nat.ofDigitChars 10 digits value := by
  rw [Nat.ofDigitChars_eq_ofDigitChars_zero]
  have hPos : 0 < 10 ^ digits.length := Nat.pow_pos (by decide)
  calc value ≤ 10 ^ digits.length * value := Nat.le_mul_of_pos_left value hPos
    _ ≤ _ := Nat.le_add_right _ _

theorem readDigits_eq_ok_iff {largest value n : Nat} (hv : value ≤ largest) {cs : List Char} :
    readDigits largest value cs = .ok n ↔
      (∀ c ∈ cs, c.isDigit = true) ∧ Nat.ofDigitChars 10 cs value = n ∧ n ≤ largest := by
  induction cs generalizing value with
  | nil =>
    simp only [readDigits, Except.ok.injEq, Nat.ofDigitChars_nil]
    constructor
    · rintro rfl
      exact ⟨by simp, rfl, hv⟩
    · exact fun h => h.2.1
  | cons c cs ih =>
    rw [readDigits, List.forall_mem_cons, Nat.ofDigitChars_cons, Nat.mul_comm 10 value]
    -- a character that is no digit ends the reading, and the value grows with each that is one
    cases hc : c.isDigit with
    | false => simp
    | true =>
      simp only [Bool.not_true, Bool.false_eq_true, if_false, true_and]
      split
      next hLarge =>
        -- the value is too large already, and so is that of all digits
        have hle := le_ofDigitChars cs (value * 10 + (c.toNat - '0'.toNat))
        constructor
        · intro h
          cases h
        · rintro ⟨-, rfl, hn⟩
          omega
      next hSmall => exact ih (by omega)

/-! ## Signs -/

/-- A plus sign in front leaves the digits. -/
theorem isNumeral_plus_iff {cs : List Char} {n : Nat} : IsNumeral ('+' :: cs) n ↔
    cs ≠ [] ∧ (∀ c ∈ cs, c.isDigit = true) ∧ Nat.ofDigitChars 10 cs 0 = n := by
  constructor
  · rintro ⟨sign, digits, hcs, rfl | rfl, hne, hDigits, hValue⟩
    · -- the plus sign would be a digit
      rw [List.nil_append] at hcs
      exact absurd (hDigits '+' (by simp [← hcs])) (by decide)
    · cases hcs
      exact ⟨hne, hDigits, hValue⟩
  · rintro ⟨hne, hDigits, hValue⟩
    exact ⟨['+'], cs, rfl, .inr rfl, hne, hDigits, hValue⟩

/-- Without a plus sign in front everything is a digit. -/
theorem isNumeral_iff_of_no_plus {cs : List Char} {n : Nat} (h : ∀ rest, cs ≠ '+' :: rest) :
    IsNumeral cs n ↔
      cs ≠ [] ∧ (∀ c ∈ cs, c.isDigit = true) ∧ Nat.ofDigitChars 10 cs 0 = n := by
  constructor
  · rintro ⟨sign, digits, rfl, rfl | rfl, hne, hDigits, hValue⟩
    · exact ⟨hne, hDigits, hValue⟩
    · exact absurd rfl (h digits)
  · rintro ⟨hne, hDigits, hValue⟩
    exact ⟨[], cs, rfl, .inl rfl, hne, hDigits, hValue⟩

/-- What is read as a number are the numerals of numbers that are small enough. -/
theorem readNatural_eq_ok_iff {largest n : Nat} {cs : List Char} :
    readNatural largest cs = .ok n ↔ IsNumeral cs n ∧ n ≤ largest := by
  unfold readNatural
  split
  · have hNil (digits : List Char) : [] ≠ '+' :: digits := nofun
    simp [isNumeral_iff_of_no_plus hNil]
  · simp [isNumeral_plus_iff]
  next cs hcs =>
    rw [readDigits_eq_ok_iff (Nat.zero_le _), isNumeral_plus_iff, and_iff_right hcs, and_assoc]
  next hNil _ hPlus =>
    rw [readDigits_eq_ok_iff (Nat.zero_le _), isNumeral_iff_of_no_plus hPlus, and_iff_right hNil,
      and_assoc]

/-- A numeral has at least one digit in it, and besides digits at most a plus sign. -/
theorem IsNumeral.characters {cs : List Char} {n : Nat} (h : IsNumeral cs n) :
    (∀ c ∈ cs, c = '+' ∨ c.isDigit = true) ∧ ∃ c ∈ cs, c.isDigit = true := by
  obtain ⟨sign, digits, rfl, hSign, hne, hDigits, -⟩ := h
  constructor
  · intro c hc
    rcases List.mem_append.mp hc with hc | hc
    · left
      rcases hSign with rfl | rfl
      · cases hc
      · exact List.mem_singleton.mp hc
    · exact .inr (hDigits c hc)
  · obtain ⟨c, rest, rfl⟩ := List.exists_cons_of_ne_nil hne
    exact ⟨c, by simp, hDigits c List.mem_cons_self⟩

/-! ## Blanks at the ends -/

theorem isBlank_of_isDigit {c : Char} (h : c.isDigit = true) : isBlank c = false := by
  have hCode : 48 ≤ c.toNat ∧ c.toNat ≤ 57 := Char.isDigit_iff_toNat.mp h
  simp only [isBlank, Bool.or_eq_false_iff, Bool.and_eq_false_iff, decide_eq_false_iff_not]
  omega

/-- Blanks stand around what is left when they are taken away. -/
theorem exists_trimChars (cs : List Char) : ∃ before after, cs = before ++ trimChars cs ++ after ∧
    ∀ c ∈ before ++ after, isBlank c = true := by
  let rest := (cs.dropWhile isBlank).reverse
  refine ⟨cs.takeWhile isBlank, (rest.takeWhile isBlank).reverse, ?_, ?_⟩
  · have hRest : trimChars cs ++ (rest.takeWhile isBlank).reverse = cs.dropWhile isBlank := by
      rw [trimChars, ← List.reverse_append, List.takeWhile_append_dropWhile, List.reverse_reverse]
    rw [List.append_assoc, hRest, List.takeWhile_append_dropWhile]
  · intro c hc
    rcases List.mem_append.mp hc with hc | hc
    · exact List.mem_takeWhile_imp hc
    · exact List.mem_takeWhile_imp (List.mem_reverse.mp hc)

/-- What has no blanks in it is left when blanks around it are taken away. -/
theorem trimChars_between {before kept after : List Char}
    (hBlank : ∀ c ∈ before ++ after, isBlank c = true) (hne : kept ≠ [])
    (hKept : ∀ c ∈ kept, isBlank c = false) : trimChars (before ++ kept ++ after) = kept := by
  obtain ⟨hBefore, hAfter⟩ := List.forall_mem_append.mp hBlank
  have hFirst : ∀ c ∈ (kept ++ after).head?, isBlank c = false := by
    intro c hc
    rw [List.head?_append_of_ne_nil kept hne] at hc
    exact hKept c (List.mem_of_mem_head? hc)
  have hLast : ∀ c ∈ kept.reverse.head?, isBlank c = false := fun c hc =>
    hKept c (List.mem_reverse.mp (List.mem_of_mem_head? hc))
  have hAfter' : ∀ c ∈ after.reverse, isBlank c = true := fun c hc =>
    hAfter c (List.mem_reverse.mp hc)
  rw [trimChars, List.append_assoc, dropWhile_run hBefore hFirst, List.reverse_append,
    dropWhile_run hAfter' hLast, List.reverse_reverse]

/-- Nothing is taken away from a text without blanks. -/
theorem trimChars_eq_self {cs : List Char} (h : ∀ c ∈ cs, isBlank c = false) :
    trimChars cs = cs := by
  by_cases hne : cs = []
  · rw [hne]
    rfl
  · have hBetween : trimChars ([] ++ cs ++ []) = cs := trimChars_between (by simp) hne h
    simpa using hBetween

end StreamVerdict.Text
