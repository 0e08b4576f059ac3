import Mathlib
import StreamVerdict.Text.Letter

/-!
# What lower case leaves alone

There are two ways of setting case aside, and a text can meet both of them:
first all of it is put into lower case, then the letters A to Z are folded. The
second step finds nothing to do, because lower case leaves no capital behind. It
is the other order that matters. Folding A to Z keeps the capitals of other
scripts, and none of these is ever found in a text in lower case.

That lower case leaves no capital behind is a fact about the table of letters:
no run of it ends where another one starts from.

Main definitions:

* `foldAscii` — a text with A to Z folded;
* `HasPlainCase` — there are no capitals but A to Z.

Main results:

* `lowercase_eq_foldAscii_iff` — the texts that both ways treat alike;
* `sameAscii_lowercase_iff` — comparing a text in lower case with any other one.
-/

namespace StreamVerdict

/-! ## The table of letters -/

namespace Unicode.CaseRun

theorem isUpper_iff {c : Char} : c.isUpper = true ↔ 65 ≤ c.toNat ∧ c.toNat ≤ 90 := by
  simp [Char.isUpper, UInt32.le_iff_toNat_le, ← Char.toNat_val]

theorem covers_iff {r : CaseRun} {n : Nat} :
    r.covers n = true ↔ r.first ≤ n ∧ n ≤ r.last ∧ (n - r.first) % r.stride = 0 := by
  simp [covers, and_assoc]

/-- `r` takes no character to one that `s` covers: it ends before `s` begins or begins after `s`
ends, or `s` covers every other code point and `r` takes all of its own to those between. -/
def isClearOf (r s : CaseRun) : Bool :=
  (r.shift r.last).blt s.first || s.last.blt (r.shift r.first) ||
    s.stride == 2 && (r.stride == 2 || r.first == r.last) && Nat.blt 0 (r.shift r.first) &&
      (r.shift r.first + s.first) % 2 == 1

theorem covers_shift_of_isClearOf {r s : CaseRun} (h : r.isClearOf s = true) {n : Nat}
    (hn : r.covers n = true) : s.covers (r.shift n) = false := by
  obtain ⟨hFirst, hLast, hStride⟩ := covers_iff.mp hn
  simp only [isClearOf, shift, Int.ofNat_eq_natCast, Bool.or_eq_true, Bool.and_eq_true,
    Nat.blt_eq, beq_iff_eq] at h
  rw [← Bool.not_eq_true, covers_iff, shift, Int.ofNat_eq_natCast]
  rintro ⟨hge, hle, hMod⟩
  -- the runs do not overlap, or they have nothing in common for their strides
  rcases h with (h | h) | ⟨⟨⟨hs, hr⟩, hPos⟩, hOdd⟩
  · omega
  · omega
  · -- both runs go on in steps of two, and start at code points of different parity
    rw [hs] at hMod
    rcases hr with hr | hr
    · rw [hr] at hStride
      omega
    · omega

/-- The capital I with a dot, which is not in the table. -/
def dottedI : CaseRun :=
  ⟨0x130, 0x130, 1, 0⟩

/-- The letters in lower case are none of those that the table covers, and not the dotted capital I
either. -/
theorem isClearOf_of_mem {r s : CaseRun} (hr : r ∈ lowerRuns) (hs : s ∈ dottedI :: lowerRuns) :
    r.isClearOf s = true := by
  have hTable : (lowerRuns.all fun r => (dottedI :: lowerRuns).all r.isClearOf) = true := by
    decide +kernel
  exact List.all_eq_true.mp (List.all_eq_true.mp hTable r hr) s hs

/-- A character is covered neither before nor after it is mapped, or only before. -/
theorem covers_mapChar {c : Char} (hc : c ≠ 'İ') :
    ∀ s ∈ dottedI :: lowerRuns, s.covers (mapChar lowerRuns c).toNat = false := by
  intro s hs
  unfold mapChar
  cases hFind : lowerRuns.find? (·.covers c.toNat) with
  | none =>
    -- a letter that is no capital stays as it is
    have hNone : ∀ r ∈ lowerRuns, r.covers c.toNat = false := by
      simpa using List.find?_eq_none.mp hFind
    rcases List.mem_cons.mp hs with rfl | hs
    · rw [← Bool.not_eq_true, covers_iff]
      rintro ⟨hge, hle, -⟩
      have hCode : c.toNat = 'İ'.toNat := Nat.le_antisymm hle hge
      exact hc (Char.toNat_inj.mp hCode)
    · exact hNone s hs
  | some r =>
    -- a capital is shifted, and the shifted code point is of no run
    have hr : r ∈ lowerRuns := List.mem_of_find?_eq_some hFind
    have hCovers : r.covers c.toNat = true := by simpa using List.find?_some hFind
    dsimp only
    rw [Char.toNat_ofNat]
    split
    · exact covers_shift_of_isClearOf (isClearOf_of_mem hr hs) hCovers
    · -- no letter has the code point 0
      have hZero : ∀ s ∈ dottedI :: lowerRuns, s.covers 0 = false := by decide +kernel
      exact hZero s hs

theorem mapChar_of_not_covers {c : Char} (h : ∀ r ∈ lowerRuns, r.covers c.toNat = false) :
    mapChar lowerRuns c = c := by
  have hFind : lowerRuns.find? (·.covers c.toNat) = none := by
    simpa using h
  rw [mapChar, hFind]

/-- On the letters A to Z the table does what folding them does. -/
theorem mapChar_of_isUpper {c : Char} (hc : c.isUpper = true) :
    mapChar lowerRuns c = c.toLower := by
  have hCapitals : ∀ n ∈ List.range' 65 26,
      mapChar lowerRuns (Char.ofNat n) = (Char.ofNat n).toLower := by decide
  obtain ⟨hge, hle⟩ := isUpper_iff.mp hc
  have hLower := hCapitals c.toNat (List.mem_range'_1.mpr ⟨hge, by omega⟩)
  rwa [Char.ofNat_toNat] at hLower

end Unicode.CaseRun

namespace Text

open Unicode (lowerRuns CaseRun.mapChar CaseRun.covers_mapChar CaseRun.mapChar_of_not_covers)

/-! ## Single characters -/

/-- The character is its own lower-case form, wherever it stands. -/
def IsLowered (c : Char) : Prop :=
  lowerChar [] c [] = [c]

instance : DecidablePred IsLowered := fun c =>
  inferInstanceAs (Decidable (lowerChar [] c [] = [c]))

theorem lowerChar_of_ne {c : Char} (hSigma : c ≠ 'Σ') (hDotted : c ≠ 'İ')
    (before after : List Char) : lowerChar before c after = [CaseRun.mapChar lowerRuns c] := by
  rw [lowerChar, if_neg hSigma, if_neg hDotted]

theorem mem_lowerChar_sigma {before after : List Char} {d : Char}
    (hd : d ∈ lowerChar before 'Σ' after) : d = 'ς' ∨ d = 'σ' := by
  rw [lowerChar, if_pos rfl] at hd
  split at hd
  · exact .inl (List.mem_singleton.mp hd)
  · exact .inr (List.mem_singleton.mp hd)

/-- Lower case leaves neither one of A to Z nor another capital. -/
theorem isLowered_of_mem_lowerChar {before after : List Char} {c d : Char}
    (hd : d ∈ lowerChar before c after) : d.isUpper = false ∧ IsLowered d := by
  -- the two letters that have a lower case by rules of their own
  by_cases hSigma : c = 'Σ'
  · subst hSigma
    rcases mem_lowerChar_sigma hd with rfl | rfl
    · decide
    · decide
  by_cases hDotted : c = 'İ'
  · subst hDotted
    rcases List.mem_pair.mp hd with rfl | rfl
    · decide
    · decide
  rw [lowerChar_of_ne hSigma hDotted, List.mem_singleton] at hd
  subst hd
  have hClear := CaseRun.covers_mapChar hDotted
  generalize CaseRun.mapChar lowerRuns c = d at hClear
  have hRun : ∀ r ∈ lowerRuns, r.covers d.toNat = false := fun r hr =>
    hClear r (List.mem_cons_of_mem _ hr)
  constructor
  · -- A to Z are the first run of the table
    have hFirst := hRun ⟨0x41, 0x5A, 1, 32⟩ List.mem_cons_self
    rw [← Bool.not_eq_true, Unicode.CaseRun.covers_iff] at hFirst
    rw [← Bool.not_eq_true, Unicode.CaseRun.isUpper_iff]
    rintro ⟨hge, hle⟩
    exact hFirst ⟨hge, hle, Nat.mod_one _⟩
  · -- and the tables have no further step to make
    have hNotSigma : d ≠ 'Σ' := by
      rintro rfl
      exact absurd hRun (by decide +kernel)
    have hNotDotted : d ≠ 'İ' := by
      rintro rfl
      exact absurd (hClear _ List.mem_cons_self) (by decide)
    rw [IsLowered, lowerChar_of_ne hNotSigma hNotDotted, CaseRun.mapChar_of_not_covers hRun]

/-- The two ways agree on a character if it is one of A to Z or has no other lower-case form. -/
theorem lowerChar_append_eq_cons_iff {before after xs ys : List Char} {c : Char} :
    lowerChar before c after ++ xs = c.toLower :: ys ↔
      (c.isUpper = true ∨ IsLowered c) ∧ xs = ys := by
  -- the two letters with rules of their own have no lower case in ASCII
  by_cases hSigma : c = 'Σ'
  · subst hSigma
    have hNot : ¬ ('Σ'.isUpper = true ∨ IsLowered 'Σ') := by decide
    refine iff_of_false (fun h => ?_) fun h => hNot h.1
    have hMem : 'Σ' ∈ lowerChar before 'Σ' after := by
      rw [lowerChar, if_pos rfl] at h ⊢
      split at h <;> exact absurd (List.cons_eq_cons.mp h).1 (by decide)
    rcases mem_lowerChar_sigma hMem with h | h
    · exact absurd h (by decide)
    · exact absurd h (by decide)
  by_cases hDotted : c = 'İ'
  · subst hDotted
    have hNot : ¬ ('İ'.isUpper = true ∨ IsLowered 'İ') := by decide
    exact iff_of_false (fun h => absurd (List.cons_eq_cons.mp h).1 (by decide)) fun h => hNot h.1
  rw [lowerChar_of_ne hSigma hDotted, IsLowered, lowerChar_of_ne hSigma hDotted,
    List.singleton_append, List.cons_eq_cons]
  refine and_congr_left fun _ => ?_
  by_cases hUpper : c.isUpper = true
  · simp [hUpper, Unicode.CaseRun.mapChar_of_isUpper hUpper]
  · simp [hUpper, Char.toLower_eq_of_not_isUpper hUpper]

/-! ## Texts -/

/-- The text with the letters A to Z folded. -/
def foldAscii (s : String) : String :=
  String.ofList (s.toList.map Char.toLower)

/-- There are no capitals but A to Z in the text. -/
def HasPlainCase (s : String) : Prop :=
  ∀ c ∈ s.toList, c.isUpper = true ∨ IsLowered c

-- the instance for all characters would go through every one of them, not through those of the text
instance : DecidablePred HasPlainCase := fun s =>
  show Decidable (∀ c ∈ s.toList, c.isUpper = true ∨ IsLowered c) from List.decidableBAll _ _

theorem lowerChars_eq_map_iff {before cs : List Char} :
    lowerChars before cs = cs.map Char.toLower ↔ ∀ c ∈ cs, c.isUpper = true ∨ IsLowered c := by
  induction cs generalizing before with
  | nil => simp [lowerChars]
  | cons c cs ih =>
    rw [lowerChars, List.map_cons, lowerChar_append_eq_cons_iff, ih, List.forall_mem_cons]

/-- Lower case folds A to Z and does no more, exactly if there are no other capitals. -/
theorem lowercase_eq_foldAscii_iff {s : String} : lowercase s = foldAscii s ↔ HasPlainCase s := by
  rw [lowercase, foldAscii, String.ofList_inj, lowerChars_eq_map_iff, HasPlainCase]

theorem isLowered_of_mem_lowerChars {before cs : List Char} {d : Char}
    (hd : d ∈ lowerChars before cs) : d.isUpper = false ∧ IsLowered d := by
  induction cs generalizing before with
  | nil => cases hd
  | cons c cs ih =>
    rcases List.mem_append.mp hd with hd | hd
    · exact isLowered_of_mem_lowerChar hd
    · exact ih hd

theorem isLowered_of_mem_lowercase {s : String} {d : Char} (hd : d ∈ (lowercase s).toList) :
    d.isUpper = false ∧ IsLowered d := by
  rw [lowercase, String.toList_ofList] at hd
  exact isLowered_of_mem_lowerChars hd

/-- A text in lower case has no capitals at all. -/
theorem hasPlainCase_lowercase (s : String) : HasPlainCase (lowercase s) :=
  fun _ hd => .inr (isLowered_of_mem_lowercase hd).2

/-- There is nothing to fold in a text in lower case. -/
theorem foldAscii_lowercase (s : String) : foldAscii (lowercase s) = lowercase s := by
  have hFixed : (lowercase s).toList.map Char.toLower = (lowercase s).toList := by
    refine (List.map_congr_left fun d hd => ?_).trans (List.map_id _)
    exact Char.toLower_eq_of_not_isUpper (Bool.eq_false_iff.mp (isLowered_of_mem_lowercase hd).1)
  rw [foldAscii, hFixed, String.ofList_toList]

/-- A text in lower case is its own lower case. -/
theorem lowercase_lowercase (s : String) : lowercase (lowercase s) = lowercase s := by
  rw [lowercase_eq_foldAscii_iff.mpr (hasPlainCase_lowercase s), foldAscii_lowercase]

/-- Folding A to Z keeps the capitals of other scripts, and lower case leaves none. -/
theorem hasPlainCase_of_lowercase_eq {s t : String} (h : lowercase s = foldAscii t) :
    HasPlainCase t := by
  intro c hc
  by_cases hUpper : c.isUpper = true
  · exact .inl hUpper
  · refine .inr (isLowered_of_mem_lowercase (s := s) ?_).2
    rw [h, foldAscii, String.toList_ofList, ← Char.toLower_eq_of_not_isUpper hUpper]
    exact List.mem_map_of_mem hc

/-- A text in lower case is the same as another one, up to A to Z, if the other one has no further
capitals and the same lower case. -/
theorem sameAscii_lowercase_iff {s t : String} :
    sameAscii (lowercase s) t = true ↔ HasPlainCase t ∧ lowercase s = lowercase t := by
  have hFold : sameAscii (lowercase s) t = true ↔ lowercase s = foldAscii t := by
    rw [sameAscii, beq_iff_eq, ← String.ofList_inj]
    exact Eq.congr_left (foldAscii_lowercase s)
  rw [hFold]
  constructor
  · intro h
    have hPlain := hasPlainCase_of_lowercase_eq h
    exact ⟨hPlain, h.trans (lowercase_eq_foldAscii_iff.mpr hPlain).symm⟩
  · rintro ⟨hPlain, h⟩
    exact h.trans (lowercase_eq_foldAscii_iff.mpr hPlain)

end Text

end StreamVerdict
