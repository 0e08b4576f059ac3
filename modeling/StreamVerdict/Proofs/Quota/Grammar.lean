import StreamVerdict.Proofs.Text.Numeral
import StreamVerdict.Quota.Text

/-!
# The grammar of quotas

What can be written for a quota is a small grammar: a number, a range, a bound
above or below, or one of two words. It is given here as a relation between
forms and texts, without regard to how a text is read. The reader decides by
the first character and by the first hyphen, and neither can stand inside a
number or a word, so it finds the form of every text that has one.

A form says with natural numbers what is meant, so that nothing can overflow.
The quota that is read has the same bounds in words of 64 bits.

Main definitions:

* `Quota.Form`, `Quota.Form.WrittenAs` — the forms and their texts;
* `Quota.Form.Admits` — the counts that a form means.

Main results:

* `Quota.parse_of_writtenAs` — what becomes of a text of some form;
* `Quota.parse_of_not_writtenAs` — what becomes of any other text;
* `Quota.bounds_of_parse` — the bounds of a quota that was read;
* `Quota.parse_accepts_grammar` — both, with what the quotas mean.
-/

namespace StreamVerdict.Quota

/-! ## Forms -/

/-- The forms of quotas, with the numbers that are written in them. -/
inductive Form where
  | optional
  | any
  | above (n : Nat)
  | below (n : Nat)
  | between (m n : Nat)
  | exactly (n : Nat)

/-- A text is a number of a quota: a numeral of a number that fits into a word, with blanks
around it. -/
def IsBound (cs : List Char) (n : Nat) : Prop :=
  ∃ before numeral after, cs = before ++ numeral ++ after ∧
    (∀ c ∈ before ++ after, Text.isBlank c = true) ∧ Text.IsNumeral numeral n ∧ n ≤ Text.maxWord

namespace Form

/-- The texts of each form, without blanks at their ends. -/
inductive WrittenAs : Form → List Char → Prop where
  | optional {cs : List Char} (h : cs.map Char.toLower = "optional".toList) : WrittenAs optional cs
  | any {cs : List Char} (h : cs.map Char.toLower = "any".toList) : WrittenAs any cs
  | above {cs : List Char} {n : Nat} (h : IsBound cs n) : WrittenAs (above n) ('>' :: cs)
  | below {cs : List Char} {n : Nat} (h : IsBound cs n) : WrittenAs (below n) ('<' :: cs)
  | between {cs ds : List Char} {m n : Nat} (hm : IsBound cs m) (hn : IsBound ds n) :
      WrittenAs (between m n) (cs ++ '-' :: ds)
  | exactly {cs : List Char} {n : Nat} (h : IsBound cs n) : WrittenAs (exactly n) cs

/-- A text is written in the form. Blanks at its ends do not matter. -/
def IsFormOf (form : Form) (text : String) : Prop :=
  form.WrittenAs (Text.trimChars text.toList)

/-- The counts that are meant. -/
def Admits (n : Nat) : Form → Prop
  | optional => n ≤ 1
  | any => True
  | above a => a < n
  | below a => n < a
  | between a b => a ≤ n ∧ n ≤ b
  | exactly a => n = a

/-- The lower bound. -/
def least : Form → Nat
  | optional | any | below _ => 0
  | above n => n + 1
  | between m _ => m
  | exactly n => n

/-- The upper bound, if there is one. -/
def greatest? : Form → Option Nat
  | optional => some 1
  | any | above _ => none
  | below n => some (n - 1)
  | between _ n => some n
  | exactly n => some n

/-- The form means some counts, and its bounds fit into words. -/
def IsProper : Form → Prop
  | above n => n < Text.maxWord
  | below n => 0 < n
  | between m n => m ≤ n
  | optional | any | exactly _ => True

/-- The lower bound of the form lies above the upper one, so that it means no count. -/
def IsReversed : Form → Prop
  | below n => n = 0
  | between m n => n < m
  | optional | any | above _ | exactly _ => False

/-- What becomes of a text of a form. -/
def quota (text : String) : Form → Except Error Quota
  | optional => .ok .optional
  | any => .ok .any
  | above n =>
    if n < Text.maxWord then .ok (.atLeast (.ofNat (n + 1)))
    else .error (.invalidCount text "lower bound overflows")
  | below n => if 0 < n then .ok ⟨0, some (.ofNat (n - 1))⟩ else .error (.countRange 0 (-1))
  | between m n =>
    if m ≤ n then .ok ⟨.ofNat m, some (.ofNat n)⟩ else .error (.countRange (.ofNat m) n)
  | exactly n => .ok (.exactly (.ofNat n))

end Form

/-! ## Numbers -/

theorem toNat_ofNat {n : Nat} (h : n ≤ Text.maxWord) : (UInt64.ofNat n).toNat = n := by
  have hlt : n < UInt64.size := by
    simp only [Text.maxWord, UInt64.size] at h ⊢
    omega
  exact UInt64.toNat_ofNat_of_lt' hlt

/-- A number of a quota is what is left of it without the blanks around it. -/
theorem isBound_iff {cs : List Char} {n : Nat} :
    IsBound cs n ↔ Text.IsNumeral (Text.trimChars cs) n ∧ n ≤ Text.maxWord := by
  constructor
  · -- no character of the numeral is trimmed away
    rintro ⟨before, numeral, after, rfl, hBlank, hNumeral, hn⟩
    obtain ⟨hChars, digit, hMem, -⟩ := hNumeral.characters
    have hKept : ∀ c ∈ numeral, Text.isBlank c = false := by
      intro c hc
      rcases hChars c hc with rfl | hDigit
      · decide
      · exact Text.isBlank_of_isDigit hDigit
    rw [Text.trimChars_between hBlank (List.ne_nil_of_mem hMem) hKept]
    exact ⟨hNumeral, hn⟩
  · -- the blanks that were trimmed are the ones around it
    rintro ⟨hNumeral, hn⟩
    obtain ⟨before, after, hcs, hBlank⟩ := Text.exists_trimChars cs
    exact ⟨before, Text.trimChars cs, after, hcs, hBlank, hNumeral, hn⟩

/-- A number of a quota has at least one digit in it, and no other signs than a plus. -/
theorem IsBound.characters {cs : List Char} {n : Nat} (h : IsBound cs n) :
    (∀ c ∈ cs, c ∉ ['<', '>', '-']) ∧ ∃ c ∈ cs, c.isDigit = true := by
  obtain ⟨before, numeral, after, rfl, hBlank, hNumeral, -⟩ := h
  obtain ⟨hChars, digit, hMem, hDigit⟩ := hNumeral.characters
  refine ⟨fun c hc hSign => ?_, digit, by simp [hMem], hDigit⟩
  -- the three signs are no blanks, no digits and no plus signs
  have hNone : ['<', '>', '-'].all
      (fun c => !Text.isBlank c && c != '+' && !c.isDigit) = true := by decide
  obtain ⟨⟨hNotBlank, hNotPlus⟩, hNotDigit⟩ :
      (Text.isBlank c = false ∧ c ≠ '+') ∧ c.isDigit = false := by
    simpa using List.all_eq_true.mp hNone c hSign
  rcases List.mem_append.mp hc with hc | hc
  · rcases List.mem_append.mp hc with hc | hc
    · simp [hBlank c (List.mem_append_left _ hc)] at hNotBlank
    · rcases hChars c hc with hPlus | hDigit
      · exact hNotPlus hPlus
      · simp [hDigit] at hNotDigit
  · simp [hBlank c (List.mem_append_right _ hc)] at hNotBlank

theorem IsBound.le_maxWord {cs : List Char} {n : Nat} (h : IsBound cs n) : n ≤ Text.maxWord :=
  (isBound_iff.mp h).2

theorem Form.WrittenAs.le_maxWord {body : List Char} {m n : Nat}
    (h : (Form.between m n).WrittenAs body) : m ≤ Text.maxWord := by
  cases h with
  | between hm hn => exact hm.le_maxWord

/-- A text that begins with a number of a quota begins with none of the other signs. -/
theorem IsBound.append_ne_cons {cs : List Char} {n : Nat} (h : IsBound cs n) (more : List Char)
    {sign : Char} (hSign : sign ∈ ['<', '>', '-']) (rest : List Char) :
    cs ++ more ≠ sign :: rest := by
  obtain ⟨hSigns, c, hc, -⟩ := h.characters
  obtain ⟨first, others, rfl⟩ := List.exists_cons_of_ne_nil (List.ne_nil_of_mem hc)
  intro hEq
  have hFirst : first = sign := (List.cons.inj hEq).1
  exact hSigns first List.mem_cons_self (hFirst ▸ hSign)

/-- A number of a quota is read. -/
theorem readBound_of_isBound {cs : List Char} {n : Nat} (h : IsBound cs n) (text : String) :
    readBound text cs = .ok (.ofNat n) := by
  unfold readBound
  dsimp only
  rw [Text.readNatural_eq_ok_iff.mpr (isBound_iff.mp h)]

/-- What is no number of a quota is reported with the text of the quota. -/
theorem readBound_of_not_isBound {cs : List Char} (h : ¬ ∃ n, IsBound cs n) (text : String) :
    ∃ reason, readBound text cs = .error (.invalidCount text reason) := by
  unfold readBound
  dsimp only
  cases hRead : Text.readNatural Text.maxWord (Text.trimChars cs) with
  | ok n => exact absurd ⟨n, isBound_iff.mpr (Text.readNatural_eq_ok_iff.mp hRead)⟩ h
  | error fault => exact ⟨_, rfl⟩

/-! ## Where a text is taken apart -/

theorem writtenAs_optional_iff {body : List Char} :
    Form.optional.WrittenAs body ↔ body.map Char.toLower = "optional".toList := by
  refine ⟨fun h => ?_, .optional⟩
  cases h with
  | optional h => exact h

theorem writtenAs_any_iff {body : List Char} :
    Form.any.WrittenAs body ↔ body.map Char.toLower = "any".toList := by
  refine ⟨fun h => ?_, .any⟩
  cases h with
  | any h => exact h

theorem sameAscii_optional_iff {body : List Char} :
    Text.sameAscii (String.ofList body) "optional" = true ↔ Form.optional.WrittenAs body := by
  rw [Text.sameAscii, String.toList_ofList, beq_iff_eq, writtenAs_optional_iff]
  rfl

theorem sameAscii_any_iff {body : List Char} :
    Text.sameAscii (String.ofList body) "any" = true ↔ Form.any.WrittenAs body := by
  rw [Text.sameAscii, String.toList_ofList, beq_iff_eq, writtenAs_any_iff]
  rfl

/-- A text with a digit in it is no word. -/
theorem not_writtenAs_word {body : List Char} (h : ∃ c ∈ body, c.isDigit = true) :
    ¬ Form.optional.WrittenAs body ∧ ¬ Form.any.WrittenAs body := by
  obtain ⟨c, hc, hDigit⟩ := h
  -- a digit has no other case
  have hLower : c.toLower = c := by
    have hCode : 48 ≤ c.toNat ∧ c.toNat ≤ 57 := Char.isDigit_iff_toNat.mp hDigit
    refine dif_neg fun hUpper => ?_
    have hge : 65 ≤ c.toNat := UInt32.le_iff_toNat_le.mp hUpper.1
    omega
  have hWord {word : List Char} (hNone : word.all (!·.isDigit) = true) :
      body.map Char.toLower ≠ word := by
    rintro rfl
    have := List.all_eq_true.mp hNone c.toLower (List.mem_map_of_mem hc)
    simp [hLower, hDigit] at this
  rw [writtenAs_optional_iff, writtenAs_any_iff]
  exact ⟨hWord (by decide), hWord (by decide)⟩

/-- A range is taken apart at its first hyphen. -/
theorem split_hyphen {lo : List Char} (h : '-' ∉ lo) (hi : List Char) :
    (lo ++ '-' :: hi).takeWhile (· ≠ '-') = lo ∧
      ((lo ++ '-' :: hi).dropWhile (· ≠ '-')).drop 1 = hi := by
  have hRun : ∀ c ∈ lo, decide (c ≠ '-') = true := by
    intro c hc
    exact decide_eq_true (ne_of_mem_of_not_mem hc h)
  have hStop : ∀ c ∈ ('-' :: hi).head?, decide (c ≠ '-') = false := by simp
  rw [Text.takeWhile_run hRun hStop, Text.dropWhile_run hRun hStop]
  exact ⟨rfl, rfl⟩

/-! ## Bounds -/

theorem atLeast_succ_eq {n : Nat} (hn : n ≤ Text.maxWord) (text : String) :
    (if (UInt64.ofNat n).toNat = Text.maxWord then
        .error (.invalidCount text "lower bound overflows")
      else .ok (atLeast (UInt64.ofNat n + 1))) = (Form.above n).quota text := by
  rw [toNat_ofNat hn, Form.quota, UInt64.ofNat_add]
  by_cases hMax : n = Text.maxWord
  · rw [if_pos hMax, if_neg (by omega)]
  · rw [if_neg hMax, if_pos (by omega)]
    rfl

theorem pred_eq {n : Nat} (hn : n ≤ Text.maxWord) (text : String) :
    (if UInt64.ofNat n = 0 then .error (.countRange 0 (-1))
      else .ok ⟨0, some (UInt64.ofNat n - 1)⟩) = (Form.below n).quota text := by
  have hZero : UInt64.ofNat n = 0 ↔ n = 0 := by
    rw [← UInt64.toNat_inj, toNat_ofNat hn]
    rfl
  rw [Form.quota]
  by_cases hn0 : n = 0
  · rw [if_pos (hZero.mpr hn0), if_neg (by omega)]
  · rw [if_neg (hn0 ∘ hZero.mp), if_pos (by omega), UInt64.ofNat_sub (by omega)]
    rfl

theorem range_eq {m n : Nat} (hm : m ≤ Text.maxWord) (hn : n ≤ Text.maxWord) (text : String) :
    range (.ofNat m) (.ofNat n) = (Form.between m n).quota text := by
  have hlt : UInt64.ofNat n < UInt64.ofNat m ↔ n < m := by
    rw [UInt64.lt_iff_toNat_lt, toNat_ofNat hm, toNat_ofNat hn]
  rw [range, Form.quota, toNat_ofNat hn]
  by_cases hle : m ≤ n
  · rw [if_neg (Nat.not_lt.mpr hle ∘ hlt.mp), if_pos hle]
  · rw [if_pos (hlt.mpr (Nat.not_le.mp hle)), if_neg hle]

/-! ## Reading -/

/-- A text of some form is read as that form says. -/
theorem parse_of_writtenAs {text : String} {form : Form}
    (h : form.WrittenAs (Text.trimChars text.toList)) : parse text = form.quota text := by
  unfold parse
  dsimp only
  generalize Text.trimChars text.toList = body at h
  -- in the forms with numbers there is a digit, so the text is no word
  have hNoWord (hDigit : ∃ c ∈ body, c.isDigit = true) :
      ¬ Text.sameAscii (String.ofList body) "optional" = true ∧
        ¬ Text.sameAscii (String.ofList body) "any" = true := by
    rw [sameAscii_optional_iff, sameAscii_any_iff]
    exact not_writtenAs_word hDigit
  cases h with
  | optional h => exact if_pos (sameAscii_optional_iff.mpr (.optional h))
  | any h =>
    have hOther : ¬ Text.sameAscii (String.ofList body) "optional" = true := by
      rw [Text.sameAscii, String.toList_ofList, h]
      decide
    rw [if_neg hOther]
    exact if_pos (sameAscii_any_iff.mpr (.any h))
  | @above cs n h =>
    obtain ⟨-, c, hc, hDigit⟩ := h.characters
    obtain ⟨hOptional, hAny⟩ := hNoWord ⟨c, List.mem_cons_of_mem _ hc, hDigit⟩
    rw [if_neg hOptional, if_neg hAny]
    simp only [readBound_of_isBound h]
    exact atLeast_succ_eq h.le_maxWord text
  | @below cs n h =>
    obtain ⟨-, c, hc, hDigit⟩ := h.characters
    obtain ⟨hOptional, hAny⟩ := hNoWord ⟨c, List.mem_cons_of_mem _ hc, hDigit⟩
    rw [if_neg hOptional, if_neg hAny]
    simp only [readBound_of_isBound h]
    exact pred_eq h.le_maxWord text
  | @between lo hi m n hm hn =>
    obtain ⟨hSigns, c, hc, hDigit⟩ := hm.characters
    obtain ⟨hOptional, hAny⟩ := hNoWord ⟨c, List.mem_append_left _ hc, hDigit⟩
    rw [if_neg hOptional, if_neg hAny]
    -- a numeral does not begin with a sign, so the hyphen decides
    split
    next hEq => exact absurd hEq (hm.append_ne_cons _ (by decide) _)
    next hEq => exact absurd hEq (hm.append_ne_cons _ (by decide) _)
    · obtain ⟨hlo, hhi⟩ := split_hyphen (fun hMem => hSigns '-' hMem (by decide)) hi
      rw [if_pos (by simp), hlo, hhi, readBound_of_isBound hm, readBound_of_isBound hn]
      exact range_eq hm.le_maxWord hn.le_maxWord text
  | @exactly cs n h =>
    obtain ⟨hSigns, c, hc, hDigit⟩ := h.characters
    obtain ⟨hOptional, hAny⟩ := hNoWord ⟨c, hc, hDigit⟩
    rw [if_neg hOptional, if_neg hAny]
    have hHead {sign : Char} (hSign : sign ∈ ['<', '>', '-']) (rest : List Char) :
        body ≠ sign :: rest := by
      simpa using h.append_ne_cons [] hSign rest
    split
    · exact absurd rfl (hHead (by decide) _)
    · exact absurd rfl (hHead (by decide) _)
    · rw [if_neg fun hMem => hSigns '-' hMem (by decide), readBound_of_isBound h]
      rfl

/-- What is no number of a quota ends the reading. -/
theorem exists_bind_readBound {cs : List Char} (h : ¬ ∃ n, IsBound cs n) (text : String)
    (next : UInt64 → Except Error Quota) :
    ∃ reason, (readBound text cs >>= next) = .error (.invalidCount text reason) := by
  obtain ⟨reason, hRead⟩ := readBound_of_not_isBound h text
  exact ⟨reason, by rw [hRead]; rfl⟩

/-- A text of no form is no quota. -/
theorem parse_of_not_writtenAs {text : String}
    (h : ∀ form : Form, ¬ form.WrittenAs (Text.trimChars text.toList)) :
    ∃ reason, parse text = .error (.invalidCount text reason) := by
  unfold parse
  dsimp only
  generalize Text.trimChars text.toList = body at h
  rw [if_neg (h _ ∘ sameAscii_optional_iff.mp), if_neg (h _ ∘ sameAscii_any_iff.mp)]
  -- each way of reading would have found the form that it belongs to
  split
  · exact exists_bind_readBound (fun ⟨n, hn⟩ => h _ (.above hn)) text _
  · exact exists_bind_readBound (fun ⟨n, hn⟩ => h _ (.below hn)) text _
  · split
    next hHyphen =>
      obtain ⟨lo, hi, rfl, hlo⟩ := List.eq_append_cons_of_mem hHyphen
      obtain ⟨hFirst, hSecond⟩ := split_hyphen hlo hi
      rw [hFirst, hSecond]
      by_cases hm : ∃ m, IsBound lo m
      · obtain ⟨m, hm⟩ := hm
        rw [readBound_of_isBound hm]
        exact exists_bind_readBound (fun ⟨n, hn⟩ => h _ (.between hm hn)) text _
      · exact exists_bind_readBound hm text _
    · exact exists_bind_readBound (fun ⟨n, hn⟩ => h _ (.exactly hn)) text _

/-! ## Meaning -/

/-- The bounds of a form decide which counts it means. -/
theorem Form.admits_iff {form : Form} (h : form.IsProper) (n : Nat) :
    form.Admits n ↔ form.least ≤ n ∧ ∀ max ∈ form.greatest?, n ≤ max := by
  cases form with
  | optional | any | between => simp [Admits, least, greatest?]
  | above a => exact ⟨fun h => ⟨h, nofun⟩, And.left⟩
  | below a =>
    have hPos : 0 < a := h
    simp [Admits, least, greatest?, Nat.lt_iff_le_pred hPos]
  | exactly a =>
    simp only [Admits, least, greatest?, Option.mem_def, Option.some.injEq, forall_eq']
    omega

/-- A form means some count, if it is proper. -/
theorem Form.least_le_greatest {form : Form} (h : form.IsProper) :
    ∀ max ∈ form.greatest?, form.least ≤ max := by
  cases form with
  | between m n => simpa [least, greatest?, IsProper] using h
  | _ => simp [least, greatest?]

theorem Form.isProper_of_quota {form : Form} {text : String} {q : Quota}
    (h : form.quota text = .ok q) : form.IsProper := by
  cases form with
  | optional | any | exactly => exact trivial
  | above | below | between =>
    by_contra hNot
    simp only [IsProper] at hNot
    simp [quota, hNot] at h

/-- A proper form has a quota with its bounds. -/
theorem Form.exists_quota {form : Form} {body : List Char} (hBody : form.WrittenAs body)
    (h : form.IsProper) (text : String) :
    ∃ q, form.quota text = .ok q ∧ q.min.toNat = form.least ∧
      q.max.map (·.toNat) = form.greatest? := by
  cases hBody with
  | optional | any => exact ⟨_, rfl, rfl, rfl⟩
  | @above cs n hn =>
    have hlt : n < Text.maxWord := h
    exact ⟨_, if_pos h, toNat_ofNat (by omega), rfl⟩
  | @below cs n hn =>
    have hle := hn.le_maxWord
    exact ⟨_, if_pos h, rfl, congrArg some (toNat_ofNat (by omega))⟩
  | between hm hn =>
    exact ⟨_, if_pos h, toNat_ofNat hm.le_maxWord, congrArg some (toNat_ofNat hn.le_maxWord)⟩
  | exactly hn =>
    exact ⟨_, rfl, toNat_ofNat hn.le_maxWord, congrArg some (toNat_ofNat hn.le_maxWord)⟩

/-- A quota with the bounds of a form contains the counts that the form means. -/
theorem contains_iff_admits {q : Quota} {form : Form} (h : form.IsProper)
    (hMin : q.min.toNat = form.least) (hMax : q.max.map (·.toNat) = form.greatest?) (n : Nat) :
    q.contains n = true ↔ form.Admits n := by
  rw [contains_iff, form.admits_iff h, hMin, ← hMax, ← Bool.not_eq_true, exceededBy_iff]
  simp

/-- A count exceeds a quota exactly if it is greater than every count in the quota. -/
theorem exceededBy_iff_forall_contains {q : Quota} (hq : ∀ max ∈ q.max, q.min ≤ max)
    (n : UInt64) :
    q.exceededBy n.toNat = true ↔ ∀ m : UInt64, q.contains m.toNat = true → m < n := by
  constructor
  · -- a count beyond the maximum is beyond every admitted one
    intro hn m hm
    obtain ⟨max, hMax, hlt⟩ := exceededBy_iff.mp hn
    have hle : ¬ max.toNat < m.toNat := fun hgt =>
      Bool.eq_false_iff.mp (contains_iff.mp hm).2 (exceededBy_iff.mpr ⟨max, hMax, hgt⟩)
    exact UInt64.lt_iff_toNat_lt.mpr (by omega)
  · -- were it not beyond the maximum, it would not be beyond some admitted count
    intro h
    by_contra hn
    rw [Bool.not_eq_true] at hn
    by_cases hle : q.min ≤ n
    · -- the count itself is in the quota
      exact UInt64.lt_irrefl n (h n (contains_iff.mpr ⟨UInt64.le_iff_toNat_le.mp hle, hn⟩))
    · -- the count lies below the minimum, which is in the quota
      have hMin : q.exceededBy q.min.toNat = false := by
        rw [← Bool.not_eq_true, exceededBy_iff]
        rintro ⟨max, hMax, hlt⟩
        have := UInt64.le_iff_toNat_le.mp (hq max hMax)
        omega
      have hlt := h q.min (contains_iff.mpr ⟨Nat.le_refl _, hMin⟩)
      exact hle (UInt64.le_of_lt hlt)

/-! ## Texts that are read -/

section Parse

variable {text : String} {q : Quota} {form : Form}

/-- What is read is written in some form, which is proper. -/
theorem exists_form_of_parse (h : parse text = .ok q) :
    ∃ form : Form, form.WrittenAs (Text.trimChars text.toList) ∧ form.IsProper := by
  by_cases hForm : ∃ form : Form, form.WrittenAs (Text.trimChars text.toList)
  · obtain ⟨form, hBody⟩ := hForm
    rw [parse_of_writtenAs hBody] at h
    exact ⟨form, hBody, form.isProper_of_quota h⟩
  · obtain ⟨reason, hErr⟩ := parse_of_not_writtenAs (not_exists.mp hForm)
    rw [h] at hErr
    cases hErr

/-- What is read has the bounds of the form that it is written in. -/
theorem bounds_of_parse (h : parse text = .ok q)
    (hBody : form.WrittenAs (Text.trimChars text.toList)) :
    form.IsProper ∧ q.min.toNat = form.least ∧ q.max.map (·.toNat) = form.greatest? := by
  rw [parse_of_writtenAs hBody] at h
  have hProper := form.isProper_of_quota h
  obtain ⟨q', hq', hBounds⟩ := form.exists_quota hBody hProper text
  obtain rfl : q' = q := Except.ok.inj (hq'.symm.trans h)
  exact ⟨hProper, hBounds⟩

/-- The minimum of what is read is not above the maximum. -/
theorem min_le_max_of_parse (h : parse text = .ok q) : ∀ max ∈ q.max, q.min ≤ max := by
  intro max hMem
  obtain ⟨form, hBody, hProper⟩ := exists_form_of_parse h
  obtain ⟨-, hMin, hMax⟩ := bounds_of_parse h hBody
  have hle := form.least_le_greatest hProper max.toNat (by simp [← hMax, Option.mem_def.mp hMem])
  rw [UInt64.le_iff_toNat_le, hMin]
  exact hle

end Parse

/--
**A quota is read exactly if it is written in one of the forms.** For every
text:

1. it is read if and only if it is written in a proper form: a word in any case
   of its letters, one number, a number to stay above that has a successor, a
   number other than zero to stay below, or two numbers in order;
2. then the bounds of the quota are those of the form, as natural numbers, so
   nothing has overflowed; the minimum is not above the maximum; the quota
   contains the counts that the form means; and a count exceeds it exactly if it
   is greater than every count in it;
3. a bound below zero, and a range of two numbers that are not in order, are
   reported with the true numbers;
4. everything else is reported as no count, with the text as it was given.
-/
theorem parse_accepts_grammar (text : String) :
    ((∃ q, parse text = .ok q) ↔ ∃ form : Form, form.IsFormOf text ∧ form.IsProper) ∧
    (∀ q, parse text = .ok q → ∀ form : Form, form.IsFormOf text →
      q.min.toNat = form.least ∧ q.max.map (·.toNat) = form.greatest? ∧
      (∀ max ∈ q.max, q.min ≤ max) ∧
      (∀ n : Nat, q.contains n = true ↔ form.Admits n) ∧
      ∀ n : UInt64, q.exceededBy n.toNat = true ↔
        ∀ m : UInt64, q.contains m.toNat = true → m < n) ∧
    (Form.IsFormOf (.below 0) text → parse text = .error (.countRange 0 (-1))) ∧
    (∀ m n, Form.IsFormOf (.between m n) text → n < m →
      ∃ min : UInt64, min.toNat = m ∧ parse text = .error (.countRange min n)) ∧
    ((∀ form : Form, form.IsFormOf text → ¬ form.IsProper ∧ ¬ form.IsReversed) →
      ∃ reason, parse text = .error (.invalidCount text reason)) := by
  refine ⟨⟨fun ⟨q, hq⟩ => exists_form_of_parse hq, ?_⟩, ?_, ?_, ?_, ?_⟩
  · -- a proper form is read as the quota it stands for
    rintro ⟨form, hBody, hProper⟩
    obtain ⟨q, hq, -⟩ := form.exists_quota hBody hProper text
    exact ⟨q, by rw [parse_of_writtenAs hBody, hq]⟩
  · intro q hq form hBody
    obtain ⟨hProper, hMin, hMax⟩ := bounds_of_parse hq hBody
    exact ⟨hMin, hMax, min_le_max_of_parse hq, contains_iff_admits hProper hMin hMax,
      exceededBy_iff_forall_contains (min_le_max_of_parse hq)⟩
  · -- the two errors about a range
    intro hBody
    rw [parse_of_writtenAs hBody]
    rfl
  · intro m n hBody hlt
    refine ⟨.ofNat m, toNat_ofNat hBody.le_maxWord, ?_⟩
    rw [parse_of_writtenAs hBody]
    exact if_neg (Nat.not_le.mpr hlt)
  · intro h
    by_cases hForm : ∃ form : Form, form.IsFormOf text
    · -- the only form left is one with a number that has no successor
      obtain ⟨form, hBody⟩ := hForm
      obtain ⟨hProper, hReversed⟩ := h form hBody
      rw [parse_of_writtenAs hBody]
      cases form with
      | above n => exact ⟨_, if_neg hProper⟩
      | below n => exact absurd (Nat.eq_zero_of_not_pos hProper) hReversed
      | between m n => exact absurd (Nat.not_le.mp hProper) hReversed
      | optional | any | exactly => exact absurd trivial hProper
    · exact parse_of_not_writtenAs (not_exists.mp hForm)

/-- Numbers of a range may have plus signs, zeros and blanks. -/
example : parse " +2 - 007 " = .ok ⟨2, some 7⟩ := by decide +kernel

end StreamVerdict.Quota
