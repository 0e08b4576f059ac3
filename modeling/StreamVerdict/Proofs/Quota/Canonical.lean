import StreamVerdict.Proofs.Quota.Grammar

/-!
# The canonical text of a quota

Many texts mean the same quota: `2-2` and `+02` are both twice, and `>0` may
have blanks in it. A quota describes itself in one of them, in which the form
follows from the bounds: equal bounds are one number, an open end is written
with the number below the minimum, and an open end without a minimum is a
word. What is described in this way is read back as it was, so the description
is a normal form of all texts for the quota.

This holds of the quotas that can be had at all. In a quota made up by hand the
minimum might lie above the maximum, and no text means such a quota.

Main definitions:

* `Quota.IsObtainable` — the quotas that can be had;
* `Quota.form` — the form in which a quota describes itself.

Main results:

* `Quota.isObtainable_iff` — what the bounds of a quota are like;
* `Quota.writtenAs_describe` / `Quota.quota_form` — what a description says;
* `Quota.parse_describe` / `Quota.parse_hyphen` — what is read back;
* `Quota.description_is_canonical` — descriptions are read back, and are
  different for different quotas.
-/

namespace StreamVerdict.Quota

/-! ## Quotas that can be had -/

/-- The quotas that are made by one of the constructors, or read from a text. -/
inductive IsObtainable : Quota → Prop where
  | exactly (n : UInt64) : IsObtainable (exactly n)
  | range {min max : UInt64} {q : Quota} (h : range min max = .ok q) : IsObtainable q
  | atLeast (n : UInt64) : IsObtainable (atLeast n)
  | optional : IsObtainable optional
  | any : IsObtainable any
  | once : IsObtainable once
  | parse {text : String} {q : Quota} (h : parse text = .ok q) : IsObtainable q

/-- A range is made exactly if its bounds are in order, and then it has these bounds. -/
theorem range_eq_ok_iff {min max : UInt64} {q : Quota} :
    range min max = .ok q ↔ min ≤ max ∧ q = ⟨min, some max⟩ := by
  unfold range
  split
  next hlt => simp [UInt64.not_le.mpr hlt]
  next hle => simp [UInt64.not_lt.mp hle, eq_comm]

/-- A quota can be had exactly if its minimum does not lie above its maximum. -/
theorem isObtainable_iff {q : Quota} : q.IsObtainable ↔ ∀ max ∈ q.max, q.min ≤ max := by
  constructor
  · intro h
    cases h with
    | exactly n => simp [Quota.exactly]
    | range h =>
      obtain ⟨hle, rfl⟩ := range_eq_ok_iff.mp h
      simpa using hle
    | atLeast n => simp [Quota.atLeast]
    | optional => simp [Quota.optional]
    | any => simp [Quota.any]
    | once => simp [Quota.once, Quota.exactly]
    | parse h => exact min_le_max_of_parse h
  · -- without a maximum it is an `atLeast`, and else a range
    intro h
    obtain ⟨min, max⟩ := q
    cases max with
    | none => exact .atLeast min
    | some max => exact .range (range_eq_ok_iff.mpr ⟨h max rfl, rfl⟩)

/-! ## What a description says -/

/-- The form in which a quota describes itself. -/
def form (q : Quota) : Form :=
  match q.max with
  | some m => if m = q.min then .exactly m.toNat else .between q.min.toNat m.toNat
  | none => if 0 < q.min then .above (q.min.toNat - 1) else .any

theorem toNat_le_maxWord (n : UInt64) : n.toNat ≤ Text.maxWord := by
  have hlt := n.toNat_lt
  simp only [Text.maxWord, UInt64.size]
  omega

theorem toList_toString (n : UInt64) : (toString n).toList = Nat.toDigits 10 n.toNat :=
  Nat.toList_repr

/-- The characters of two numbers with a hyphen between them. -/
theorem toList_hyphen (min max : UInt64) : s!"{min}-{max}".toList =
    Nat.toDigits 10 min.toNat ++ '-' :: Nat.toDigits 10 max.toNat := by
  simp only [String.toList_append, toList_toString]
  exact List.append_assoc _ ['-'] _

/-- The characters of a description. -/
theorem toList_describe (q : Quota) :
    q.describe.toList =
      match q.max with
      | some m =>
        if m = q.min then Nat.toDigits 10 m.toNat
        else Nat.toDigits 10 q.min.toNat ++ '-' :: Nat.toDigits 10 m.toNat
      | none => if 0 < q.min then '>' :: Nat.toDigits 10 (q.min - 1).toNat else "any".toList := by
  unfold describe
  cases q.max with
  | some m =>
    dsimp only
    split
    · -- one number when both bounds agree, and else two with a hyphen
      exact toList_toString m
    · exact toList_hyphen q.min m
  | none =>
    dsimp only
    split
    · simp only [String.toList_append, toList_toString]
      rfl
    · rfl

/-- The digits of a number are a number of a quota. -/
theorem isBound_toDigits (n : UInt64) : IsBound (Nat.toDigits 10 n.toNat) n.toNat := by
  refine ⟨[], Nat.toDigits 10 n.toNat, [], by simp, by simp, ?_, toNat_le_maxWord n⟩
  refine ⟨[], Nat.toDigits 10 n.toNat, rfl, .inl rfl, Nat.toDigits_ne_nil, ?_, ?_⟩
  · exact fun c hc => Text.isDigit_of_mem hc
  · exact Nat.ofDigitChars_toDigits (by decide) (by decide)

/-- The number before a minimum that is not zero. -/
theorem toNat_sub_one {n : UInt64} (h : 0 < n) : (n - 1).toNat = n.toNat - 1 := by
  have hle : (1 : UInt64) ≤ n := by
    rw [UInt64.le_iff_toNat_le]
    exact UInt64.lt_iff_toNat_lt.mp h
  rw [UInt64.toNat_sub_of_le _ _ hle]
  rfl

/-- A quota describes itself in its form. -/
theorem writtenAs_describe (q : Quota) : q.form.WrittenAs q.describe.toList := by
  rw [toList_describe, form]
  cases q.max with
  | some m =>
    dsimp only
    split
    · exact .exactly (isBound_toDigits m)
    · exact .between (isBound_toDigits q.min) (isBound_toDigits m)
  | none =>
    dsimp only
    split
    next hPos =>
      rw [← toNat_sub_one hPos]
      exact .above (isBound_toDigits (q.min - 1))
    next => exact .any rfl

/-- The form of a quota whose bounds are in order means that quota. -/
theorem quota_form {q : Quota} (h : ∀ max ∈ q.max, q.min ≤ max) (text : String) :
    q.form.quota text = .ok q := by
  obtain ⟨min, max⟩ := q
  unfold form
  cases max with
  | some m =>
    dsimp only
    split
    next hEq => simp [Form.quota, Quota.exactly, hEq]
    next => simp [Form.quota, UInt64.le_iff_toNat_le.mp (h m rfl)]
  | none =>
    dsimp only
    have hle := toNat_le_maxWord min
    split
    next hPos =>
      -- the number that is written is the one before the minimum, so it has a successor
      have hMin : 0 < min.toNat := UInt64.lt_iff_toNat_lt.mp hPos
      rw [Form.quota, if_pos (by omega), Nat.sub_add_cancel hMin, UInt64.ofNat_toNat]
      rfl
    next hZero =>
      have hMin : min = 0 := UInt64.le_antisymm (UInt64.not_lt.mp hZero) (UInt64.zero_le)
      rw [hMin]
      rfl

theorem isBlank_of_mem_toDigits {n : Nat} {c : Char} (h : c ∈ Nat.toDigits 10 n) :
    Text.isBlank c = false :=
  Text.isBlank_of_isDigit (Text.isDigit_of_mem h)

/-- There is no blank in two numbers with a hyphen between them. -/
theorem isBlank_of_mem_hyphen {m n : Nat} {c : Char}
    (h : c ∈ Nat.toDigits 10 m ++ '-' :: Nat.toDigits 10 n) : Text.isBlank c = false := by
  rcases List.mem_append.mp h with h | h
  · exact isBlank_of_mem_toDigits h
  · rcases List.mem_cons.mp h with rfl | h
    · decide
    · exact isBlank_of_mem_toDigits h

/-- There is no blank in a description. -/
theorem isBlank_of_mem_describe {q : Quota} {c : Char} (h : c ∈ q.describe.toList) :
    Text.isBlank c = false := by
  rw [toList_describe] at h
  split at h
  · split at h
    · exact isBlank_of_mem_toDigits h
    · exact isBlank_of_mem_hyphen h
  · split at h
    · rcases List.mem_cons.mp h with rfl | h
      · decide
      · exact isBlank_of_mem_toDigits h
    · have hWord : "any".toList.all (fun c => !Text.isBlank c) = true := by decide
      simpa using List.all_eq_true.mp hWord c h

/-- So nothing of a description is lost when it is read. -/
theorem trimChars_describe (q : Quota) : Text.trimChars q.describe.toList = q.describe.toList :=
  Text.trimChars_eq_self fun _ => isBlank_of_mem_describe

/-- A quota whose bounds are in order is read back from its description. -/
theorem parse_describe {q : Quota} (h : ∀ max ∈ q.max, q.min ≤ max) : parse q.describe = .ok q := by
  have hBody : q.form.WrittenAs (Text.trimChars q.describe.toList) := by
    rw [trimChars_describe]
    exact writtenAs_describe q
  rw [parse_of_writtenAs hBody, quota_form h]

/-- So is one that is written for a configuration, where equal bounds are a bare number. -/
theorem quota_written {q : Quota} (h : ∀ max ∈ q.max, q.min ≤ max) : q.written.quota = .ok q := by
  obtain ⟨min, max⟩ := q
  unfold written
  cases max with
  | some m =>
    dsimp only
    split
    next hEq => rw [Written.quota, exactly, hEq]
    next => rw [Written.quota, parse_describe h]
  | none => rw [Written.quota, parse_describe h]

/-- Two numbers in order with a hyphen between them are read, also where they are equal and a
description would be shorter. -/
theorem parse_hyphen {min max : UInt64} (h : min ≤ max) :
    parse s!"{min}-{max}" = .ok ⟨min, some max⟩ := by
  have hBody : (Form.between min.toNat max.toNat).WrittenAs
      (Text.trimChars s!"{min}-{max}".toList) := by
    rw [toList_hyphen, Text.trimChars_eq_self fun _ => isBlank_of_mem_hyphen]
    exact .between (isBound_toDigits min) (isBound_toDigits max)
  rw [parse_of_writtenAs hBody, Form.quota, if_pos (UInt64.le_iff_toNat_le.mp h),
    UInt64.ofNat_toNat, UInt64.ofNat_toNat]

/-! ## Normal forms -/

/--
**The description of a quota is its canonical text.** For every quota that can
be had from a constructor or by reading a text:

1. reading its description gives it back;
2. so does what is written for it in a configuration;
3. no other quota that can be had has the same description;
4. every text for it has this description as its normal form, and the normal
   form of the description is the description.
-/
theorem description_is_canonical {q : Quota} (h : q.IsObtainable) :
    parse q.describe = .ok q ∧
    q.written.quota = .ok q ∧
    (∀ r : Quota, r.IsObtainable → (r.describe = q.describe ↔ r = q)) ∧
    ∀ text, parse text = .ok q →
      (parse text).map describe = .ok q.describe ∧
      (parse q.describe).map describe = .ok q.describe := by
  have hRead := parse_describe (isObtainable_iff.mp h)
  refine ⟨hRead, quota_written (isObtainable_iff.mp h), fun r hr => ⟨fun hSame => ?_, ?_⟩, ?_⟩
  · -- both are read from the same text
    have hOther := parse_describe (isObtainable_iff.mp hr)
    rw [hSame, hRead] at hOther
    exact (Except.ok.inj hOther).symm
  · rintro rfl
    rfl
  · intro text hText
    rw [hText, hRead]
    exact ⟨rfl, rfl⟩

/-- The largest number there is has no successor, but as a minimum it is written with its
predecessor. -/
theorem most_is_canonical :
    parse " > 018446744073709551614" = .ok (.atLeast 18446744073709551615) ∧
      (atLeast 18446744073709551615).describe = ">18446744073709551614" ∧
      parse ">18446744073709551614" = .ok (.atLeast 18446744073709551615) := by
  have hRead : parse " > 018446744073709551614" = .ok (.atLeast 18446744073709551615) := by
    decide +kernel
  have hDescribe : (atLeast 18446744073709551615).describe = ">18446744073709551614" := by
    decide +kernel
  refine ⟨hRead, hDescribe, ?_⟩
  rw [← hDescribe]
  exact (description_is_canonical (.parse hRead)).1

end StreamVerdict.Quota
