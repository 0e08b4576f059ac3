import Mathlib.Data.List.Basic
import StreamVerdict.Proofs.Text.Characters
import StreamVerdict.Proofs.Traversal
import StreamVerdict.Toml.Write

/-!
# Quoted texts are read back

A text is written in one of four ways, whichever is the plainest that can hold
it. In quotes with escapes every character is read back by itself. In quotes
without escapes it is the text that must not hold what would end it: the
traits of the text, by which the way was chosen, say so. Where three quotes
close a text it is enough that no run of three stands before.

Main results:

* `Toml.readBasic_escaped` / `Toml.readBlock_written` — quotes with escapes;
* `Toml.readLiteral_plain` / `Toml.readLiteralBlock_plain` — quotes without;
* `Toml.readQuoted_writeText` — a text in the way that is chosen for it.
-/

namespace StreamVerdict.Toml

/-! ## Escapes -/

theorem readHex_append {n value m : Nat} {digits : List Char}
    (h : readHex n value digits = some (m, [])) (rest : List Char) :
    readHex n value (digits ++ rest) = some (m, rest) := by
  induction n generalizing value digits with
  | zero =>
    obtain ⟨rfl, rfl⟩ : value = m ∧ digits = [] := by simpa [readHex] using h
    rfl
  | succ n ih =>
    cases digits with
    | nil => cases h
    | cons c digits =>
      simp only [readHex] at h
      rw [List.cons_append, readHex]
      split_ifs at h ⊢ <;> exact ih h

theorem toNat_of_isControl {c : Char} (h : isControl c = true) : c.toNat < 0x80 := by
  simp only [isControl, Bool.or_eq_true, Bool.and_eq_true, decide_eq_true_eq] at h
  rcases h with h | rfl
  · omega
  · decide

/-- The code of a character is read back as that character. -/
theorem codeChar?_toNat (c : Char) (rest : List Char) :
    codeChar? (c.toNat, rest) = some (c, rest) := by
  have hValid : c.toNat.isValidChar := c.valid
  rw [codeChar?, dif_pos hValid]
  rfl

/-- The code of a control is read back. -/
theorem readEscape_codeEscape {c : Char} (h : isControl c = true) :
    ∃ digits, codeEscape c = '\\' :: 'u' :: digits ∧
      ∀ rest, readEscape ('u' :: (digits ++ rest)) = some (c, rest) := by
  have hAll : ∀ n < 0x80, readHex 4 0 (((Text.hexDigits n).map Char.toUpper).leftpad 4 '0') =
      some (n, []) := by decide
  refine ⟨_, rfl, fun rest => ?_⟩
  have hDigits := readHex_append (hAll c.toNat (toNat_of_isControl h)) rest
  exact (congrArg (·.bind codeChar?) hDigits).trans (codeChar?_toNat c rest)

/-- One character in quotes with escapes, on one line. -/
def escaped : Char → List Char
  | '"' => ['\\', '"']
  | '\x08' => ['\\', 'b']
  | '\t' => ['\\', 't']
  | '\n' => ['\\', 'n']
  | '\x0c' => ['\\', 'f']
  | '\r' => ['\\', 'r']
  | '\\' => ['\\', '\\']
  | c => if isControl c then codeEscape c else [c]

/-- Only quotes and line feeds are written in another way on several lines. -/
theorem writeEscaped_cons {block : Bool} {c : Char} (hQuote : block = true → c ≠ '"')
    (hLine : block = true → c ≠ '\n') (run : Nat) (cs : List Char) :
    writeEscaped block run (c :: cs) = escaped c ++ writeEscaped block 0 cs := by
  unfold escaped
  -- the characters with an escape of their own; a block keeps quotes and line ends as they are
  split
  · cases block with
    | false => rfl
    | true => exact absurd rfl (hQuote rfl)
  · rfl
  · rfl
  · cases block with
    | false => rfl
    | true => exact absurd rfl (hLine rfl)
  · rfl
  · rfl
  · rfl
  · by_cases hControl : isControl c = true
    · rw [writeEscaped, if_pos hControl, if_pos hControl] <;> assumption
    · rw [writeEscaped, if_neg hControl, if_neg hControl] <;> first | assumption | rfl

theorem writeEscaped_line (run : Nat) (cs : List Char) :
    writeEscaped false run cs = cs.flatMap escaped := by
  induction cs generalizing run with
  | nil => rfl
  | cons c cs ih => rw [writeEscaped_cons (by simp) (by simp), ih, List.flatMap_cons]

/-- Quotes can hold every character that is no control and no line feed. -/
theorem isQuotable_of_not_isControl {c : Char} (h : isControl c = false) (hLine : c ≠ '\n') :
    isQuotable c = true := by
  simp only [isControl, Bool.or_eq_false_iff, decide_eq_false_iff_not, Bool.and_eq_false_imp,
    decide_eq_true_eq, Bool.and_eq_true] at h
  simp only [isQuotable, Bool.or_eq_true, Bool.and_eq_true, decide_eq_true_eq]
  obtain ⟨hLow, hDelete⟩ := h
  by_cases hTab : c = '\t'
  · exact .inl hTab
  · exact .inr ⟨Nat.not_lt.mp fun hlt => hLow ⟨hlt, hTab⟩ hLine, hDelete⟩

/-- A character is written by an escape, which is no line end, or as it is. -/
theorem escaped_cases (c : Char) :
    (∃ e, escaped c = '\\' :: e ∧ (∀ rest, readEscape (e ++ rest) = some (c, rest)) ∧
      ∀ rest, newline? (skipSpace (e ++ rest)) = none) ∨
    (escaped c = [c] ∧ c ≠ '"' ∧ c ≠ '\\' ∧ c ≠ '\n' ∧ c ≠ '\r' ∧ isQuotable c = true) := by
  unfold escaped
  split
  · -- the characters with an escape of their own
    exact .inl ⟨['"'], rfl, fun _ => rfl, fun _ => rfl⟩
  · exact .inl ⟨['b'], rfl, fun _ => rfl, fun _ => rfl⟩
  · exact .inl ⟨['t'], rfl, fun _ => rfl, fun _ => rfl⟩
  · exact .inl ⟨['n'], rfl, fun _ => rfl, fun _ => rfl⟩
  · exact .inl ⟨['f'], rfl, fun _ => rfl, fun _ => rfl⟩
  · exact .inl ⟨['r'], rfl, fun _ => rfl, fun _ => rfl⟩
  · exact .inl ⟨['\\'], rfl, fun _ => rfl, fun _ => rfl⟩
  next hQuote _ _ hLine _ hReturn hBackslash =>
    by_cases hControl : isControl c = true
    · obtain ⟨digits, hDigits, hRead⟩ := readEscape_codeEscape hControl
      rw [if_pos hControl, hDigits]
      exact .inl ⟨'u' :: digits, rfl, hRead, fun _ => rfl⟩
    · -- any other character stands for itself
      rw [if_neg hControl]
      refine .inr ⟨rfl, hQuote, hBackslash, hLine, hReturn, isQuotable_of_not_isControl ?_ hLine⟩
      simpa using hControl

/-! ## Quotes with escapes -/

/-- A character that is no escape and does not end a text stands for itself. -/
theorem readBasic_plain {c : Char} (hQuote : c ≠ '"') (hBackslash : c ≠ '\\')
    (hQuotable : isQuotable c = true) (fuel : Nat) (cs : List Char) :
    readBasic (fuel + 1) (c :: cs) =
      (readBasic fuel cs).map fun (s, rest) => (c :: s, rest) := by
  rw [readBasic, if_pos hQuotable]
  · cases readBasic fuel cs <;> rfl
  · exact hQuote
  · exact hBackslash

theorem readBasic_escape {c : Char} {e : List Char}
    (he : ∀ rest, readEscape (e ++ rest) = some (c, rest)) (fuel : Nat) (cs : List Char) :
    readBasic (fuel + 1) ('\\' :: (e ++ cs)) =
      (readBasic fuel cs).map fun (s, rest) => (c :: s, rest) := by
  rw [readBasic, he]
  simp only [Option.bind_eq_bind, Option.bind_some]
  cases readBasic fuel cs <;> rfl

/-- A text of one line is read back up to the closing quote. -/
theorem readBasic_escaped {s : List Char} {fuel : Nat} (hFuel : s.length < fuel)
    (rest : List Char) :
    readBasic fuel (s.flatMap escaped ++ '"' :: rest) = some (s, rest) := by
  induction s generalizing fuel with
  | nil =>
    obtain ⟨fuel, rfl⟩ := Nat.exists_eq_add_one.mpr hFuel
    rfl
  | cons c s ih =>
    obtain ⟨fuel, rfl⟩ := Nat.exists_eq_add_one.mpr (Nat.zero_lt_of_lt hFuel)
    have hRead := ih (Nat.lt_of_succ_lt_succ hFuel)
    rw [List.flatMap_cons, List.append_assoc]
    rcases escaped_cases c with ⟨e, he, hEscape, -⟩ | ⟨he, hQuote, hBackslash, -, -, hQuotable⟩
    · -- read back from its escape
      rw [he, List.cons_append, readBasic_escape hEscape, hRead]
      rfl
    · -- read as it stands
      rw [he, List.singleton_append, readBasic_plain hQuote hBackslash hQuotable, hRead]
      rfl

/-! ## Closing quotes of several lines -/

theorem newline?_of_ne {c : Char} (hLine : c ≠ '\n') (hReturn : c ≠ '\r') (cs : List Char) :
    newline? (c :: cs) = none := by
  unfold newline?
  split
  next hEq => exact absurd (List.cons.inj hEq).1 hLine
  next hEq => exact absurd (List.cons.inj hEq).1 hReturn
  · rfl

/-- Three quotes close a text of several lines. If nothing but quotes stands before them they end
it, and otherwise the text goes on, as long as no run of three stands before. -/
theorem quoteRun_closing {quote : Char} {before rest : List Char}
    (hBefore : (before.takeWhile (· = quote)).length ≤ 2) (hRest : ∀ c ∈ rest.head?, c ≠ quote) :
    quoteRun quote (before ++ quote :: quote :: quote :: rest) =
      if before.all (· = quote) then some (before, rest) else none := by
  by_cases hAll : before.all (· = quote) = true
  · -- the quotes before belong to the run, which is at most five long
    rw [if_pos hAll]
    have hQuotes : ∀ c ∈ before, c = quote := by simpa using hAll
    have hKept : before.takeWhile (· = quote) = before :=
      List.takeWhile_eq_self_iff.mpr (by simpa using hQuotes)
    rw [hKept] at hBefore
    have hClosed : ∀ c ∈ before ++ [quote, quote, quote], c = quote := by
      intro c hc
      rcases List.mem_append.mp hc with hc | hc
      · exact hQuotes c hc
      · simpa using hc
    have hRun : ((before ++ [quote, quote, quote]) ++ rest).takeWhile (· = quote) =
        before ++ [quote, quote, quote] :=
      Text.takeWhile_run (fun c hc => decide_eq_true (hClosed c hc)) (by simpa using hRest)
    have hInside : min ((before ++ [quote, quote, quote]).length - 3) 2 = before.length := by
      rw [List.length_append]
      exact Nat.min_eq_left hBefore
    have hReplicate : List.replicate before.length quote = before :=
      (List.eq_replicate_of_mem hQuotes).symm
    have hDrop : ((before ++ [quote, quote, quote]) ++ rest).drop (before.length + 3) = rest :=
      List.drop_left' (by simp)
    rw [List.append_assoc] at hRun hDrop
    unfold quoteRun
    simp only [List.cons_append, List.nil_append] at hRun hDrop
    simp only [hRun, hInside, hReplicate, hDrop]
    rw [if_neg (by simp)]
  · -- the run ends before the closing quotes
    rw [if_neg hAll]
    obtain ⟨c, hc, hne⟩ : ∃ c ∈ before, c ≠ quote := by simpa using hAll
    rw [quoteRun, Traversal.takeWhile_append_of_mem hc (by simpa using hne)]
    exact if_pos (Nat.lt_succ_of_le hBefore)

/-! ## Blocks with escapes -/

theorem readBlock_plain {c : Char} (hQuote : c ≠ '"') (hBackslash : c ≠ '\\') (hLine : c ≠ '\n')
    (hReturn : c ≠ '\r') (hQuotable : isQuotable c = true) (fuel : Nat) (cs : List Char) :
    readBlock (fuel + 1) (c :: cs) =
      (readBlock fuel cs).map fun (s, rest) => (c :: s, rest) := by
  rw [readBlock, newline?_of_ne hLine hReturn]
  · simp only [hQuotable, if_true]
    cases readBlock fuel cs <;> rfl
  · exact hQuote
  · exact hBackslash

theorem readBlock_line (fuel : Nat) (cs : List Char) :
    readBlock (fuel + 1) ('\n' :: cs) =
      (readBlock fuel cs).map fun (s, rest) => ('\n' :: s, rest) := by
  rw [readBlock]
  · simp only [newline?]
    cases readBlock fuel cs <;> rfl
  · decide
  · decide

theorem readBlock_escape {c : Char} {e : List Char}
    (he : ∀ rest, readEscape (e ++ rest) = some (c, rest))
    (hLine : ∀ rest, newline? (skipSpace (e ++ rest)) = none) (fuel : Nat) (cs : List Char) :
    readBlock (fuel + 1) ('\\' :: (e ++ cs)) =
      (readBlock fuel cs).map fun (s, rest) => (c :: s, rest) := by
  rw [readBlock, hLine]
  simp only [he, Option.bind_eq_bind, Option.bind_some]
  cases readBlock fuel cs <;> rfl

theorem writeEscaped_quote {run : Nat} (hRun : run < 2) (cs : List Char) :
    writeEscaped true run ('"' :: cs) = '"' :: writeEscaped true (run + 1) cs := by
  simp [writeEscaped, hRun]

theorem writeEscaped_third_quote {run : Nat} (hRun : ¬ run < 2) (cs : List Char) :
    writeEscaped true run ('"' :: cs) = '\\' :: (['"'] ++ writeEscaped true 0 cs) := by
  simp [writeEscaped, hRun]

theorem writeEscaped_newline (run : Nat) (cs : List Char) :
    writeEscaped true run ('\n' :: cs) = '\n' :: writeEscaped true 0 cs := rfl

/-- What is written for a character begins with a quote only if it is a quote. -/
theorem head_writeEscaped {c : Char} (hQuote : c ≠ '"') (run : Nat) (cs : List Char) :
    ∃ c' cs', writeEscaped true run (c :: cs) = c' :: cs' ∧ c' ≠ '"' := by
  by_cases hLine : c = '\n'
  · subst hLine
    exact ⟨'\n', _, rfl, by decide⟩
  · rw [writeEscaped_cons (fun _ => hQuote) (fun _ => hLine)]
    rcases escaped_cases c with ⟨e, he, -⟩ | ⟨he, -⟩
    · exact ⟨'\\', _, by rw [he]; rfl, by decide⟩
    · exact ⟨c, _, by rw [he]; rfl, hQuote⟩

/-- No run of three quotes is written, counting those before. -/
theorem takeWhile_writeEscaped_le {run : Nat} (hRun : run ≤ 2) (cs : List Char) :
    ((writeEscaped true run cs).takeWhile (· = '"')).length + run ≤ 2 := by
  induction cs generalizing run with
  | nil => simpa [writeEscaped] using hRun
  | cons c cs ih =>
    by_cases hQuote : c = '"'
    · subst hQuote
      -- a third quote in a row is escaped, so no run gets longer than two
      by_cases hlt : run < 2
      · have hRest : _ + (run + 1) ≤ 2 := ih hlt
        rw [writeEscaped_quote hlt, List.takeWhile_cons_of_pos (by simp), List.length_cons]
        omega
      · simpa [writeEscaped_third_quote hlt] using hRun
    · -- another character ends the run
      obtain ⟨c', cs', hWritten, hne⟩ := head_writeEscaped hQuote run cs
      rw [hWritten, List.takeWhile_cons_of_neg (by simpa using hne)]
      simpa using hRun

/-- Quotes that are written as nothing but quotes are written as they are. -/
theorem writeEscaped_of_all {run : Nat} {cs : List Char}
    (h : (writeEscaped true run cs).all (· = '"') = true) : writeEscaped true run cs = cs := by
  induction cs generalizing run with
  | nil => rfl
  | cons c cs ih =>
    by_cases hQuote : c = '"'
    · subst hQuote
      by_cases hlt : run < 2
      · rw [writeEscaped_quote hlt, List.all_cons, Bool.and_eq_true] at h
        rw [writeEscaped_quote hlt, ih h.2]
      · simp [writeEscaped_third_quote hlt] at h
    · obtain ⟨c', cs', hWritten, hne⟩ := head_writeEscaped hQuote run cs
      simp [hWritten, hne] at h

/-- A text of several lines is read back up to the closing quotes. -/
theorem readBlock_written {s : List Char} {run fuel : Nat} (hRun : run ≤ 2)
    (hFuel : s.length < fuel) {rest : List Char} (hRest : ∀ c ∈ rest.head?, c ≠ '"') :
    readBlock fuel (writeEscaped true run s ++ '"' :: '"' :: '"' :: rest) = some (s, rest) := by
  induction s generalizing run fuel with
  | nil =>
    -- only the closing quotes are left
    obtain ⟨fuel, rfl⟩ := Nat.exists_eq_add_one.mpr hFuel
    have hClosing : quoteRun '"' ([] ++ '"' :: '"' :: '"' :: rest) = _ :=
      quoteRun_closing (Nat.zero_le 2) hRest
    rw [List.nil_append] at hClosing
    rw [writeEscaped, List.nil_append, readBlock, hClosing]
    rfl
  | cons c s ih =>
    obtain ⟨fuel, rfl⟩ := Nat.exists_eq_add_one.mpr (Nat.zero_lt_of_lt hFuel)
    have hShort : s.length < fuel := Nat.lt_of_succ_lt_succ hFuel
    by_cases hQuote : c = '"'
    · subst hQuote
      by_cases hlt : run < 2
      · -- a quote that stands for itself: it may belong to the run that closes the text
        have hFew := takeWhile_writeEscaped_le hRun ('"' :: s)
        have hWhole : _ → writeEscaped true run ('"' :: s) = '"' :: s := writeEscaped_of_all
        rw [writeEscaped_quote hlt] at hFew hWhole
        have hClosing := quoteRun_closing (Nat.le_of_add_right_le hFew) hRest
        rw [writeEscaped_quote hlt, List.cons_append, readBlock, ← List.cons_append, hClosing]
        split_ifs with hAll
        · rw [hWhole hAll]
        · simp only [ih hlt hShort]
          rfl
      · -- a third quote, which was escaped
        rw [writeEscaped_third_quote hlt, List.cons_append, List.append_assoc,
          readBlock_escape (fun _ => rfl) (fun _ => rfl), ih (Nat.zero_le 2) hShort]
        rfl
    · -- a line end stands for itself in a block, and other characters may be escaped
      by_cases hLine : c = '\n'
      · subst hLine
        rw [writeEscaped_newline, List.cons_append, readBlock_line, ih (Nat.zero_le 2) hShort]
        rfl
      · rw [writeEscaped_cons (fun _ => hQuote) (fun _ => hLine), List.append_assoc]
        rcases escaped_cases c with
          ⟨e, he, hEscape, hGoesOn⟩ | ⟨he, -, hBackslash, -, hReturn, hQuotable⟩
        · rw [he, List.cons_append, readBlock_escape hEscape hGoesOn, ih (Nat.zero_le 2) hShort]
          rfl
        · rw [he, List.singleton_append, readBlock_plain hQuote hBackslash hLine hReturn hQuotable,
            ih (Nat.zero_le 2) hShort]
          rfl

/-! ## Quotes without escapes -/

/-- A text without single quotes is read back up to the closing quote. -/
theorem readLiteral_plain {s : List Char} (hs : ∀ c ∈ s, c ≠ '\'' ∧ isQuotable c = true)
    (rest : List Char) : readLiteral (s ++ '\'' :: rest) = some (s, rest) := by
  induction s with
  | nil => rfl
  | cons c s ih =>
    obtain ⟨hQuote, hQuotable⟩ := hs c List.mem_cons_self
    have hRest := ih fun c' hc' => hs c' (List.mem_cons_of_mem _ hc')
    rw [List.cons_append, readLiteral, if_pos hQuotable, hRest]
    · rfl
    · exact hQuote

/-- The run of a character that is under way and the longest so far, with one more character. -/
def extendRun (q : Char) (runs : Nat × Nat) (c : Char) : Nat × Nat :=
  if c = q then (runs.1 + 1, max runs.2 (runs.1 + 1)) else (0, runs.2)

theorem longestRun_eq (q : Char) (cs : List Char) :
    longestRun q cs = (cs.foldl (extendRun q) (0, 0)).2 := rfl

theorem extendRun_fst_le (q : Char) (runs : Nat × Nat) (c : Char) :
    (extendRun q runs c).1 ≤ (extendRun q runs c).2 := by
  unfold extendRun
  split
  · exact Nat.le_max_right _ _
  · exact Nat.zero_le _

theorem le_extendRun (q : Char) (runs : Nat × Nat) (c : Char) :
    runs.2 ≤ (extendRun q runs c).2 := by
  unfold extendRun
  split
  · exact Nat.le_max_left _ _
  · exact Nat.le_refl _

theorem le_foldl_extendRun (q : Char) (cs : List Char) (runs : Nat × Nat) :
    runs.2 ≤ (cs.foldl (extendRun q) runs).2 := by
  induction cs generalizing runs with
  | nil => exact Nat.le_refl _
  | cons c cs ih => exact (le_extendRun q runs c).trans (ih _)

/-- The run at the beginning of a text is no longer than the longest. -/
theorem takeWhile_le_foldl_extendRun (q : Char) (cs : List Char) {runs : Nat × Nat}
    (h : runs.1 ≤ runs.2) :
    runs.1 + (cs.takeWhile (· = q)).length ≤ (cs.foldl (extendRun q) runs).2 := by
  induction cs generalizing runs with
  | nil => exact h
  | cons c cs ih =>
    by_cases hc : c = q
    · have hRest := ih (extendRun_fst_le q runs c)
      rw [List.takeWhile_cons_of_pos (by simpa using hc), List.length_cons, List.foldl_cons]
      have hRun : (extendRun q runs c).1 = runs.1 + 1 := by rw [extendRun, if_pos hc]
      omega
    · rw [List.takeWhile_cons_of_neg (by simpa using hc), List.foldl_cons]
      exact (h.trans (le_extendRun q runs c)).trans (le_foldl_extendRun q cs _)

theorem notMem_of_longestRun_eq_zero {q : Char} {cs : List Char} (h : longestRun q cs = 0) :
    q ∉ cs := by
  intro hMem
  obtain ⟨before, after, rfl⟩ := List.append_of_mem hMem
  rw [longestRun_eq, List.foldl_append, List.foldl_cons] at h
  have hle := le_foldl_extendRun q after (extendRun q (before.foldl (extendRun q) (0, 0)) q)
  have hPos : 0 < (extendRun q (before.foldl (extendRun q) (0, 0)) q).2 := by
    rw [extendRun, if_pos rfl]
    exact Nat.lt_of_lt_of_le (Nat.zero_lt_succ _) (Nat.le_max_right _ _)
  omega

/-- A text of several lines without a run of three single quotes is read back up to the closing
quotes. -/
theorem readLiteralBlock_plain {s : List Char} {runs : Nat × Nat} (hRuns : runs.1 ≤ runs.2)
    (hLongest : (s.foldl (extendRun '\'') runs).2 ≤ 2) (hs : ∀ c ∈ s, isControl c = false)
    {fuel : Nat} (hFuel : s.length < fuel) {rest : List Char}
    (hRest : ∀ c ∈ rest.head?, c ≠ '\'') :
    readLiteralBlock fuel (s ++ '\'' :: '\'' :: '\'' :: rest) = some (s, rest) := by
  induction s generalizing runs fuel with
  | nil =>
    obtain ⟨fuel, rfl⟩ := Nat.exists_eq_add_one.mpr hFuel
    have hClosing : quoteRun '\'' ([] ++ '\'' :: '\'' :: '\'' :: rest) = _ :=
      quoteRun_closing (Nat.zero_le 2) hRest
    rw [List.nil_append] at hClosing ⊢
    rw [readLiteralBlock, hClosing]
    rfl
  | cons c s ih =>
    obtain ⟨fuel, rfl⟩ := Nat.exists_eq_add_one.mpr (Nat.zero_lt_of_lt hFuel)
    have hControl := hs c List.mem_cons_self
    have hRead := ih (extendRun_fst_le '\'' runs c) hLongest
      (fun c' hc' => hs c' (List.mem_cons_of_mem _ hc')) (Nat.lt_of_succ_lt_succ hFuel)
    by_cases hQuote : c = '\''
    · subst hQuote
      have hFew := (takeWhile_le_foldl_extendRun '\'' ('\'' :: s) hRuns).trans hLongest
      have hClosing := quoteRun_closing (Nat.le_of_add_left_le hFew) hRest
      rw [List.cons_append, readLiteralBlock, ← List.cons_append, hClosing]
      -- quotes up to the end belong to the text, as the closing run may be five long
      split_ifs with hAll
      · rfl
      · simp only [hRead]
        rfl
    · by_cases hLine : c = '\n'
      · subst hLine
        rw [List.cons_append, readLiteralBlock]
        · simp only [newline?, hRead]
          rfl
        · decide
      · have hReturn : c ≠ '\r' := by
          rintro rfl
          cases hControl
        rw [List.cons_append, readLiteralBlock, newline?_of_ne hLine hReturn]
        · simp only [isQuotable_of_not_isControl hControl hLine, if_true, hRead]
          rfl
        · exact hQuote

/-! ## Texts -/

/-- What may lie behind a value: the end of the line, or what separates or closes values. -/
def Stops (rest : List Char) : Prop :=
  ∀ c ∈ rest.head?, c = '\n' ∨ c = ' ' ∨ c = ',' ∨ c = ']'

theorem stops_cons {c : Char} (h : c = '\n' ∨ c = ' ' ∨ c = ',' ∨ c = ']') (rest : List Char) :
    Stops (c :: rest) := by
  rintro _ ⟨⟩
  exact h

theorem Stops.head_ne {rest : List Char} (h : Stops rest) {d : Char}
    (hd : d ≠ '\n' ∧ d ≠ ' ' ∧ d ≠ ',' ∧ d ≠ ']') : ∀ c ∈ rest.head?, c ≠ d := by
  rintro c hc rfl
  rcases h c hc with rfl | rfl | rfl | rfl <;> simp at hd

theorem literal_of_quoting {t : Traits} (h : t.quoting = .literal) :
    t.hasControls = false ∧ t.hasNewline = false ∧ t.singleRun = 0 ∧
      (t.hasBackslash = false → t.doubleRun ≠ 0) := by
  unfold Traits.quoting at h
  split_ifs at h
  all_goals simp_all

theorem literalBlock_of_quoting {t : Traits} (h : t.quoting = .literalBlock) :
    t.hasControls = false ∧ t.singleRun ≤ 2 := by
  unfold Traits.quoting at h
  split_ifs at h
  all_goals simp_all

/-- One double quote that no two others follow opens a text of one line. -/
theorem readQuoted_basic {cs : List Char} (h : ∀ cs', cs ≠ '"' :: '"' :: cs') :
    readQuoted ('"' :: cs) =
      (readBasic (cs.length + 1) cs).map fun (s, rest) => (String.ofList s, rest) := by
  unfold readQuoted
  split
  next hEq => exact absurd (List.cons.inj hEq).2 (h _)
  next hEq => exact absurd (List.cons.inj hEq).1 (by decide)
  next hEq => rw [(List.cons.inj hEq).2]; rfl
  next hEq => exact absurd (List.cons.inj hEq).1 (by decide)
  next hne _ => exact absurd rfl (hne _)

theorem readQuoted_literal {cs : List Char} (h : ∀ cs', cs ≠ '\'' :: '\'' :: cs') :
    readQuoted ('\'' :: cs) =
      (readLiteral cs).map fun (s, rest) => (String.ofList s, rest) := by
  unfold readQuoted
  split
  next hEq => exact absurd (List.cons.inj hEq).1 (by decide)
  next hEq => exact absurd (List.cons.inj hEq).2 (h _)
  next hEq => exact absurd (List.cons.inj hEq).1 (by decide)
  next hEq => rw [(List.cons.inj hEq).2]
  next hne => exact absurd rfl (hne _)

/-- Three quotes open a text of several lines. -/
theorem readQuoted_triple_double (cs : List Char) : readQuoted ('"' :: '"' :: '"' :: cs) =
    (readBlock (cs.length + 3) (skipFirstNewline cs)).map
      fun (s, rest) => (String.ofList s, rest) := rfl

theorem readQuoted_triple_single (cs : List Char) : readQuoted ('\'' :: '\'' :: '\'' :: cs) =
    (readLiteralBlock (cs.length + 3) (skipFirstNewline cs)).map
      fun (s, rest) => (String.ofList s, rest) := rfl

theorem one_le_length_escaped (c : Char) : 1 ≤ (escaped c).length := by
  rcases escaped_cases c with ⟨e, he, -⟩ | ⟨he, -⟩
  · rw [he]
    exact Nat.succ_le_of_lt (Nat.zero_lt_succ _)
  · rw [he]
    exact Nat.le_refl 1

theorem length_le_escaped (s : List Char) : s.length ≤ (s.flatMap escaped).length := by
  induction s with
  | nil => exact Nat.le_refl 0
  | cons c s ih =>
    have hOne := one_le_length_escaped c
    rw [List.flatMap_cons, List.length_append, List.length_cons]
    omega

/-- A text of one line is read back, whatever it holds. -/
theorem readQuoted_escaped (s : List Char) {rest : List Char}
    (hRest : ∀ c ∈ rest.head?, c ≠ '"') :
    readQuoted ('"' :: (s.flatMap escaped ++ '"' :: rest)) = some (String.ofList s, rest) := by
  have hLength := length_le_escaped s
  rw [readQuoted_basic, readBasic_escaped (by rw [List.length_append]; omega)]
  · rfl
  · -- two more double quotes do not follow
    intro cs' hEq
    cases s with
    | nil => exact hRest '"' (by rw [(List.cons.inj hEq).2]; rfl) rfl
    | cons c s =>
      rw [List.flatMap_cons] at hEq
      rcases escaped_cases c with ⟨e, he, -⟩ | ⟨he, hQuote, -⟩
      · rw [he] at hEq
        exact absurd (List.cons.inj hEq).1 (by decide)
      · rw [he] at hEq
        exact hQuote (List.cons.inj hEq).1

theorem readQuoted_plain {s : List Char} (hne : s ≠ [])
    (hs : ∀ c ∈ s, c ≠ '\'' ∧ isQuotable c = true) (rest : List Char) :
    readQuoted ('\'' :: (s ++ '\'' :: rest)) = some (String.ofList s, rest) := by
  rw [readQuoted_literal, readLiteral_plain hs]
  · rfl
  · intro cs' hEq
    obtain ⟨c, s, rfl⟩ := List.exists_cons_of_ne_nil hne
    exact (hs c List.mem_cons_self).1 (List.cons.inj hEq).1

/-- The line end that is written first is dropped, and no other. -/
theorem skipFirstNewline_written {s cs : List Char}
    (hHead : '\n' ∉ s → ∃ c cs', cs = c :: cs' ∧ c ≠ '\n' ∧ c ≠ '\r') :
    skipFirstNewline ((if '\n' ∈ s then "\n" else "").toList ++ cs) = cs := by
  split_ifs with hMem
  · rfl
  · obtain ⟨c, cs', rfl, hLine, hReturn⟩ := hHead hMem
    show (newline? (c :: cs')).getD _ = _
    rw [newline?_of_ne hLine hReturn]
    rfl

theorem length_le_writeEscaped (run : Nat) (s : List Char) :
    s.length ≤ (writeEscaped true run s).length := by
  induction s generalizing run with
  | nil => exact Nat.le_refl 0
  | cons c s ih =>
    by_cases hQuote : c = '"'
    · subst hQuote
      by_cases hlt : run < 2
      · rw [writeEscaped_quote hlt]
        exact Nat.succ_le_succ (ih (run + 1))
      · rw [writeEscaped_third_quote hlt]
        exact (Nat.succ_le_succ (ih 0)).trans (Nat.le_succ _)
    · by_cases hLine : c = '\n'
      · subst hLine
        exact Nat.succ_le_succ (ih 0)
      · have hOne := one_le_length_escaped c
        have hRest := ih 0
        rw [writeEscaped_cons (fun _ => hQuote) (fun _ => hLine), List.length_append,
          List.length_cons]
        omega

/-- A text of several lines in double quotes is read back, whatever it holds. -/
theorem readQuoted_block (s : List Char) {rest : List Char} (hRest : ∀ c ∈ rest.head?, c ≠ '"') :
    readQuoted ('"' :: '"' :: '"' :: ((if '\n' ∈ s then "\n" else "").toList ++
        (writeEscaped true 0 s ++ '"' :: '"' :: '"' :: rest))) = some (String.ofList s, rest) := by
  have hLength := length_le_writeEscaped 0 s
  -- the break behind the quotes is dropped; where none was written, the text begins with none
  have hHead (hMem : '\n' ∉ s) : ∃ c cs,
      writeEscaped true 0 s ++ '"' :: '"' :: '"' :: rest = c :: cs ∧ c ≠ '\n' ∧ c ≠ '\r' := by
    cases s with
    | nil => exact ⟨_, _, rfl, by decide, by decide⟩
    | cons c s =>
      by_cases hQuote : c = '"'
      · subst hQuote
        exact ⟨_, _, rfl, by decide, by decide⟩
      · have hLine : c ≠ '\n' := fun hEq => hMem (hEq ▸ List.mem_cons_self)
        rw [writeEscaped_cons (fun _ => hQuote) (fun _ => hLine)]
        rcases escaped_cases c with ⟨e, he, -⟩ | ⟨he, -, -, -, hReturn, -⟩
        · exact ⟨'\\', _, by rw [he]; rfl, by decide, by decide⟩
        · exact ⟨c, _, by rw [he]; rfl, hLine, hReturn⟩
  rw [readQuoted_triple_double, skipFirstNewline_written hHead,
    readBlock_written (Nat.zero_le 2) _ hRest]
  · rfl
  · simp only [List.length_cons, List.length_append]
    omega

/-- A text of several lines in single quotes is read back if it holds no controls and no run of
three single quotes. -/
theorem readQuoted_literalBlock {s : List Char} (hs : ∀ c ∈ s, isControl c = false)
    (hRun : longestRun '\'' s ≤ 2) {rest : List Char} (hRest : ∀ c ∈ rest.head?, c ≠ '\'') :
    readQuoted ('\'' :: '\'' :: '\'' :: ((if '\n' ∈ s then "\n" else "").toList ++
        (s ++ '\'' :: '\'' :: '\'' :: rest))) = some (String.ofList s, rest) := by
  have hHead (hMem : '\n' ∉ s) : ∃ c cs, s ++ '\'' :: '\'' :: '\'' :: rest = c :: cs ∧
      c ≠ '\n' ∧ c ≠ '\r' := by
    cases s with
    | nil => exact ⟨_, _, rfl, by decide, by decide⟩
    | cons c s =>
      refine ⟨c, _, rfl, fun hEq => hMem (hEq ▸ List.mem_cons_self), ?_⟩
      rintro rfl
      cases hs '\r' List.mem_cons_self
  rw [readQuoted_triple_single, skipFirstNewline_written hHead,
    readLiteralBlock_plain (Nat.le_refl 0) hRun hs _ hRest]
  · rfl
  · simp only [List.length_cons, List.length_append]
    omega

theorem forall_isControl_eq_false {s : List Char} (h : (Traits.of s).hasControls = false) :
    ∀ c ∈ s, isControl c = false := by
  simpa [Traits.of] using h

/-- **A text is read back** in the way to quote it that is chosen. -/
theorem readQuoted_writeText (s : String) {rest : List Char} (hRest : Stops rest) :
    readQuoted ((writeText s).toList ++ rest) = some (s, rest) := by
  have hDouble : ∀ c ∈ rest.head?, c ≠ '"' := hRest.head_ne (by decide)
  have hSingle : ∀ c ∈ rest.head?, c ≠ '\'' := hRest.head_ne (by decide)
  unfold writeText
  -- one case for each way of quoting, and the traits of the text that led to it
  cases h : (Traits.of s.toList).quoting with
  | basic =>
    have hRead := readQuoted_escaped s.toList hDouble
    simpa [writeEscaped_line, h] using hRead
  | literal =>
    obtain ⟨hControls, hLine, hRun, hNeeded⟩ := literal_of_quoting h
    have hne : s.toList ≠ [] := by
      intro hNil
      rw [hNil] at hNeeded
      exact hNeeded rfl rfl
    have hQuote : '\'' ∉ s.toList := notMem_of_longestRun_eq_zero hRun
    have hNewline : '\n' ∉ s.toList := by simpa [Traits.of] using hLine
    have hPlain (c : Char) (hc : c ∈ s.toList) : c ≠ '\'' ∧ isQuotable c = true :=
      ⟨fun hEq => hQuote (hEq ▸ hc), isQuotable_of_not_isControl
        (forall_isControl_eq_false hControls c hc) fun hEq => hNewline (hEq ▸ hc)⟩
    have hRead := readQuoted_plain hne hPlain rest
    simpa [h] using hRead
  | block =>
    have hRead := readQuoted_block s.toList hDouble
    simpa [h] using hRead
  | literalBlock =>
    obtain ⟨hControls, hRun⟩ := literalBlock_of_quoting h
    have hRead := readQuoted_literalBlock (forall_isControl_eq_false hControls) hRun hSingle
    simpa [h] using hRead

end StreamVerdict.Toml
