import StreamVerdict.Json.Write
import StreamVerdict.Proofs.Text.Characters
import StreamVerdict.Proofs.Tree.Alike

/-!
# JSON texts are read back

Every regular tree that is not nested too deeply is read back from its text. A
reader takes the characters that lie ahead and leaves those that it has not
used; so each lemma says what is read where a written piece lies ahead, with
anything after it at which the piece stops.

The induction is on the regular tree. Inside it the items of a list, and the
members of a record, are read one after the other.

Main definitions:

* `Json.Stops` — what may lie behind a value;
* `Json.ReadsBack` — a value is read back wherever it is written.

Main results:

* `Json.readText_writeText` — texts;
* `Json.readNumber_toDigits` — numbers;
* `Json.read_write` — regular trees.
-/

namespace StreamVerdict.Json

open StreamVerdict.Tree (Regular)

/-! ## Texts -/

/-- Four digits are read, whatever lies behind them. -/
theorem readUnit_append {digits : List Char} {n : Nat} (h : readUnit digits = some (n, []))
    (rest : List Char) : readUnit (digits ++ rest) = some (n, rest) := by
  match digits, h with
  | a :: b :: c :: d :: more, h =>
    simp only [readUnit, Option.bind_eq_bind, Option.bind_eq_some_iff] at h
    obtain ⟨a', ha, b', hb, c', hc, d', hd, hn⟩ := h
    obtain ⟨rfl, rfl⟩ : _ = n ∧ more = [] := by simpa using hn
    simp [readUnit, ha, hb, hc, hd]

/-- A control without a letter of its own is read back as its code. -/
theorem readUnit_unitEscape {n : Nat} (h : n < 0x20) (rest : List Char) :
    ∃ digits, unitEscape n = '\\' :: 'u' :: digits ∧
      readUnit (digits ++ rest) = some (n, rest) := by
  have hAll : ∀ n < 0x20, readUnit ((unitEscape n).drop 2) = some (n, []) := by decide
  exact ⟨_, rfl, readUnit_append (hAll n h) rest⟩

/-- An escape of one letter is read as the character that it stands for. -/
theorem readUnits_simpleEscape {e c : Char} (h : simpleEscape? e = some c) (he : e ≠ 'u')
    (fuel : Nat) (rest : List Char) :
    readUnits (fuel + 1) ('\\' :: e :: rest) =
      (readUnits fuel rest).map fun (units, rest) => (.inl c :: units, rest) := by
  rw [readUnits.eq_5 _ _ _ (by simpa using he), h]
  cases readUnits fuel rest <;> rfl

/-- The code of a control stands for it. -/
theorem joinUnits_control {c : Char} (h : c.toNat < 0x20) (units : List (Char ⊕ Nat)) :
    joinUnits (.inr c.toNat :: units) = (joinUnits units).map (c :: ·) := by
  have hLow : ¬ (0xD800 ≤ c.toNat ∧ c.toNat < 0xDC00) := by omega
  have hHigh : ¬ (0xDC00 ≤ c.toNat ∧ c.toNat < 0xE000) := by omega
  rcases units with _ | ⟨_ | _, _⟩ <;> simp [joinUnits, hLow, hHigh]

/-- A character is read back as one unit, which stands for it. -/
theorem exists_unit (c : Char) : ∃ unit : Char ⊕ Nat,
    (∀ units, joinUnits (unit :: units) = (joinUnits units).map (c :: ·)) ∧
      ∀ fuel rest, readUnits (fuel + 1) (writeChar c ++ rest) =
        (readUnits fuel rest).map fun (units, rest) => (unit :: units, rest) := by
  unfold writeChar
  split
  · -- the characters that have a short escape
    exact ⟨.inl '"', fun _ => rfl, readUnits_simpleEscape rfl (by decide)⟩
  · exact ⟨.inl '\\', fun _ => rfl, readUnits_simpleEscape rfl (by decide)⟩
  · exact ⟨.inl '\x08', fun _ => rfl, readUnits_simpleEscape rfl (by decide)⟩
  · exact ⟨.inl '\x0c', fun _ => rfl, readUnits_simpleEscape rfl (by decide)⟩
  · exact ⟨.inl '\n', fun _ => rfl, readUnits_simpleEscape rfl (by decide)⟩
  · exact ⟨.inl '\r', fun _ => rfl, readUnits_simpleEscape rfl (by decide)⟩
  · exact ⟨.inl '\t', fun _ => rfl, readUnits_simpleEscape rfl (by decide)⟩
  next hQuote hBackslash _ _ _ _ _ =>
    by_cases hControl : c.toNat < 0x20
    · -- another control character is written as `\u00..`
      refine ⟨.inr c.toNat, joinUnits_control hControl, fun fuel rest => ?_⟩
      obtain ⟨digits, hDigits, hRead⟩ := readUnit_unitEscape hControl rest
      rw [if_pos hControl, hDigits, List.cons_append, List.cons_append, readUnits, hRead]
      simp only [Option.bind_eq_bind, Option.bind_some]
      cases readUnits fuel rest <;> rfl
    · -- any other character stands for itself
      refine ⟨.inl c, fun _ => rfl, fun fuel rest => ?_⟩
      have hPlain : ¬ (c = '\\' ∨ c.toNat < 0x20) := not_or.mpr ⟨hBackslash, hControl⟩
      rw [if_neg hControl, List.singleton_append, readUnits.eq_6 _ _ _ hQuote
        (fun _ h _ => hBackslash h) (fun _ _ h _ => hBackslash h), if_neg (by simpa using hPlain)]
      cases readUnits fuel rest <;> rfl

/-- The characters of a text are read back up to the closing quote. -/
theorem exists_units (s : List Char) : ∃ units, joinUnits units = some s ∧
    ∀ fuel rest, s.length < fuel →
      readUnits fuel (s.flatMap writeChar ++ '"' :: rest) = some (units, rest) := by
  induction s with
  | nil =>
    refine ⟨[], rfl, fun fuel rest hFuel => ?_⟩
    obtain ⟨fuel, rfl⟩ := Nat.exists_eq_add_one.mpr hFuel
    rfl
  | cons c s ih =>
    obtain ⟨units, hJoin, hRead⟩ := ih
    obtain ⟨unit, hUnit, hReadUnit⟩ := exists_unit c
    refine ⟨unit :: units, by rw [hUnit, hJoin]; rfl, fun fuel rest hFuel => ?_⟩
    obtain ⟨fuel, rfl⟩ := Nat.exists_eq_add_one.mpr (Nat.zero_lt_of_lt hFuel)
    rw [List.flatMap_cons, List.append_assoc, hReadUnit,
      hRead fuel rest (Nat.lt_of_succ_lt_succ hFuel)]
    rfl

theorem length_le_flatMap_writeChar (s : List Char) :
    s.length ≤ (s.flatMap writeChar).length := by
  induction s with
  | nil => exact Nat.zero_le _
  | cons c s ih =>
    have hPos : 0 < (writeChar c).length := by
      unfold writeChar
      split <;> try exact Nat.zero_lt_succ _
      split
      · exact Nat.zero_lt_succ _
      · exact Nat.zero_lt_succ _
    rw [List.flatMap_cons, List.length_append, List.length_cons]
    omega

theorem toList_writeText (s : String) :
    (writeText s).toList = '"' :: (s.toList.flatMap writeChar ++ ['"']) := by
  simp [writeText]

/-- A text is read back after its opening quote. -/
theorem readText_writeText (s : String) (rest : List Char) :
    readText (s.toList.flatMap writeChar ++ '"' :: rest) = some (some s, rest) := by
  obtain ⟨units, hJoin, hRead⟩ := exists_units s.toList
  have hLength := length_le_flatMap_writeChar s.toList
  rw [readText, hRead _ _ (by rw [List.length_append]; omega)]
  simp [hJoin]

/-! ## Numbers -/

/-- What may lie behind a value: the end of the text, or what separates or closes values. -/
def Stops (rest : List Char) : Prop :=
  ∀ c ∈ rest.head?, c = ',' ∨ c = ']' ∨ c = '\x7d'

theorem stops_cons {c : Char} (h : c = ',' ∨ c = ']' ∨ c = '\x7d') (rest : List Char) :
    Stops (c :: rest) := by
  rintro _ ⟨⟩
  exact h

theorem Stops.isDigit_eq_false {rest : List Char} (h : Stops rest) :
    ∀ c ∈ rest.head?, c.isDigit = false := by
  intro c hc
  rcases h c hc with rfl | rfl | rfl <;> rfl

/-- The digits of a number are read up to where it stops. -/
theorem readWhole_toDigits (n : Nat) {rest : List Char} (hRest : Stops rest) :
    readWhole (Nat.toDigits 10 n ++ rest) = some (Nat.toDigits 10 n, rest) := by
  have hDigits : ∀ c ∈ Nat.toDigits 10 n, c.isDigit = true := fun _ => Text.isDigit_of_mem
  rw [readWhole, readDigits1, Text.takeWhile_run hDigits hRest.isDigit_eq_false,
    Text.dropWhile_run hDigits hRest.isDigit_eq_false]
  rcases Text.toDigits_cases n with ⟨-, hZero⟩ | ⟨c, cs, hcs, -, hc⟩
  · rw [hZero]
    rfl
  · rw [hcs]
    simp [hc]

/-- A number within reach is read back. -/
theorem readNumber_toDigits {n : Nat} (hn : n ≤ Text.maxWord) {rest : List Char}
    (hRest : Stops rest) :
    readNumber false (Nat.toDigits 10 n ++ rest) = some (.int n, rest) := by
  have hTree : wholeTree false (Nat.toDigits 10 n) = .int n := by
    simp [wholeTree, digitsValue_toDigits, hn]
  rw [readNumber, readWhole_toDigits n hRest, ← hTree]
  cases rest with
  | nil => rfl
  | cons c rest => rcases hRest c rfl with rfl | rfl | rfl <;> rfl

/-! ## Values -/

theorem writeItems_eq (items : List Tree) : writeItems items = items.map write := by
  induction items with
  | nil => rfl
  | cons t ts ih => rw [writeItems, ih, List.map_cons]

theorem writeMembers_eq (members : List (String × Tree)) :
    writeMembers members = members.map fun m => writeText m.1 ++ ":" ++ write m.2 := by
  induction members with
  | nil => rfl
  | cons m ms ih => rw [writeMembers, ih, List.map_cons]

theorem toList_write_int (n : Nat) : (write (.int n)).toList = Nat.toDigits 10 n := by
  rw [write, Text.toList_toString]

theorem toList_write_list (items : List Tree) : (write (.list items)).toList =
    '[' :: ((",".intercalate (items.map write)).toList ++ [']']) := by
  rw [write, writeItems_eq, String.toList_append, String.toList_append]
  rfl

/-- A member of a record, with its name. -/
def writeMember (m : String × Tree) : String :=
  writeText m.1 ++ ":" ++ write m.2

theorem toList_write_record (members : List (String × Tree)) : (write (.record members)).toList =
    '\x7b' :: ((",".intercalate (members.map writeMember)).toList ++ ['\x7d']) := by
  rw [write, writeMembers_eq, String.toList_append, String.toList_append]
  rfl

theorem toList_writeMember (m : String × Tree) : (writeMember m).toList =
    '"' :: (m.1.toList.flatMap writeChar ++ '"' :: ':' :: (write m.2).toList) := by
  simp [writeMember, toList_writeText]

theorem toList_intercalate_cons (s s' : String) (ss : List String) :
    (",".intercalate (s :: s' :: ss)).toList =
      s.toList ++ ',' :: (",".intercalate (s' :: ss)).toList :=
  Text.toList_intercalate_cons "," s s' ss

theorem skipBlanks_of_isDigit {c : Char} (h : c.isDigit = true) (rest : List Char) :
    skipBlanks (c :: rest) = c :: rest := by
  have hBlank : ¬ (c = ' ' ∨ c = '\n' ∨ c = '\t' ∨ c = '\r') := by
    rintro (rfl | rfl | rfl | rfl) <;> cases h
  rw [skipBlanks, List.dropWhile_cons_of_neg (by simpa [or_assoc] using hBlank)]

/-- No regular tree begins with a blank or with what closes a list. -/
theorem exists_head {d : Nat} {t : Tree} (h : Regular d t) :
    ∃ c cs, (write t).toList = c :: cs ∧ c ≠ ']' ∧ ∀ rest, skipBlanks (c :: rest) = c :: rest := by
  cases h with
  | bool b => cases b <;> exact ⟨_, _, rfl, by decide, fun _ => rfl⟩
  | int n =>
    obtain ⟨c, cs, hcs⟩ := List.exists_cons_of_ne_nil (Nat.toDigits_ne_nil (n := n) (b := 10))
    have hc : c.isDigit = true := Text.isDigit_of_mem (n := n) (by simp [hcs])
    have hne : c ≠ ']' := by
      rintro rfl
      cases hc
    exact ⟨c, cs, (toList_write_int n).trans hcs, hne, skipBlanks_of_isDigit hc⟩
  | text s => exact ⟨_, _, toList_writeText s, by decide, fun _ => rfl⟩
  | list _ => exact ⟨_, _, toList_write_list _, by decide, fun _ => rfl⟩
  | record _ _ => exact ⟨_, _, toList_write_record _, by decide, fun _ => rfl⟩

/-- A value is read back inside some containers, wherever it is written. -/
def ReadsBack (depth : Nat) (t : Tree) : Prop :=
  ∀ fuel rest, 2 * (write t).toList.length ≤ fuel → Stops rest →
    readValue depth fuel ((write t).toList ++ rest) = some (t, rest)

/-- The items of a list are read back one after the other. -/
theorem readItems_write {depth : Nat} {items : List Tree} (hne : items ≠ [])
    (hItems : ∀ t ∈ items, ReadsBack depth t) (fuel : Nat)
    (hFuel : 2 * (",".intercalate (items.map write)).toList.length < fuel) (rest : List Char) :
    readItems depth fuel ((",".intercalate (items.map write)).toList ++ ']' :: rest) =
      some (items, rest) := by
  induction items generalizing fuel with
  | nil => exact absurd rfl hne
  | cons t ts ih =>
    obtain ⟨fuel, rfl⟩ := Nat.exists_eq_add_one.mpr (Nat.zero_lt_of_lt hFuel)
    cases ts with
    | nil =>
      -- the last item, before the bracket
      rw [List.map_singleton, String.intercalate_singleton] at hFuel ⊢
      rw [readItems, hItems t List.mem_cons_self fuel _ (by omega) (stops_cons (by simp) _)]
      rfl
    | cons t' ts =>
      -- an item before a comma, and the rest by `ih`
      rw [List.map_cons, List.map_cons, toList_intercalate_cons, List.length_append,
        List.length_cons] at hFuel
      have hRest := ih (by simp) (fun u hu => hItems u (List.mem_cons_of_mem _ hu)) fuel
        (by rw [List.map_cons]; omega)
      have hComma (cs : List Char) : skipBlanks (',' :: cs) = ',' :: cs := rfl
      rw [List.map_cons, List.map_cons, toList_intercalate_cons, List.append_assoc,
        List.cons_append, readItems,
        hItems t List.mem_cons_self fuel _ (by omega) (stops_cons (by simp) _)]
      simp only [Option.bind_eq_bind, Option.bind_some, hComma]
      rw [← List.map_cons, hRest]
      rfl

/-- A member is read back up to what separates it from the next or closes the record. -/
theorem readMembers_write {depth : Nat} {members : List (String × Tree)} (hne : members ≠ [])
    (hMembers : ∀ m ∈ members, ReadsBack depth m.2) (fuel : Nat)
    (hFuel : 2 * (",".intercalate (members.map writeMember)).toList.length < fuel)
    (rest : List Char) :
    readMembers depth fuel
        ((",".intercalate (members.map writeMember)).toList ++ '\x7d' :: rest) =
      some (some members, rest) := by
  induction members generalizing fuel with
  | nil => exact absurd rfl hne
  | cons m ms ih =>
    obtain ⟨fuel, rfl⟩ := Nat.exists_eq_add_one.mpr (Nat.zero_lt_of_lt hFuel)
    have hQuote (cs : List Char) : skipBlanks ('"' :: cs) = '"' :: cs := rfl
    have hColon (cs : List Char) : skipBlanks (':' :: cs) = ':' :: cs := rfl
    have hLength : (write m.2).toList.length + 2 ≤ (writeMember m).toList.length := by
      rw [toList_writeMember]
      simp only [List.length_cons, List.length_append]
      omega
    cases ms with
    | nil =>
      -- the last member, before the brace
      rw [List.map_singleton, String.intercalate_singleton] at hFuel ⊢
      have hValue := hMembers m List.mem_cons_self fuel ('\x7d' :: rest) (by omega)
        (stops_cons (by simp) _)
      have hBrace (cs : List Char) : skipBlanks ('\x7d' :: cs) = '\x7d' :: cs := rfl
      simp only [toList_writeMember, List.cons_append, List.append_assoc, readMembers, hQuote,
        readText_writeText, hColon, hValue, hBrace, Option.bind_eq_bind, Option.bind_some]
      rfl
    | cons m' ms =>
      -- a member before a comma, and the rest by `ih`
      rw [List.map_cons, List.map_cons, toList_intercalate_cons, List.length_append,
        List.length_cons] at hFuel
      have hRest := ih (by simp) (fun u hu => hMembers u (List.mem_cons_of_mem _ hu)) fuel
        (by rw [List.map_cons]; omega)
      have hValue := hMembers m List.mem_cons_self fuel
        (',' :: ((",".intercalate ((m' :: ms).map writeMember)).toList ++ '\x7d' :: rest))
        (by omega) (stops_cons (by simp) _)
      have hComma (cs : List Char) : skipBlanks (',' :: cs) = ',' :: cs := rfl
      rw [List.map_cons, List.map_cons, toList_intercalate_cons, ← List.map_cons]
      simp only [toList_writeMember, List.cons_append, List.append_assoc, readMembers, hQuote,
        readText_writeText, hColon, hValue, hComma, hRest, Option.bind_eq_bind, Option.bind_some]
      rfl

theorem atDepth_of_le {depth : Nat} (h : depth ≤ maxDepth) (t : Tree) : atDepth depth t = t :=
  if_neg (Nat.not_lt.mpr h)

theorem readValue_digit {c : Char} (h : c.isDigit = true) (depth fuel : Nat) (cs : List Char) :
    readValue depth (fuel + 1) (c :: cs) = readNumber false (c :: cs) := by
  have hne {c' : Char} {cs' : List Char} (hc' : c'.isDigit = false) : c :: cs ≠ c' :: cs' := by
    rintro ⟨⟩
    rw [h] at hc'
    cases hc'
  rw [readValue, skipBlanks_of_isDigit h]
  split
  case h_8 => rfl
  all_goals next hEq => exact absurd hEq (hne rfl)

/-- A list is read back if its items are. -/
theorem readValue_list {depth fuel d : Nat} (hDepth : depth + 1 ≤ maxDepth) {items : List Tree}
    (hRegular : ∀ t ∈ items, Regular d t) (hItems : ∀ t ∈ items, ReadsBack (depth + 1) t)
    (hFuel : 2 * (write (.list items)).toList.length ≤ fuel) (rest : List Char) :
    readValue depth fuel ((write (.list items)).toList ++ rest) = some (.list items, rest) := by
  have hBracket (cs : List Char) : skipBlanks ('[' :: cs) = '[' :: cs := rfl
  rw [toList_write_list, List.length_cons, List.length_append] at hFuel
  rw [toList_write_list, List.cons_append, List.append_assoc, List.singleton_append]
  obtain ⟨fuel, rfl⟩ : ∃ k, fuel = k + 1 := Nat.exists_eq_add_one.mpr (by omega)
  rw [readValue, hBracket]
  cases items with
  | nil =>
    have hClose : skipBlanks (']' :: rest) = ']' :: rest := rfl
    simp [hClose, atDepth_of_le hDepth]
  | cons t ts =>
    have hRead := readItems_write (List.cons_ne_nil t ts) hItems fuel (by omega) rest
    -- the first item does not start with the bracket that ends an empty list
    obtain ⟨c, cs, hcs, hc, hSkip⟩ := exists_head (hRegular t List.mem_cons_self)
    obtain ⟨more, hMore⟩ := Text.exists_intercalate_eq "," (write t) (ts.map write)
    rw [List.map_cons, hMore, hcs, List.cons_append, List.cons_append] at hRead ⊢
    simp only [hSkip]
    split
    next hEq => exact absurd (List.cons.inj hEq).1 hc
    next => simp only [hRead, Option.bind_eq_bind, Option.bind_some, atDepth_of_le hDepth]

/-- A record is read back if its members are. -/
theorem readValue_record {depth fuel : Nat} (hDepth : depth + 1 ≤ maxDepth)
    {members : List (String × Tree)} (hMembers : ∀ m ∈ members, ReadsBack (depth + 1) m.2)
    (hFuel : 2 * (write (.record members)).toList.length ≤ fuel) (rest : List Char) :
    readValue depth fuel ((write (.record members)).toList ++ rest) =
      some (.record members, rest) := by
  have hBrace (cs : List Char) : skipBlanks ('\x7b' :: cs) = '\x7b' :: cs := rfl
  rw [toList_write_record, List.length_cons, List.length_append] at hFuel
  rw [toList_write_record, List.cons_append, List.append_assoc, List.singleton_append]
  obtain ⟨fuel, rfl⟩ : ∃ k, fuel = k + 1 := Nat.exists_eq_add_one.mpr (by omega)
  rw [readValue, hBrace]
  cases members with
  | nil =>
    have hClose : skipBlanks ('\x7d' :: rest) = '\x7d' :: rest := rfl
    simp [hClose, atDepth_of_le hDepth]
  | cons m ms =>
    have hQuote (cs : List Char) : skipBlanks ('"' :: cs) = '"' :: cs := rfl
    have hRead := readMembers_write (List.cons_ne_nil m ms) hMembers fuel (by omega) rest
    obtain ⟨more, hMore⟩ := Text.exists_intercalate_eq "," (writeMember m) (ms.map writeMember)
    rw [List.map_cons, hMore, toList_writeMember, List.cons_append, List.cons_append] at hRead ⊢
    simp only [hQuote]
    -- nor is the quote of the first name the brace that ends an empty record
    split
    next hEq => exact absurd (List.cons.inj hEq).1 (by decide)
    next => simp only [hRead, Option.bind_eq_bind, Option.bind_some, atDepth_of_le hDepth]

/-- Every regular tree is read back inside some containers, if it is not nested too deeply. -/
theorem readsBack_of_regular {d : Nat} {t : Tree} (h : Regular d t)
    (hInts : ∀ i ∈ t.ints, i ≤ Text.maxWord) {depth : Nat} (hDepth : depth + d ≤ maxDepth) :
    ReadsBack depth t := by
  -- items and members are read one level deeper, and are nested one level less
  induction h generalizing depth with
  | bool b =>
    intro fuel rest hFuel _
    cases b with
    | true =>
      change 2 * 4 ≤ fuel at hFuel
      obtain ⟨fuel, rfl⟩ : ∃ k, fuel = k + 1 := Nat.exists_eq_add_one.mpr (by omega)
      rfl
    | false =>
      change 2 * 5 ≤ fuel at hFuel
      obtain ⟨fuel, rfl⟩ : ∃ k, fuel = k + 1 := Nat.exists_eq_add_one.mpr (by omega)
      rfl
  | int n =>
    intro fuel rest hFuel hRest
    have hn : n ≤ Text.maxWord := Int.ofNat_le.mp (hInts n (by simp))
    have hNumber := readNumber_toDigits hn hRest
    obtain ⟨c, cs, hcs⟩ := List.exists_cons_of_ne_nil (Nat.toDigits_ne_nil (n := n) (b := 10))
    have hc : c.isDigit = true := Text.isDigit_of_mem (n := n) (by simp [hcs])
    rw [toList_write_int, hcs, List.length_cons] at hFuel
    obtain ⟨fuel, rfl⟩ : ∃ k, fuel = k + 1 := Nat.exists_eq_add_one.mpr (by omega)
    rw [hcs, List.cons_append] at hNumber
    rw [toList_write_int, hcs, List.cons_append, readValue_digit hc, hNumber]
  | text s =>
    intro fuel rest hFuel _
    have hQuote (cs : List Char) : skipBlanks ('"' :: cs) = '"' :: cs := rfl
    rw [write, toList_writeText, List.length_cons] at hFuel
    obtain ⟨fuel, rfl⟩ : ∃ k, fuel = k + 1 := Nat.exists_eq_add_one.mpr (by omega)
    simp [write, toList_writeText, readValue, hQuote, readText_writeText]
  | @list d items hItems ih =>
    intro fuel rest hFuel _
    refine readValue_list (by omega) hItems (fun t ht => ih t ht (fun i hi => ?_) (by omega))
      hFuel rest
    exact hInts i (by rw [Tree.ints_list]; exact List.mem_flatMap.mpr ⟨t, ht, hi⟩)
  | @record d members hNames hMembers ih =>
    intro fuel rest hFuel _
    refine readValue_record (by omega) (fun m hm => ih m hm (fun i hi => ?_) (by omega)) hFuel rest
    exact hInts i (by rw [Tree.ints_record]; exact List.mem_flatMap.mpr ⟨m, hm, hi⟩)

/-- **JSON texts are read back.** Every regular tree whose integers have no more
than 64 bits, and which is not nested too deeply, is read back from its text. -/
theorem read_write {d : Nat} {t : Tree} (h : Regular d t) (hd : d ≤ maxDepth)
    (hInts : ∀ i ∈ t.ints, i ≤ Text.maxWord) : read (write t) = some t := by
  have hBack := readsBack_of_regular h hInts (show 0 + d ≤ maxDepth by omega)
    (2 * (write t).toList.length + 2) [] (by omega) (by rintro _ ⟨⟩)
  rw [List.append_nil] at hBack
  rw [read]
  dsimp only
  rw [hBack]
  rfl

end StreamVerdict.Json
