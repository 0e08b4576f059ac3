import StreamVerdict.Proofs.Toml.Key
import StreamVerdict.Proofs.Toml.Table

/-!
# Values are read back

What stands on the right of a key is a text, a number, a truth value, a list in
brackets or a table in braces. Every regular tree that can be written there is
read back, if it is not nested too deeply.

Main definitions:

* `Toml.ReadsBack` — a value is read back wherever it is written.

Main results:

* `Toml.readScalar_toDigits` — numbers;
* `Toml.readItems_lines` / `Toml.readMembers_written` — items and members;
* `Toml.readsBack_of_regular` — regular trees.
-/

namespace StreamVerdict.Toml

open StreamVerdict.Tree (Regular)

/-! ## Numbers -/

theorem readDigits_run {p : Char → Bool} (hUnderscore : p '_' = false) {c : Char}
    {digits : List Char} (hDigits : ∀ d ∈ c :: digits, p d = true) {rest : List Char}
    (hRest : ∀ d ∈ rest.head?, p d = false ∧ d ≠ '_') :
    readDigits p (c :: (digits ++ rest)) = some (c :: digits, rest) := by
  have hRun : ∀ (c : Char) (digits : List Char), (∀ d ∈ digits, p d = true) →
      readDigits.rest p c (digits ++ rest) = (c :: digits, rest) := by
    intro c digits hDigits
    induction digits generalizing c with
    | nil =>
      cases rest with
      | nil => rfl
      | cons d rest =>
        obtain ⟨hd, hne⟩ := hRest d rfl
        rw [List.nil_append, readDigits.rest, if_neg (by simp [hd])]
        exact fun _ _ hEq => absurd hEq hne
    | cons d digits ih =>
      have hd := hDigits d List.mem_cons_self
      have hne : d ≠ '_' := by
        rintro rfl
        rw [hd] at hUnderscore
        cases hUnderscore
      rw [List.cons_append, readDigits.rest, if_pos hd,
        ih d fun e he => hDigits e (List.mem_cons_of_mem _ he)]
      exact fun _ _ hEq => absurd hEq hne
  -- what the run reads behind the first digit
  rw [readDigits, if_pos (hDigits c List.mem_cons_self),
    hRun c digits fun d hd => hDigits d (List.mem_cons_of_mem _ hd)]

theorem Stops.isDigit_eq_false {rest : List Char} (h : Stops rest) :
    ∀ c ∈ rest.head?, c.isDigit = false := by
  intro c hc
  rcases h c hc with rfl | rfl | rfl | rfl <;> rfl

/-- The digits of a number are read up to where it stops. -/
theorem readWhole_toDigits (n : Nat) {rest : List Char} (hRest : Stops rest) :
    readWhole (Nat.toDigits 10 n ++ rest) = some (Nat.toDigits 10 n, rest) := by
  rcases Text.toDigits_cases n with ⟨-, hZero⟩ | ⟨c, cs, hcs, hc, hne⟩
  · rw [hZero]
    rfl
  · have hDigits : ∀ d ∈ c :: cs, d.isDigit = true := by
      rw [← hcs]
      exact fun _ => Text.isDigit_of_mem
    rw [hcs, List.cons_append, readWhole, readDigits_run rfl hDigits]
    · exact fun d hd => ⟨hRest.isDigit_eq_false d hd, hRest.head_ne (by decide) d hd⟩
    · exact fun _ hEq => absurd (List.cons.inj hEq).1 hne

/-- A number is no date: no dash and no colon follows its digits. -/
theorem isMoment_toDigits (n : Nat) {rest : List Char} (hRest : Stops rest) :
    isMoment (Nat.toDigits 10 n ++ rest) = false := by
  have hTake : (Nat.toDigits 10 n ++ rest).takeWhile Char.isDigit = Nat.toDigits 10 n :=
    Text.takeWhile_run (fun _ => Text.isDigit_of_mem) hRest.isDigit_eq_false
  -- the character behind the digits is the first of the rest, which is no part of a date
  have hNext {k : Nat} (hk : (Nat.toDigits 10 n).length = k) :
      (Nat.toDigits 10 n ++ rest)[k]? = rest.head? := by
    rw [List.getElem?_append_right (by omega), hk, Nat.sub_self, List.head?_eq_getElem?]
  have hDash : rest.head? ≠ some '-' := fun h => hRest.head_ne (by decide) '-' h rfl
  have hColon : rest.head? ≠ some ':' := fun h => hRest.head_ne (by decide) ':' h rfl
  unfold isMoment
  rw [hTake]
  simp only [Bool.or_eq_false_iff, Bool.and_eq_false_imp, decide_eq_true_eq,
    decide_eq_false_iff_not]
  exact ⟨fun h => by rw [hNext h]; exact hDash, fun h => by rw [hNext h]; exact hColon⟩

theorem toDigits_append_ne (n : Nat) {rest : List Char} (hRest : Stops rest) {d : Char}
    (hd : d ≠ '\n' ∧ d ≠ ' ' ∧ d ≠ ',' ∧ d ≠ ']') (cs : List Char) :
    Nat.toDigits 10 n ++ rest ≠ '0' :: d :: cs := by
  intro hEq
  rcases Text.toDigits_cases n with ⟨-, hZero⟩ | ⟨c, cs', hcs, -, hne⟩
  · rw [hZero] at hEq
    have hTail : rest = d :: cs := (List.cons.inj hEq).2
    exact hRest.head_ne hd d (by rw [hTail]; rfl) rfl
  · rw [hcs] at hEq
    exact hne (List.cons.inj hEq).1

theorem toDigits_append_ne_cons (n : Nat) (rest : List Char) {d : Char} (hd : d.isDigit = false)
    (cs : List Char) : Nat.toDigits 10 n ++ rest ≠ d :: cs := by
  obtain ⟨c, cs', hcs⟩ := List.exists_cons_of_ne_nil (Nat.toDigits_ne_nil (n := n) (b := 10))
  have hc : c.isDigit = true := Text.isDigit_of_mem (n := n) (by simp [hcs])
  rw [hcs]
  intro hEq
  rw [(List.cons.inj hEq).1, hd] at hc
  cases hc

theorem readSign_toDigits (n : Nat) (rest : List Char) :
    readSign (Nat.toDigits 10 n ++ rest) = (false, Nat.toDigits 10 n ++ rest) := by
  unfold readSign
  split
  next hEq => exact absurd hEq (toDigits_append_ne_cons n rest rfl _)
  next hEq => exact absurd hEq (toDigits_append_ne_cons n rest rfl _)
  next => rfl

theorem readSpecial_toDigits (n : Nat) (rest : List Char) :
    readSpecial (Nat.toDigits 10 n ++ rest) = none := by
  rw [readSpecial, readSign_toDigits]
  dsimp only
  split
  next hEq => exact absurd hEq (toDigits_append_ne_cons n rest rfl _)
  next hEq => exact absurd hEq (toDigits_append_ne_cons n rest rfl _)
  next => rfl

/-- A number within reach is read back. -/
theorem readScalar_toDigits {n : Nat} (hn : n < Text.signedHalf) {rest : List Char}
    (hRest : Stops rest) : readScalar (Nat.toDigits 10 n ++ rest) = some (.int n, rest) := by
  have hSign := readSign_toDigits n rest
  have hSpecial := readSpecial_toDigits n rest
  have hInteger : integer? false (digitsValue 10 (Nat.toDigits 10 n)) = some (.int n) := by
    rw [digitsValue_toDigits, integer?, if_neg (by decide), if_pos hn]
  have hDecimal : readDecimal (Nat.toDigits 10 n ++ rest) = some (.int n, rest) := by
    unfold readDecimal
    simp only [hSign, readWhole_toDigits n hRest, Option.bind_eq_bind, Option.bind_some]
    -- what can follow a value does not go on with the number
    cases rest with
    | nil => simp [hInteger]
    | cons c rest => rcases hRest c rfl with rfl | rfl | rfl | rfl <;> simp [hInteger]
  -- no other base, no date and no word for a number lies ahead
  unfold readScalar
  split
  next hEq => exact absurd hEq (toDigits_append_ne n hRest (by decide) _)
  next hEq => exact absurd hEq (toDigits_append_ne n hRest (by decide) _)
  next hEq => exact absurd hEq (toDigits_append_ne n hRest (by decide) _)
  next => simp [isMoment_toDigits n hRest, hSpecial, hDecimal]

/-! ## Values -/

/-- What a value may begin with. -/
def BeginsValue (c : Char) : Prop :=
  c.isDigit = true ∨ c = 't' ∨ c = 'f' ∨ c = '"' ∨ c = '\'' ∨ c = '[' ∨ c = '\x7b'

theorem BeginsValue.ne {c d : Char} (h : BeginsValue c)
    (hd : d.isDigit = false ∧ d ≠ 't' ∧ d ≠ 'f' ∧ d ≠ '"' ∧ d ≠ '\'' ∧ d ≠ '[' ∧ d ≠ '\x7b') :
    c ≠ d := by
  rintro rfl
  rcases h with h | h | h | h | h | h | h <;> simp_all

theorem BeginsValue.isSpace_eq_false {c : Char} (h : BeginsValue c) : isSpace c = false := by
  simp [isSpace, h.ne (d := ' ') (by decide), h.ne (d := '\t') (by decide)]

theorem skipSpace_of_beginsValue {c : Char} (h : BeginsValue c) (cs : List Char) :
    skipSpace (c :: cs) = c :: cs :=
  skipSpace_of_isSpace_eq_false h.isSpace_eq_false cs

/-- A line that begins with anything but a blank, a comment or a line end is kept. -/
theorem skipLines_of_ne {c : Char} (hSpace : isSpace c = false) (hComment : c ≠ '#')
    (hLine : c ≠ '\n') (hReturn : c ≠ '\r') (fuel : Nat) (cs : List Char) :
    skipLines fuel (c :: cs) = c :: cs := by
  cases fuel with
  | zero => rfl
  | succ fuel =>
    rw [skipLines]
    simp only [skipSpace_of_isSpace_eq_false hSpace, newline?_of_ne hLine hReturn]
    split
    next hEq => exact absurd (List.cons.inj hEq).1 hComment
    next => rfl

theorem skipLines_of_beginsValue {c : Char} (h : BeginsValue c) (fuel : Nat) (cs : List Char) :
    skipLines fuel (c :: cs) = c :: cs :=
  skipLines_of_ne h.isSpace_eq_false (h.ne (by decide)) (h.ne (by decide)) (h.ne (by decide))
    fuel cs

theorem skipLines_newline (fuel : Nat) (cs : List Char) :
    skipLines (fuel + 1) ('\n' :: cs) = skipLines fuel cs := rfl

/-- The line end and the blanks before an item are skipped. -/
theorem skipLines_indent {c : Char} (h : BeginsValue c) (fuel : Nat) (cs : List Char) :
    skipLines (fuel + 2) ("\n    ".toList ++ c :: cs) = c :: cs := by
  have hIndent : skipSpace ("    ".toList ++ c :: cs) = c :: cs :=
    skipSpace_of_beginsValue h cs
  have hItem := skipLines_of_beginsValue h (fuel + 1) cs
  change skipLines (fuel + 1) ("    ".toList ++ c :: cs) = c :: cs
  rw [skipLines, skipSpace_of_beginsValue h] at hItem
  rw [skipLines, hIndent]
  exact hItem

/-- The items of a list, each on a line of its own if there are several. -/
def brackets : List String → String
  | [] => "[]"
  | [item] => "[" ++ item ++ "]"
  | items => "[" ++ String.join (items.map fun s => "\n    " ++ s ++ ",") ++ "\n]"

/-- The members of a table in braces. -/
def braces : List String → String
  | [] => "\x7b\x7d"
  | members => "\x7b " ++ ", ".intercalate members ++ " \x7d"

/-- A member on the right of its key. -/
def writeMember (key value : String) : String :=
  writeKey key ++ " = " ++ value

theorem writeItems_eq (items : List Tree) : writeItems items = items.mapM writeValue := by
  induction items with
  | nil => rfl
  | cons t ts ih => rw [writeItems, ih, List.mapM_cons]; rfl

theorem writeInline_eq (members : List (String × Tree)) :
    writeInline members = members.mapM fun m => (writeValue m.2).map (writeMember m.1) := by
  induction members with
  | nil => rfl
  | cons m ms ih =>
    rw [writeInline, ih, List.mapM_cons]
    cases writeValue m.2 <;> rfl

theorem writeValue_list (items : List Tree) :
    writeValue (.list items) = (items.mapM writeValue).map brackets := by
  rw [writeValue, writeItems_eq]
  cases items.mapM writeValue with
  | none => rfl
  | some ss => rcases ss with _ | ⟨s, _ | ⟨s', ss⟩⟩ <;> rfl

theorem writeValue_record (members : List (String × Tree)) :
    writeValue (.record members) = (writeInline members).map braces := by
  rw [writeValue]
  cases writeInline members with
  | none => rfl
  | some ss => cases ss <;> rfl

/-- A text is read back as a value inside some containers, wherever it is written. -/
structure ReadsBack (depth : Nat) (t : Tree) (s : String) : Prop where
  begins : ∃ c cs, s.toList = c :: cs ∧ BeginsValue c
  read : ∀ fuel rest, 2 * s.toList.length ≤ fuel → Stops rest →
    readValue depth fuel (s.toList ++ rest) = some (t, rest)

/-! ### Lists -/

/-- An item on a line of its own. -/
def itemLine (s : String) : List Char :=
  "\n    ".toList ++ s.toList ++ [',']

theorem toList_brackets (s s' : String) (ss : List String) :
    (brackets (s :: s' :: ss)).toList =
      '[' :: ((s :: s' :: ss).flatMap itemLine ++ ['\n', ']']) := by
  have hJoin (ss : List String) :
      (String.join (ss.map fun s => "\n    " ++ s ++ ",")).toList = ss.flatMap itemLine := by
    rw [String.toList_join, List.flatMap_map]
    simp only [String.toList_append]
    rfl
  rw [brackets, String.toList_append, String.toList_append, hJoin]
  · simp
  · nofun
  · nofun

theorem skipLines_bracket (fuel : Nat) (rest : List Char) :
    skipLines fuel (']' :: rest) = ']' :: rest :=
  skipLines_of_ne rfl (by decide) (by decide) (by decide) fuel rest

/-- An only item is read back. -/
theorem readItems_single {depth : Nat} {t : Tree} {s : String} (h : ReadsBack depth t s)
    (fuel : Nat) (hFuel : 2 * s.toList.length + 1 ≤ fuel) (rest : List Char) :
    readItems depth fuel (s.toList ++ ']' :: rest) = some ([t], rest) := by
  obtain ⟨fuel, rfl⟩ : ∃ k, fuel = k + 1 := Nat.exists_eq_add_one.mpr (by omega)
  obtain ⟨c, cs, hs, hc⟩ := h.begins
  have hRead := h.read fuel (']' :: rest) (by omega) (stops_cons (by simp) rest)
  have hClose : c ≠ ']' := hc.ne (by decide)
  rw [hs, List.cons_append] at hRead ⊢
  rw [readItems, skipLines_of_beginsValue hc]
  split
  next hEq => exact absurd (List.cons.inj hEq).1 hClose
  next => simp only [hRead, Option.bind_eq_bind, Option.bind_some, skipLines_bracket]

/-- The items of a list are read back line by line. -/
theorem readItems_lines {depth : Nat} {items : List Tree} {ss : List String}
    (h : List.Forall₂ (ReadsBack depth) items ss) (fuel : Nat)
    (hFuel : 2 * (ss.flatMap itemLine).length + 2 ≤ fuel) (rest : List Char) :
    readItems depth fuel (ss.flatMap itemLine ++ '\n' :: ']' :: rest) = some (items, rest) := by
  -- behind the comma of a line the reader stands before the next one, or before the bracket
  induction h generalizing fuel with
  | nil =>
    obtain ⟨fuel, rfl⟩ : ∃ k, fuel = k + 2 := Nat.exists_eq_add_of_le' (by omega)
    rw [List.flatMap_nil, List.nil_append, readItems, skipLines_newline, skipLines_bracket]
    rfl
  | @cons t s items ss hItem _ ih =>
    rw [List.flatMap_cons, List.length_append] at hFuel
    have hLine : (itemLine s).length = s.toList.length + 6 := by simp [itemLine]
    obtain ⟨fuel, rfl⟩ : ∃ k, fuel = k + 3 := Nat.exists_eq_add_of_le' (by omega)
    obtain ⟨c, cs, hs, hc⟩ := hItem.begins
    have hRead := hItem.read (fuel + 2)
      (',' :: (ss.flatMap itemLine ++ '\n' :: ']' :: rest)) (by omega) (stops_cons (by simp) _)
    have hComma (cs : List Char) : skipLines (fuel + 2) (',' :: cs) = ',' :: cs :=
      skipLines_of_ne rfl (by decide) (by decide) (by decide) _ cs
    have hClose : c ≠ ']' := hc.ne (by decide)
    -- the item begins with no bracket, so the list goes on
    rw [hs, List.cons_append] at hRead
    rw [List.flatMap_cons, itemLine, hs, List.append_assoc, List.append_assoc, List.append_assoc,
      List.cons_append, List.singleton_append, readItems, skipLines_indent hc]
    split
    next hEq => exact absurd (List.cons.inj hEq).1 hClose
    next => simp only [hRead, Option.bind_eq_bind, Option.bind_some, hComma,
        ih (fuel + 2) (by omega)]

/-- What stands in brackets is read back if its items are read up to the closing bracket. -/
theorem readsBack_list {depth : Nat} (hDepth : depth + 1 < nestingLimit) {items : List Tree}
    {s : String} {inside : List Char} (hs : s.toList = '[' :: (inside ++ [']']))
    (hRead : ∀ fuel rest, 2 * inside.length + 2 ≤ fuel →
      readItems (depth + 1) fuel (inside ++ ']' :: rest) = some (items, rest)) :
    ReadsBack depth (.list items) s := by
  refine ⟨⟨_, _, hs, by simp [BeginsValue]⟩, fun fuel rest hFuel _ => ?_⟩
  rw [hs, List.length_cons, List.length_append, List.length_singleton] at hFuel
  obtain ⟨fuel, rfl⟩ : ∃ k, fuel = k + 1 := Nat.exists_eq_add_one.mpr (by omega)
  rw [hs, List.cons_append, List.append_assoc, List.singleton_append, readValue,
    if_neg (by omega), hRead fuel rest (by omega)]
  rfl

/-- A list is read back from its items. -/
theorem readsBack_brackets {depth : Nat} (hDepth : depth + 1 < nestingLimit) {items : List Tree}
    {ss : List String} (h : List.Forall₂ (ReadsBack (depth + 1)) items ss) :
    ReadsBack depth (.list items) (brackets ss) := by
  -- the three layouts: nothing, one item in the line, and a line for each item
  match items, ss, h with
  | _, _, .nil =>
    have hs : (brackets []).toList = '[' :: ([] ++ [']']) := rfl
    refine readsBack_list hDepth hs fun fuel rest hFuel => ?_
    obtain ⟨fuel, rfl⟩ : ∃ k, fuel = k + 1 := Nat.exists_eq_add_one.mpr (by omega)
    rw [List.nil_append, readItems, skipLines_bracket]
    rfl
  | _, [s], .cons hItem .nil =>
    have hs : (brackets [s]).toList = '[' :: (s.toList ++ [']']) := by simp [brackets]
    exact readsBack_list hDepth hs fun fuel rest hFuel =>
      readItems_single hItem fuel (by omega) rest
  | _, s :: s' :: ss, .cons hItem (.cons hItem' hItems) =>
    have hs : (brackets (s :: s' :: ss)).toList =
        '[' :: ((s :: s' :: ss).flatMap itemLine ++ ['\n'] ++ [']']) := by
      rw [toList_brackets, List.append_assoc]
      rfl
    refine readsBack_list hDepth hs fun fuel rest hFuel => ?_
    rw [List.length_append, List.length_singleton] at hFuel
    rw [List.append_assoc]
    exact readItems_lines (.cons hItem (.cons hItem' hItems)) fuel (by omega) rest

/-! ### Tables in braces -/

theorem toList_writeMember (key s : String) :
    (writeMember key s).toList = (writeKey key).toList ++ ' ' :: '=' :: ' ' :: s.toList := by
  simp [writeMember]

/-- The key of a member is read up to its sign. -/
theorem readPath_writeMember (key s : String) {after cs : List Char}
    (hcs : skipSpace cs = (writeMember key s).toList ++ after) :
    readPath cs = some ([key], '=' :: ' ' :: (s.toList ++ after)) := by
  have hLength : [key].length < nestingLimit := by simp [nestingLimit]
  refine readPath_writePath (List.cons_ne_nil key []) hLength (.value _) ?_
  rw [hcs, toList_writeMember, writePath, List.map_singleton, String.intercalate_singleton]
  simp

/-- The blank before a value is skipped. -/
theorem ReadsBack.skipSpace {depth : Nat} {t : Tree} {s : String} (h : ReadsBack depth t s)
    (after : List Char) : skipSpace (' ' :: (s.toList ++ after)) = s.toList ++ after := by
  obtain ⟨c, cs, hs, hc⟩ := h.begins
  rw [hs, List.cons_append]
  exact skipSpace_of_beginsValue hc _

/-- A member of a table is read back from its key and its value. -/
def MemberReadsBack (depth : Nat) (m : String × Tree) (w : String) : Prop :=
  ∃ s, w = writeMember m.1 s ∧ ReadsBack depth m.2 s

theorem toList_intercalate_cons (w w' : String) (ws : List String) :
    (", ".intercalate (w :: w' :: ws)).toList =
      w.toList ++ ',' :: ' ' :: (", ".intercalate (w' :: ws)).toList :=
  Text.toList_intercalate_cons ", " w w' ws

/-- A member is read and added to the table. A comma behind it lets the reader go on, and a brace
ends the table. -/
theorem readMembers_member {depth : Nat} {m : String × Tree} {w : String}
    (h : MemberReadsBack depth m w) {pre : List (String × Node)} (hm : m.1 ∉ pre.map (·.1))
    (fuel : Nat) (hFuel : 2 * w.toList.length ≤ fuel) {rest cs : List Char} (hRest : Stops rest) :
    (skipSpace rest = ',' :: cs →
      readMembers depth (fuel + 1) (.table false false pre) (' ' :: (w.toList ++ rest)) =
        readMembers depth fuel (.table false false (pre ++ [leafMember m])) cs) ∧
    (skipSpace rest = '\x7d' :: cs →
      readMembers depth (fuel + 1) (.table false false pre) (' ' :: (w.toList ++ rest)) =
        some (.table false false (pre ++ [leafMember m]), cs)) := by
  obtain ⟨s, rfl, hs⟩ := h
  obtain ⟨c, more, hKey, hc⟩ := exists_beginsKey m.1
  have hSpace : skipSpace (' ' :: ((writeMember m.1 s).toList ++ rest)) =
      (writeMember m.1 s).toList ++ rest := by
    rw [toList_writeMember, hKey]
    exact skipSpace_of_beginsKey hc _
  rw [toList_writeMember, List.length_append] at hFuel
  simp only [List.length_cons] at hFuel
  -- the key, the equals sign and the value are read in turn
  have hValue := hs.read fuel rest (by omega) hRest
  rw [readMembers, readPath_writeMember m.1 s hSpace]
  simp only [Option.bind_eq_bind, Option.bind_some, hs.skipSpace, hValue, addValue_fresh hm]
  constructor
  · intro hComma
    simp only [hComma]
  · intro hBrace
    simp only [hBrace]

/-- The members of a table are read back one after the other. -/
theorem readMembers_written {depth : Nat} {members : List (String × Tree)} {ws : List String}
    (h : List.Forall₂ (MemberReadsBack depth) members ws) (hne : members ≠ [])
    (pre : List (String × Node)) (hNames : (pre.map (·.1) ++ members.map (·.1)).Nodup)
    (fuel : Nat) (hFuel : 2 * (", ".intercalate ws).toList.length < fuel) (rest : List Char) :
    readMembers depth fuel (.table false false pre)
        (' ' :: ((", ".intercalate ws).toList ++ ' ' :: '\x7d' :: rest)) =
      some (.table false false (pre ++ members.map leafMember), rest) := by
  -- the table holds the members that were read before, and the next one is not among them
  induction h generalizing pre fuel with
  | nil => exact absurd rfl hne
  | @cons m w members ws hm hms ih =>
    obtain ⟨fuel, rfl⟩ := Nat.exists_eq_add_one.mpr (Nat.zero_lt_of_lt hFuel)
    have hFresh : m.1 ∉ pre.map (·.1) := Node.fresh_of_nodup hNames
    cases hms with
    | nil =>
      rw [String.intercalate_singleton] at hFuel ⊢
      -- the last member, before the brace
      exact (readMembers_member hm hFresh fuel (by omega) (stops_cons (by simp) _)).2 rfl
    | @cons m' w' members ws hm' hms =>
      rw [toList_intercalate_cons, List.length_append, List.length_cons, List.length_cons] at hFuel
      -- a member before a comma, and the rest by `ih`
      have hStep := (readMembers_member hm hFresh fuel (by omega) (stops_cons (c := ',') (by simp)
        (' ' :: ((", ".intercalate (w' :: ws)).toList ++ ' ' :: '\x7d' :: rest)))).1 rfl
      have hNext := ih (List.cons_ne_nil _ _) (pre ++ [leafMember m])
        (by simpa [leafMember] using hNames) fuel (by omega)
      rw [List.append_assoc pre, List.singleton_append, ← List.map_cons] at hNext
      rw [toList_intercalate_cons, List.append_assoc, List.cons_append, List.cons_append, hStep]
      exact hNext

theorem toTree_leaves (members : List (String × Tree)) :
    (Node.table false false (members.map leafMember)).toTree = .record members := by
  rw [Node.toTree_table, List.map_map]
  exact congrArg Tree.record (List.map_id members)

/-- A table in braces is read back from its members. -/
theorem readsBack_braces {depth : Nat} (hDepth : depth + 1 < nestingLimit)
    {members : List (String × Tree)} {ws : List String}
    (h : List.Forall₂ (MemberReadsBack (depth + 1)) members ws)
    (hNames : (members.map (·.1)).Nodup) :
    ReadsBack depth (.record members) (braces ws) := by
  -- braces with nothing in between, or with members
  match members, ws, h with
  | _, _, .nil =>
    have hBegins : BeginsValue '\x7b' := by simp [BeginsValue]
    refine ⟨⟨_, _, rfl, hBegins⟩, fun fuel rest hFuel _ => ?_⟩
    change 2 * 2 ≤ fuel at hFuel
    obtain ⟨fuel, rfl⟩ : ∃ k, fuel = k + 1 := Nat.exists_eq_add_one.mpr (by omega)
    change readValue depth (fuel + 1) ('\x7b' :: '\x7d' :: rest) = _
    rw [readValue, if_neg (by omega)]
    rfl
  | m :: members, w :: ws, .cons hm hms =>
    have hs : (braces (w :: ws)).toList =
        '\x7b' :: ' ' :: ((", ".intercalate (w :: ws)).toList ++ [' ', '\x7d']) := by
      simp [braces]
    refine ⟨⟨_, _, hs, by simp [BeginsValue]⟩, fun fuel rest hFuel _ => ?_⟩
    rw [hs] at hFuel
    simp only [List.length_cons, List.length_append] at hFuel
    obtain ⟨fuel, rfl⟩ : ∃ k, fuel = k + 1 := Nat.exists_eq_add_one.mpr (by omega)
    have hRead := readMembers_written (.cons hm hms) (List.cons_ne_nil m members) []
      hNames fuel (by omega) rest
    -- the first key is no brace
    obtain ⟨s, hw, -⟩ := id hm
    obtain ⟨c, cs, hKey, hc⟩ := exists_beginsKey m.1
    have hClose : c ≠ '\x7d' := hc.ne (by decide)
    obtain ⟨more, hMore⟩ : ∃ more, (", ".intercalate (w :: ws)).toList = c :: more := by
      obtain ⟨more, hMore⟩ := Text.exists_intercalate_eq ", " w ws
      rw [hMore, hw, toList_writeMember, hKey]
      exact ⟨_, rfl⟩
    rw [hs, List.cons_append, List.cons_append, List.append_assoc, List.cons_append,
      List.singleton_append, readValue, if_neg (by omega)]
    rw [hMore, List.cons_append] at hRead ⊢
    have hSkip (cs : List Char) : skipSpace (' ' :: c :: cs) = c :: cs :=
      skipSpace_of_beginsKey hc cs
    simp only [hSkip]
    split
    next hEq => exact absurd (List.cons.inj hEq).1 hClose
    next =>
      rw [hRead, Option.map_some, List.nil_append, toTree_leaves]

/-! ### Regular trees -/

theorem exists_quote (s : String) :
    ∃ c cs, (writeText s).toList = c :: cs ∧ (c = '"' ∨ c = '\'') := by
  unfold writeText
  cases h : (Traits.of s.toList).quoting <;> simp [h]

/-- A text is read back. -/
theorem readsBack_text (depth : Nat) (s : String) : ReadsBack depth (.text s) (writeText s) := by
  obtain ⟨c, cs, hs, hc⟩ := exists_quote s
  have hBegins : BeginsValue c := by
    rcases hc with rfl | rfl <;> simp [BeginsValue]
  refine ⟨⟨c, cs, hs, hBegins⟩, fun fuel rest hFuel hRest => ?_⟩
  have hRead := readQuoted_writeText s hRest
  rw [hs, List.length_cons] at hFuel
  obtain ⟨fuel, rfl⟩ : ∃ k, fuel = k + 1 := Nat.exists_eq_add_one.mpr (by omega)
  rw [hs, List.cons_append] at hRead ⊢
  rcases hc with rfl | rfl <;> rw [readValue, hRead] <;> rfl

/-- A number within reach is read back. -/
theorem readsBack_int (depth : Nat) {n : Nat} (hn : n < Text.signedHalf) :
    ReadsBack depth (.int n) (toString (n : Int)) := by
  have hs : (toString (n : Int)).toList = Nat.toDigits 10 n := Text.toList_toString n
  obtain ⟨c, cs, hcs⟩ := List.exists_cons_of_ne_nil (Nat.toDigits_ne_nil (n := n) (b := 10))
  have hc : c.isDigit = true := Text.isDigit_of_mem (n := n) (by simp [hcs])
  refine ⟨⟨c, cs, hs.trans hcs, .inl hc⟩, fun fuel rest hFuel hRest => ?_⟩
  have hRead := readScalar_toDigits hn hRest
  rw [hs, hcs, List.length_cons] at hFuel
  obtain ⟨fuel, rfl⟩ : ∃ k, fuel = k + 1 := Nat.exists_eq_add_one.mpr (by omega)
  -- what begins with a digit is none of the other kinds of value
  have hne {c' : Char} {cs' : List Char} (hc' : c'.isDigit = false) :
      c :: (cs ++ rest) ≠ c' :: cs' := by
    rintro ⟨⟩
    rw [hc] at hc'
    cases hc'
  rw [hcs, List.cons_append] at hRead
  rw [hs, hcs, List.cons_append, readValue, hRead]
  all_goals exact fun _ hEq => hne rfl hEq

theorem readsBack_bool (depth : Nat) (b : Bool) :
    ReadsBack depth (.bool b) (if b then "true" else "false") := by
  cases b with
  | true =>
    have hBegins : BeginsValue 't' := by simp [BeginsValue]
    refine ⟨⟨'t', _, rfl, hBegins⟩, fun fuel rest hFuel _ => ?_⟩
    change 2 * 4 ≤ fuel at hFuel
    obtain ⟨fuel, rfl⟩ : ∃ k, fuel = k + 1 := Nat.exists_eq_add_one.mpr (by omega)
    rfl
  | false =>
    have hBegins : BeginsValue 'f' := by simp [BeginsValue]
    refine ⟨⟨'f', _, rfl, hBegins⟩, fun fuel rest hFuel _ => ?_⟩
    change 2 * 5 ≤ fuel at hFuel
    obtain ⟨fuel, rfl⟩ : ∃ k, fuel = k + 1 := Nat.exists_eq_add_one.mpr (by omega)
    rfl

theorem writeValue_bool (b : Bool) :
    writeValue (.bool b) = some (if b then "true" else "false") := by
  cases b <;> rw [writeValue] <;> rfl

theorem writeValue_int (n : Nat) :
    writeValue (.int n) = if n < Text.signedHalf then some (toString (n : Int)) else none := by
  rw [writeValue]
  refine if_congr ?_ rfl rfl
  simp only [Bool.and_eq_true, decide_eq_true_eq, Int.ofNat_eq_natCast]
  omega

/-- What is written for a list of members are its members, written. -/
theorem forall₂_of_writeInline {members : List (String × Tree)} {ws : List String}
    (h : writeInline members = some ws) :
    List.Forall₂ (fun m w => ∃ s, writeValue m.2 = some s ∧ w = writeMember m.1 s) members ws := by
  rw [writeInline_eq, Traversal.mapM_eq_some_iff] at h
  refine h.imp fun m w hm => ?_
  obtain ⟨s, hs, hw⟩ := Option.map_eq_some_iff.mp hm
  exact ⟨s, hs, hw.symm⟩

/-- Every regular tree that can be written as a value is read back inside some containers, if it is
not nested too deeply. -/
theorem readsBack_of_regular {d : Nat} {t : Tree} (h : Regular d t) {s : String}
    (hs : writeValue t = some s) {depth : Nat} (hDepth : depth + d < nestingLimit) :
    ReadsBack depth t s := by
  -- items and members are read one level deeper, and are nested one level less
  induction h generalizing s depth with
  | bool b =>
    rw [writeValue_bool] at hs
    cases hs
    exact readsBack_bool depth b
  | int n =>
    rw [writeValue_int] at hs
    obtain ⟨hn, ⟨⟩⟩ := Option.ite_none_right_eq_some.mp hs
    exact readsBack_int depth hn
  | text s =>
    rw [writeValue] at hs
    cases hs
    exact readsBack_text depth s
  | @list d items hItems ih =>
    rw [writeValue_list] at hs
    obtain ⟨ss, hss, rfl⟩ := Option.map_eq_some_iff.mp hs
    have hWritten := Traversal.mapM_eq_some_iff.mp hss
    refine readsBack_brackets (by omega)
      (((List.forall₂_and_left _ _).mpr ⟨ih, hWritten⟩).imp fun t s ⟨ht, hs⟩ => ?_)
    exact ht hs (by omega)
  | @record d members hNames hMembers ih =>
    rw [writeValue_record] at hs
    obtain ⟨ws, hws, rfl⟩ := Option.map_eq_some_iff.mp hs
    refine readsBack_braces (by omega)
      (((List.forall₂_and_left _ _).mpr ⟨ih, forall₂_of_writeInline hws⟩).imp
        fun m w ⟨hm, s, hs, hw⟩ => ⟨s, hw, ?_⟩) hNames
    exact hm hs (by omega)

/-- Regular members are read back from what is written for them. -/
theorem memberReadsBack_of_regular {d : Nat} {members : List (String × Tree)}
    (h : ∀ m ∈ members, Regular d m.2) {ws : List String} (hws : writeInline members = some ws)
    {depth : Nat} (hDepth : depth + d < nestingLimit) :
    List.Forall₂ (MemberReadsBack depth) members ws :=
  ((List.forall₂_and_left _ _).mpr ⟨h, forall₂_of_writeInline hws⟩).imp
    fun _ _ ⟨hm, s, hs, hw⟩ => ⟨s, hw, readsBack_of_regular hm hs hDepth⟩

end StreamVerdict.Toml
