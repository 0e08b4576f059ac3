import Mathlib.Data.List.DropRight
import StreamVerdict.Proofs.Toml.Quoted
import StreamVerdict.Toml.Read

/-!
# Keys are read back

A key stands without quotes where that is possible, and a path is its keys with
dots between them. What follows a path is the sign before a value, after a
blank, or the bracket that closes a header.

Main results:

* `Toml.readKeyPart_writeKey` — one key;
* `Toml.readPath_writePath` — a path of keys.
-/

namespace StreamVerdict.Toml

/-! ## One key -/

/-- What may lie behind a part of a key. -/
def EndsKey (rest : List Char) : Prop :=
  ∀ c ∈ rest.head?, c = '.' ∨ c = ' ' ∨ c = ']'

/-- What a key may begin with. -/
def BeginsKey (c : Char) : Prop :=
  isBare c = true ∨ c = '"' ∨ c = '\''

theorem BeginsKey.ne {c d : Char} (h : BeginsKey c) (hd : isBare d = false ∧ d ≠ '"' ∧ d ≠ '\'') :
    c ≠ d := by
  rintro rfl
  obtain ⟨hBare, hDouble, hSingle⟩ := hd
  rcases h with h | rfl | rfl
  · rw [h] at hBare
    cases hBare
  · exact hDouble rfl
  · exact hSingle rfl

theorem skipSpace_of_isSpace_eq_false {c : Char} (h : isSpace c = false) (cs : List Char) :
    skipSpace (c :: cs) = c :: cs :=
  List.dropWhile_cons_of_neg (by simp [h])

theorem skipSpace_of_beginsKey {c : Char} (h : BeginsKey c) (cs : List Char) :
    skipSpace (c :: cs) = c :: cs :=
  skipSpace_of_isSpace_eq_false
    (by simp [isSpace, h.ne (d := ' ') (by decide), h.ne (d := '\t') (by decide)]) cs

/-- A key without quotes is read back up to its end. -/
theorem readKeyPart_bare {s : List Char} (hne : s ≠ []) (hs : ∀ c ∈ s, isBare c = true)
    {rest : List Char} (hRest : EndsKey rest) :
    readKeyPart (s ++ rest) = some (String.ofList s, rest) := by
  obtain ⟨c, s, rfl⟩ := List.exists_cons_of_ne_nil hne
  have hBegins : BeginsKey c := .inl (hs c List.mem_cons_self)
  have hEnds : ∀ c ∈ rest.head?, isBare c = false := by
    intro c hc
    rcases hRest c hc with rfl | rfl | rfl <;> rfl
  have hTake := Text.takeWhile_run hs hEnds
  have hDrop := Text.dropWhile_run hs hEnds
  unfold readKeyPart
  split
  -- a bare key does not begin with a quote
  next hEq => exact absurd (List.cons.inj hEq).1 (by rintro rfl; cases hs '"' List.mem_cons_self)
  next hEq => exact absurd (List.cons.inj hEq).1 (by rintro rfl; cases hs '\'' List.mem_cons_self)
  next =>
    rw [hTake, hDrop]

/-- What is written for a key. -/
theorem writeKey_cases (s : String) :
    ((writeKey s).toList = s.toList ∧ s.toList ≠ [] ∧ ∀ c ∈ s.toList, isBare c = true) ∨
    ((writeKey s).toList = '\'' :: (s.toList ++ ['\'']) ∧
      ∀ c ∈ s.toList, c ≠ '\'' ∧ isQuotable c = true) ∨
    (writeKey s).toList = '"' :: (s.toList.flatMap escaped ++ ['"']) := by
  unfold writeKey
  dsimp only
  split_ifs with hBare hLiteral
  · exact .inl ⟨rfl, by simpa using hBare⟩
  · simp only [Bool.and_eq_true, Bool.not_eq_true', List.any_eq_false, Bool.or_eq_true,
      decide_eq_true_eq, not_or] at hLiteral
    obtain ⟨⟨hControls, hQuote⟩, -⟩ := hLiteral
    refine .inr (.inl ⟨by simp, fun c hc => ⟨fun hEq => hQuote (hEq ▸ hc), ?_⟩⟩)
    obtain ⟨hControl, hLine⟩ := hControls c hc
    exact isQuotable_of_not_isControl (by simpa using hControl) hLine
  · exact .inr (.inr (by simp [writeEscaped_line]))

/-- A key is read back up to its end. -/
theorem readKeyPart_writeKey (s : String) {rest : List Char} (hRest : EndsKey rest) :
    readKeyPart ((writeKey s).toList ++ rest) = some (s, rest) := by
  rcases writeKey_cases s with ⟨hs, hne, hBare⟩ | ⟨hs, hPlain⟩ | hs
  · rw [hs, readKeyPart_bare hne hBare hRest, String.ofList_toList]
  · rw [hs, List.cons_append, List.append_assoc, readKeyPart]
    simp [readLiteral_plain hPlain]
  · have hLength := length_le_escaped s.toList
    rw [hs, List.cons_append, List.append_assoc, readKeyPart, List.singleton_append,
      readBasic_escaped (by simp only [List.length_cons, List.length_append]; omega)]
    simp

theorem exists_beginsKey (s : String) : ∃ c cs, (writeKey s).toList = c :: cs ∧ BeginsKey c := by
  rcases writeKey_cases s with ⟨hs, hne, hBare⟩ | ⟨hs, -⟩ | hs
  · obtain ⟨c, cs, hcs⟩ := List.exists_cons_of_ne_nil hne
    exact ⟨c, cs, hs.trans hcs, .inl (hBare c (by simp [hcs]))⟩
  · exact ⟨_, _, hs, .inr (.inr rfl)⟩
  · exact ⟨_, _, hs, .inr (.inl rfl)⟩

/-! ## Paths -/

/-- What lies behind a path: the sign before a value, or the bracket that closes a header. -/
inductive FollowsPath : List Char → List Char → Prop where
  | value (rest : List Char) : FollowsPath (' ' :: '=' :: rest) ('=' :: rest)
  | header (rest : List Char) : FollowsPath (']' :: rest) (']' :: rest)

theorem toList_writePath_cons (key key' : String) (path : List String) :
    (writePath (key :: key' :: path)).toList =
      (writeKey key).toList ++ '.' :: (writePath (key' :: path)).toList := by
  rw [writePath, List.map_cons, List.map_cons, Text.toList_intercalate_cons]
  rfl

theorem length_le_writePath (path : List String) :
    path.length ≤ (writePath path).toList.length := by
  induction path with
  | nil => exact Nat.zero_le _
  | cons key path ih =>
    obtain ⟨c, cs, hKey, -⟩ := exists_beginsKey key
    cases path with
    | nil =>
      rw [writePath, List.map_singleton, String.intercalate_singleton, hKey]
      exact Nat.succ_le_succ (Nat.zero_le _)
    | cons key' path =>
      rw [List.length_cons] at ih
      simp only [toList_writePath_cons, hKey, List.length_append, List.length_cons]
      omega

theorem readKey_writePath {path : List String} (hne : path ≠ []) {fuel : Nat}
    (hFuel : path.length ≤ fuel) {after rest : List Char} (hAfter : FollowsPath after rest) :
    readKey fuel ((writePath path).toList ++ after) = some (path, rest) := by
  induction path generalizing fuel with
  | nil => exact absurd rfl hne
  | cons key path ih =>
    obtain ⟨fuel, rfl⟩ := Nat.exists_eq_add_one.mpr (Nat.zero_lt_of_lt hFuel)
    have hSpace (cs : List Char) : skipSpace ((writeKey key).toList ++ cs) =
        (writeKey key).toList ++ cs := by
      obtain ⟨c, more, hKey, hBegins⟩ := exists_beginsKey key
      rw [hKey, List.cons_append, skipSpace_of_beginsKey hBegins]
    cases path with
    | nil =>
      -- the last part: what follows ends it
      have hEnds : EndsKey after := by
        cases hAfter <;> rintro _ ⟨⟩ <;> simp
      rw [writePath, List.map_singleton, String.intercalate_singleton, readKey, hSpace,
        readKeyPart_writeKey key hEnds]
      cases hAfter <;> rfl
    | cons key' path =>
      -- a dot, and the rest of the path by `ih`
      have hRead := ih (List.cons_ne_nil key' path) (Nat.le_of_succ_le_succ hFuel)
      have hDot (cs : List Char) : skipSpace ('.' :: cs) = '.' :: cs := rfl
      have hEnds (cs : List Char) : EndsKey ('.' :: cs) := by
        rintro _ ⟨⟩
        exact .inl rfl
      rw [toList_writePath_cons, List.append_assoc, List.cons_append, readKey, hSpace,
        readKeyPart_writeKey key (hEnds _)]
      simp only [Option.bind_eq_bind, Option.bind_some, hDot, hRead]

theorem skipSpace_skipSpace (cs : List Char) : skipSpace (skipSpace cs) = skipSpace cs :=
  List.dropWhile_idempotent isSpace cs

/-- A path of keys that is not too long is read back, with blanks before it or without. -/
theorem readPath_writePath {path : List String} (hne : path ≠ [])
    (hLength : path.length < nestingLimit) {after rest : List Char}
    (hAfter : FollowsPath after rest) {cs : List Char}
    (hcs : skipSpace cs = (writePath path).toList ++ after) :
    readPath cs = some (path, rest) := by
  have hPath := length_le_writePath path
  have hSkipped : (skipSpace cs).length ≤ cs.length := (List.dropWhile_suffix isSpace).length_le
  rw [hcs, List.length_append] at hSkipped
  have hRead := readKey_writePath hne (show path.length ≤ cs.length + 1 by omega) hAfter
  rw [← hcs, readKey, skipSpace_skipSpace, ← readKey] at hRead
  rw [readPath, hRead]
  exact if_pos hLength

end StreamVerdict.Toml
