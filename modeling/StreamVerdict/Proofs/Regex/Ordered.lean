import Mathlib.Data.List.Basic
import StreamVerdict.Proofs.Regex.Search
import StreamVerdict.Proofs.Traversal
import StreamVerdict.Regex.Parse

/-!
# Expressions that are read have their bounds in order

Repetitions come into being in one place, and the bounds that braces give are
compared there. Everything else that the reading of an expression does puts
together what it has, so that the bounds stay in order from piece to piece.

Main results:

* `Reading.IsOrdered.step` and `Reading.IsOrdered.finish`: what one piece
  keeps, and what the whole reading keeps;
* `isOrdered_of_parse`: every expression that is accepted has its bounds in
  order.
-/

namespace StreamVerdict.Regex

/-! ## Lists of expressions -/

namespace Expr

theorem isOrdered_seqs {es : List Expr} (h : ∀ e ∈ es, e.IsOrdered) : (seqs es).IsOrdered := by
  induction es using seqs.induct with
  | case1 => trivial
  | case2 a => exact h a List.mem_cons_self
  | case3 a as hne ih =>
    obtain ⟨ha, has⟩ := List.forall_mem_cons.mp h
    rw [seqs.eq_3 _ _ hne]
    exact ⟨ha, ih has⟩

theorem isOrdered_alts {e : Expr} {es : List Expr} (he : e.IsOrdered)
    (h : ∀ e ∈ es, e.IsOrdered) : (alts e es).IsOrdered := by
  induction es generalizing e with
  | nil => exact he
  | cons b bs ih =>
    obtain ⟨hb, hbs⟩ := List.forall_mem_cons.mp h
    exact ⟨he, ih hb hbs⟩

end Expr

/-! ## The group being read -/

namespace Body

/-- All that a group holds so far has its bounds in order. -/
structure IsOrdered (b : Body) : Prop where
  items : ∀ i ∈ b.items, i.nested.value.IsOrdered
  earlier : ∀ p ∈ b.earlier, p.value.IsOrdered

variable {b : Body}

theorem IsOrdered.push (hb : b.IsOrdered) {e : Expr} (he : e.IsOrdered) (depth : Nat) :
    (b.push e depth).IsOrdered :=
  ⟨List.forall_mem_cons.mpr ⟨he, hb.items⟩, hb.earlier⟩

theorem IsOrdered.alternative (hb : b.IsOrdered) : b.alternative.value.IsOrdered := by
  have hItems : ∀ p ∈ b.items.reverse.map Item.nested, p.value.IsOrdered := by
    intro p hp
    obtain ⟨i, hi, rfl⟩ := List.mem_map.mp hp
    exact hb.items i (List.mem_reverse.mp hi)
  unfold Body.alternative
  split
  -- an empty alternative, a single piece, or a sequence of pieces
  next => trivial
  next p hp => exact hItems p (hp ▸ List.mem_singleton_self p)
  next ps _ _ =>
    refine Expr.isOrdered_seqs fun e he => ?_
    obtain ⟨p, hp, rfl⟩ := List.mem_map.mp he
    exact hItems p hp

theorem IsOrdered.split (hb : b.IsOrdered) : b.split.IsOrdered :=
  ⟨nofun, List.forall_mem_cons.mpr ⟨hb.alternative, hb.earlier⟩⟩

theorem IsOrdered.close (hb : b.IsOrdered) : b.close.value.IsOrdered := by
  have hAll : ∀ p ∈ b.split.earlier.reverse, p.value.IsOrdered :=
    fun p hp => hb.split.earlier p (List.mem_reverse.mp hp)
  unfold Body.close
  split
  next => trivial
  next p hp => exact hAll p (hp ▸ List.mem_singleton_self p)
  next p ps _ hps =>
    obtain ⟨hp, hRest⟩ := List.forall_mem_cons.mp (hps ▸ hAll)
    refine Expr.isOrdered_alts hp fun e he => ?_
    obtain ⟨q, hq, rfl⟩ := List.mem_map.mp he
    exact hRest q hq

theorem IsOrdered.repeatLast (hb : b.IsOrdered) {lo : Nat} {hi : Option Nat}
    (hle : ∀ h ∈ hi, lo ≤ h) {b' : Body} (h : b.repeatLast lo hi = .ok b') : b'.IsOrdered := by
  unfold Body.repeatLast at h
  split at h
  next p items hItems =>
    cases h
    obtain ⟨hp, hRest⟩ := List.forall_mem_cons.mp (hItems ▸ hb.items)
    exact ⟨List.forall_mem_cons.mpr ⟨⟨hp, hle⟩, hRest⟩, hb.earlier⟩
  next => cases h

end Body

/-! ## Pieces -/

theorem isOrdered_of_atomExpr {f : Flags} {a : Atom} {e : Expr} (h : f.atomExpr a = .ok e) :
    e.IsOrdered := by
  unfold Flags.atomExpr at h
  split at h
  next => split_ifs at h <;> cases h <;> trivial
  next => cases h; trivial
  next => cases h; trivial

theorem isOrdered_of_dot {f : Flags} {e : Expr} (h : f.dot = .ok e) : e.IsOrdered := by
  unfold Flags.dot at h
  split_ifs at h <;> cases h <;> trivial

/-- The upper bound after a comma: another number, or none. -/
def Flags.afterComma (f : Flags) : List Char → Except Fault (Option Nat × List Char)
  | '\x7d' :: cs => .ok (none, '\x7d' :: cs)
  | cs => do
    let (hi, cs) ← f.count cs
    .ok (some hi, cs)

/-- The upper bound of a repetition, after the lower one: the same number, unless there is a
comma. -/
def Flags.upperBound (f : Flags) (lo : Nat) : List Char → Except Fault (Option Nat × List Char)
  | ',' :: cs => f.afterComma (f.skip cs)
  | cs => .ok (some lo, cs)

/-- The brace that ends the bounds of a repetition. -/
def Flags.endBounds (f : Flags) (lo : Nat) (hi : Option Nat) :
    List Char → Except Fault (Nat × Option Nat × List Char)
  | '\x7d' :: cs =>
    if hi.any (· < lo) then .error .repetitionReversed
    else .ok (lo, hi, dropLazy (f.skip cs))
  | _ => .error .repetitionUnclosed

theorem Flags.bounds_eq (f : Flags) (cs : List Char) :
    f.bounds cs = (do
      let (lo, cs) ← f.count (f.skip cs)
      let (hi, cs) ← f.upperBound lo cs
      f.endBounds lo hi cs) := by
  unfold Flags.bounds
  congr 1
  funext ⟨lo, cs⟩
  dsimp only
  split
  next cs =>
    rw [Flags.upperBound]
    generalize f.skip cs = ahead
    -- without an upper bound, or with one that is read as a number
    by_cases hClosed : ∃ rest, ahead = '\x7d' :: rest
    · obtain ⟨rest, rfl⟩ := hClosed
      rfl
    · rw [Flags.afterComma.eq_2 _ _ fun rest hEq => hClosed ⟨rest, hEq⟩]
      split
      next rest => exact absurd ⟨rest, rfl⟩ hClosed
      next => cases f.count ahead <;> rfl
  next hComma =>
    rw [Flags.upperBound.eq_2 _ _ _ hComma]
    rfl

/-- The bounds that braces give are in order. -/
theorem le_of_bounds {f : Flags} {cs : List Char} {lo : Nat} {hi : Option Nat}
    {rest : List Char} (h : f.bounds cs = .ok (lo, hi, rest)) : ∀ h ∈ hi, lo ≤ h := by
  rw [Flags.bounds_eq] at h
  obtain ⟨⟨lo', cs⟩, -, h⟩ := Traversal.bind_eq_ok_iff.mp h
  obtain ⟨⟨hi', cs⟩, -, h⟩ := Traversal.bind_eq_ok_iff.mp h
  dsimp only [Flags.endBounds] at h
  split at h
  next =>
    split_ifs at h with hAny
    cases h
    rintro h rfl
    simpa using hAny
  next => cases h

/-! ## The whole expression -/

namespace Reading

/-- The names given to groups, with one more of them if the group has a name. -/
def addName (names : List String) : Option String → Except Fault (List String)
  | none => .ok names
  | some n => if n ∈ names then .error (.groupNameRepeated n) else .ok (n :: names)

/-- What an opening does to the reading. -/
def enter (r : Reading) (rest : List Char) : Opening → Except Fault Reading
  | .flags f =>
    .ok { r with body := { r.body with items := .flags :: r.body.items, flags := f }, rest }
  | .group f name => do
    let names ← addName r.names name
    .ok { body := { flags := f }, outer := r.body :: r.outer, names, rest }

theorem open?_eq (r : Reading) (cs : List Char) :
    r.open? cs = (do
      let (opening, rest) ← r.body.flags.opening cs
      r.enter rest opening) := by
  unfold Reading.open?
  congr 1
  funext ⟨opening, rest⟩
  unfold enter addName
  cases opening with
  | flags f => rfl
  | group f name =>
    cases name with
    | none => rfl
    | some n =>
      dsimp only
      split_ifs <;> rfl

/-- All groups that are open hold expressions with their bounds in order. -/
structure IsOrdered (r : Reading) : Prop where
  body : r.body.IsOrdered
  outer : ∀ b ∈ r.outer, b.IsOrdered

variable {r r' : Reading} {c : Char} {cs : List Char}

theorem IsOrdered.open? (hr : r.IsOrdered) (h : r.open? cs = .ok r') : r'.IsOrdered := by
  rw [Reading.open?_eq] at h
  obtain ⟨⟨opening, rest⟩, -, h⟩ := Traversal.bind_eq_ok_iff.mp h
  cases opening with
  | flags f =>
    cases h
    exact ⟨⟨List.forall_mem_cons.mpr ⟨trivial, hr.body.items⟩, hr.body.earlier⟩, hr.outer⟩
  | group f name =>
    obtain ⟨names, -, h⟩ := Traversal.bind_eq_ok_iff.mp h
    cases h
    exact ⟨⟨nofun, nofun⟩, List.forall_mem_cons.mpr ⟨hr.body, hr.outer⟩⟩

theorem IsOrdered.close? (hr : r.IsOrdered) (h : r.close? cs = .ok r') : r'.IsOrdered := by
  unfold Reading.close? at h
  split at h
  next => cases h
  next b outer hOuter =>
    cases h
    obtain ⟨hb, hRest⟩ := List.forall_mem_cons.mp (hOuter ▸ hr.outer)
    exact ⟨hb.push hr.body.close _, hRest⟩

theorem IsOrdered.repeat? (hr : r.IsOrdered) {lo : Nat} {hi : Option Nat}
    (hle : ∀ h ∈ hi, lo ≤ h) (h : r.repeat? lo hi cs = .ok r') : r'.IsOrdered := by
  obtain ⟨b, hb, h⟩ := Traversal.bind_eq_ok_iff.mp h
  cases h
  exact ⟨hr.body.repeatLast hle hb, hr.outer⟩

theorem IsOrdered.push (hr : r.IsOrdered) {e : Expr} (he : e.IsOrdered) :
    (r.push e cs).IsOrdered :=
  ⟨hr.body.push he 0, hr.outer⟩

/-- One piece leaves all bounds in order. -/
theorem IsOrdered.step (hr : r.IsOrdered) (h : r.step c cs = .ok r') : r'.IsOrdered := by
  unfold Reading.step at h
  -- one case for each kind of piece: only repetitions carry bounds that have to be in order
  split at h
  · exact hr.open? h
  · exact hr.close? h
  · cases h
    exact ⟨hr.body.split, hr.outer⟩
  · obtain ⟨s, -, h⟩ := Traversal.bind_eq_ok_iff.mp h
    cases h
    exact ⟨hr.body.push (e := .chars s.1.value) trivial _, hr.outer⟩
  · exact hr.repeat? (by simp) h
  · exact hr.repeat? (by simp) h
  · exact hr.repeat? (by simp) h
  · obtain ⟨-, -, h⟩ := Traversal.bind_eq_ok_iff.mp h
    obtain ⟨⟨lo, hi, rest⟩, hBounds, h⟩ := Traversal.bind_eq_ok_iff.mp h
    exact hr.repeat? (le_of_bounds hBounds) h
  · obtain ⟨a, -, h⟩ := Traversal.bind_eq_ok_iff.mp h
    obtain ⟨e, he, h⟩ := Traversal.bind_eq_ok_iff.mp h
    cases h
    exact hr.push (isOrdered_of_atomExpr he)
  · obtain ⟨e, he, h⟩ := Traversal.bind_eq_ok_iff.mp h
    cases h
    exact hr.push (isOrdered_of_dot he)
  · cases h
    exact hr.push trivial
  · cases h
    exact hr.push trivial
  · obtain ⟨e, he, h⟩ := Traversal.bind_eq_ok_iff.mp h
    cases h
    exact hr.push (isOrdered_of_atomExpr he)

/-- All that is read by the end has its bounds in order. -/
theorem IsOrdered.finish {fuel : Nat} {r : Reading} (hr : r.IsOrdered) {p : Nested Expr}
    (h : r.finish fuel = .ok p) : p.value.IsOrdered := by
  induction fuel generalizing r with
  | zero => cases h
  | succ fuel ih =>
    unfold Reading.finish at h
    split at h
    next =>
      -- the text is at its end, so no group may be open
      split_ifs at h with hOpen
      cases h
      exact hr.body.close
    next c cs _ =>
      obtain ⟨r', hStep, h⟩ := Traversal.bind_eq_ok_iff.mp h
      exact ih (hr.step hStep) h

end Reading

/-- An expression that is accepted has its bounds in order. -/
theorem isOrdered_of_parse {cs : List Char} {e : Expr} (h : parse cs = .ok e) : e.IsOrdered := by
  obtain ⟨p, hp, h⟩ := Traversal.bind_eq_ok_iff.mp h
  split_ifs at h with hDeep
  cases h
  exact Reading.IsOrdered.finish ⟨⟨by simp, by simp⟩, by simp⟩ hp

end StreamVerdict.Regex
