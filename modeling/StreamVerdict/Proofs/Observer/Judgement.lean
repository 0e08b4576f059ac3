import StreamVerdict.Observer

/-!
# How an observer judges several events

An observer judges one event after the other and remembers little between
them: whether all have been as they had to be, how far it has come in a list
of requirements, or what a callback said last. What it holds in the end can be
said of the whole list of events at once.

Main results:

* `Requirements.check_value_iff` — one event and one set of requirements;
* `Outcome.applyAll_snd_iff` — what is held after events;
* `Outcome.applyAll_fst_orderedHeaderMatch` — how far a list of requirements
  is used up.
-/

namespace StreamVerdict

/-! ## One event -/

/-- Every positive clause matches, and the field of every negative clause is there and does not
match. -/
def Requirements.IsSatisfiedBy (r : Requirements) (e : Event) : Prop :=
  (∀ c ∈ r.pattern.positive, c.check e = .matched) ∧
    ∀ c ∈ r.pattern.negative, c.check e = .mismatch

theorem Requirements.positiveViolation?_eq_none_iff {e : Event} {c : Clause} :
    positiveViolation? e c = none ↔ c.check e = .matched := by
  unfold positiveViolation?
  split <;> simp [*]

theorem Requirements.negativeViolation?_eq_none_iff {e : Event} {c : Clause} :
    negativeViolation? e c = none ↔ c.check e = .mismatch := by
  unfold negativeViolation?
  split <;> simp [*]

/-- An event passes the check of requirements exactly if it satisfies them. -/
theorem Requirements.check_value_iff {r : Requirements} {e : Event} :
    (r.check e).value = true ↔ r.IsSatisfiedBy e := by
  rw [value_check_iff, violations, List.append_eq_nil_iff, List.filterMap_eq_nil_iff,
    List.filterMap_eq_nil_iff]
  simp only [positiveViolation?_eq_none_iff, negativeViolation?_eq_none_iff, IsSatisfiedBy]

/-! ## Several events -/

namespace Outcome

/-- Judges events one after the other. -/
def applyAll (o : Outcome) (passed : Bool) : List Event → Outcome × Bool
  | [] => (o, passed)
  | e :: es =>
    let judged := (o.apply e passed).value
    judged.1.applyAll judged.2 es

theorem applyAll_append (o : Outcome) (passed : Bool) (es fs : List Event) :
    o.applyAll passed (es ++ fs) =
      (o.applyAll passed es).1.applyAll (o.applyAll passed es).2 fs := by
  induction es generalizing o passed with
  | nil => rfl
  | cons e es ih => simp only [List.cons_append, applyAll, ih]

/-- Whether events are as they have to be, given what was held before the first of them. -/
def Holds (o : Outcome) (start : Bool) (es : List Event) : Prop :=
  match o with
  | headerMatch r => start = true ∧ ∀ e ∈ es, r.IsSatisfiedBy e
  | orderedHeaderMatch rs next =>
    start = true ∧ ∀ n r e, rs[next + n]? = some r → es[n]? = some e → r.IsSatisfiedBy e
  | callback _ decide => (es.getLast?.map decide).getD start = true

/-- What holds of some events is what held of the first of them and then of the others. -/
theorem holds_cons (o : Outcome) (start : Bool) (e : Event) (es : List Event) :
    o.Holds start (e :: es) ↔ (o.apply e start).value.1.Holds (o.apply e start).value.2 es := by
  cases o with
  | headerMatch r =>
    simp only [Holds, apply, Logged.value_bind, Logged.value_pure, Bool.and_eq_true,
      Requirements.check_value_iff, List.forall_mem_cons]
    constructor
    · rintro ⟨hs, he, hes⟩
      exact ⟨⟨he, hs⟩, hes⟩
    · rintro ⟨⟨he, hs⟩, hes⟩
      exact ⟨hs, he, hes⟩
  | orderedHeaderMatch rs next =>
    simp only [Holds, apply]
    cases hr : rs[next]? with
    | none =>
      -- the list is used up, for this event and for all later ones
      have hNone (n : Nat) : rs[next + n]? = none := by
        rw [List.getElem?_eq_none_iff] at hr ⊢
        omega
      simp [hNone]
    | some r =>
      simp only [Logged.value_bind, Logged.value_pure, Bool.and_eq_true,
        Requirements.check_value_iff]
      -- this event is judged now; the requirement at place `n` of the rest is at `n + 1` of all
      constructor
      · rintro ⟨hs, hAll⟩
        refine ⟨⟨hAll 0 r e hr rfl, hs⟩, fun n r' e' hr' he' => hAll (n + 1) r' e' ?_ he'⟩
        rwa [show next + (n + 1) = next + 1 + n by omega]
      · rintro ⟨⟨he, hs⟩, hAll⟩
        refine ⟨hs, fun n r' e' hr' he' => ?_⟩
        cases n with
        | zero =>
          rw [Nat.add_zero, hr] at hr'
          cases hr'
          cases he'
          exact he
        | succ n =>
          rw [show next + (n + 1) = next + 1 + n by omega] at hr'
          exact hAll n r' e' hr' he'
  | callback name decide =>
    -- what was held before is replaced, by this event or by a later one
    simp only [Holds, apply, Logged.value_pure]
    cases es with
    | nil => rfl
    | cons e' es => rw [List.getLast?_cons_cons, List.getLast?_cons]; rfl

/-- What an observer holds after events is what has to hold of all of them. -/
theorem applyAll_snd_iff (o : Outcome) (start : Bool) (es : List Event) :
    (o.applyAll start es).2 = true ↔ o.Holds start es := by
  induction es generalizing o start with
  | nil =>
    cases o with
    | headerMatch r => simp [applyAll, Holds]
    | orderedHeaderMatch rs next => simp [applyAll, Holds]
    | callback name decide => rfl
  | cons e es ih =>
    rw [holds_cons, applyAll]
    exact ih _ _

/-- The requirements of a list are used up one by one, and once there are none left, the place in
the list stays where it is. -/
theorem applyAll_fst_orderedHeaderMatch {rs : List Requirements} {next : Nat}
    (h : next ≤ rs.length) (passed : Bool) (es : List Event) :
    ((orderedHeaderMatch rs next).applyAll passed es).1 =
      orderedHeaderMatch rs (min (next + es.length) rs.length) := by
  induction es generalizing next passed with
  | nil => rw [applyAll, List.length_nil, Nat.add_zero, Nat.min_eq_left h]
  | cons e es ih =>
    rw [applyAll, List.length_cons]
    cases hr : rs[next]? with
    | none =>
      -- the list is used up, and the place stays at its end
      have hEnd : rs.length ≤ next := List.getElem?_eq_none_iff.mp hr
      have hJudged : ((orderedHeaderMatch rs next).apply e passed).value =
          (orderedHeaderMatch rs next, passed) := by
        simp only [apply, hr, Logged.value_pure]
      have hPlace : min (next + es.length) rs.length = min (next + (es.length + 1)) rs.length := by
        omega
      rw [hJudged, ih h, hPlace]
    | some r =>
      -- the place moves on by one
      obtain ⟨hlt, -⟩ := List.getElem?_eq_some_iff.mp hr
      have hJudged : ((orderedHeaderMatch rs next).apply e passed).value.1 =
          orderedHeaderMatch rs (next + 1) := by
        simp only [apply, hr, Logged.value_bind, Logged.value_pure]
      have hPlace : next + 1 + es.length = next + (es.length + 1) := by omega
      rw [hJudged, ih hlt, hPlace]

instance (o : Outcome) (start : Bool) (es : List Event) : Decidable (o.Holds start es) :=
  decidable_of_iff _ (o.applyAll_snd_iff start es)

end Outcome

end StreamVerdict
