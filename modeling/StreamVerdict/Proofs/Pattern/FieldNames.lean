import StreamVerdict.Proofs.Event.Lookup
import StreamVerdict.Proofs.Observer.Judgement
import StreamVerdict.Proofs.Regex.Anchor
import StreamVerdict.Proofs.Traversal

/-!
# Patterns and the names of fields

A clause puts the name of its field into lower case before it looks it up, so
that it finds what an event has put into lower case in the same way. Case does
not count between the two, whatever the script.

What is built from clauses then depends on their names up to case only, and
whether an event satisfies all of them does not depend on their order.

Main definitions:

* `Respelled` — lists of named texts that differ in the case of names only;
* `Rearranged` — lists that differ in order as well.

Main results:

* `Clause.check_ofPairs` — a clause judges the first pair of its name;
* `Pattern.exists_compile_of_rearranged` — other spellings and other orders
  build the same clauses;
* `Pattern.names_agree_up_to_case` — clauses, patterns and requirements.
-/

namespace StreamVerdict

open Text (lowercase)

/-! ## Spellings -/

/-- The same texts under the same names, case not counting. -/
def Respelled (xs ys : List (String × String)) : Prop :=
  List.Forall₂ (fun x y => lowercase x.1 = lowercase y.1 ∧ x.2 = y.2) xs ys

/-- The same texts under the same names in any order, case not counting. -/
def Rearranged (xs ys : List (String × String)) : Prop :=
  ∃ zs, xs.Perm zs ∧ Respelled zs ys

theorem Respelled.refl (xs : List (String × String)) : Respelled xs xs :=
  List.forall₂_same.mpr fun _ _ => ⟨rfl, rfl⟩

/-- An event does not depend on how the case of its names was. -/
theorem Respelled.ofPairs_eq {pairs pairs' : List (String × String)}
    (h : Respelled pairs pairs') : Event.ofPairs pairs = Event.ofPairs pairs' := by
  induction h with
  | nil => rfl
  | @cons x y xs ys hxy _ ih =>
    have hRest : (Event.ofPairs xs).fields = (Event.ofPairs ys).fields := congrArg _ ih
    have hFirst : (lowercase x.1, x.2) = (lowercase y.1, y.2) := by rw [hxy.1, hxy.2]
    exact congrArg Event.mk (congrArg₂ List.cons hFirst hRest)

/-! ## Clauses -/

namespace Clause

/-- A clause does not depend on how the case of its name was. -/
theorem compile_of_respelled {field field' source : String} {c : Clause}
    (hField : lowercase field = lowercase field') (h : compile field source = .ok c) :
    compile field' source = .ok c := by
  rw [compile_eq_ok_iff] at h ⊢
  rw [← hField]
  exact h

theorem mapM_compile_of_respelled {xs ys : List (String × String)} {cs : List Clause}
    (hxy : Respelled xs ys) (h : (xs.mapM fun x => compile x.1 x.2) = .ok cs) :
    (ys.mapM fun y => compile y.1 y.2) = .ok cs := by
  rw [Traversal.mapM_eq_ok_iff] at h ⊢
  induction hxy generalizing cs with
  | nil => exact h
  | cons hName _ ih =>
    cases h with
    | cons hClause hRest =>
      rw [hName.2] at hClause
      exact .cons (compile_of_respelled hName.1 hClause) (ih hRest)

theorem exists_mapM_compile {xs ys : List (String × String)} {cs : List Clause}
    (hxy : Rearranged xs ys) (h : (xs.mapM fun x => compile x.1 x.2) = .ok cs) :
    ∃ cs', (ys.mapM fun y => compile y.1 y.2) = .ok cs' ∧ cs'.Perm cs := by
  obtain ⟨zs, hPerm, hRespelled⟩ := hxy
  obtain ⟨cs', hcs', hCPerm⟩ := Traversal.exists_mapM_of_perm hPerm.symm h
  exact ⟨cs', mapM_compile_of_respelled hRespelled hcs', hCPerm⟩

/-- A clause judges the value of the first pair that has its name, case not counting. -/
theorem check_ofPairs {field source : String} {c : Clause} (h : compile field source = .ok c)
    (pairs : List (String × String)) :
    c.check (.ofPairs pairs) =
      match Event.firstNamed? pairs field with
      | none => .missing
      | some value => if c.regex.isMatch value then .matched else .mismatch := by
  have hField : c.field = lowercase field := by
    rw [(compile_eq_ok_iff.mp h).2]
  have hValue := Event.get?_ofPairs_lowercase pairs field
  unfold check
  rw [hField]
  cases hFirst : Event.firstNamed? pairs field with
  | none => rw [hValue, hFirst]
  | some value => rw [hValue, hFirst]

end Clause

/-! ## Patterns and requirements -/

namespace Pattern

theorem compile_eq_ok_iff {positive negative : List (String × String)} {p : Pattern} :
    compile positive negative = .ok p ↔
      (positive.mapM fun x => Clause.compile x.1 x.2) = .ok p.positive ∧
      (negative.mapM fun x => Clause.compile x.1 x.2) = .ok p.negative := by
  unfold compile
  rw [Traversal.bind_eq_ok_iff]
  constructor
  · rintro ⟨cs, hcs, h⟩
    obtain ⟨ds, hds, hp⟩ := Traversal.bind_eq_ok_iff.mp h
    cases hp
    exact ⟨hcs, hds⟩
  · rintro ⟨hcs, hds⟩
    exact ⟨_, hcs, Traversal.bind_eq_ok_iff.mpr ⟨_, hds, rfl⟩⟩

/-- There is a compiled clause for each that is configured. -/
theorem isEmpty_of_compile {positive negative : List (String × String)} {p : Pattern}
    (h : compile positive negative = .ok p) : p.isEmpty = positive.isEmpty := by
  have hLength := (Traversal.mapM_eq_ok_iff.mp (compile_eq_ok_iff.mp h).1).length_eq
  rw [Bool.eq_iff_iff]
  simp [isEmpty, ← List.length_eq_zero_iff, hLength]

/-- From clauses in another order and another spelling the same clauses are built. -/
theorem exists_compile_of_rearranged
    {positive negative positive' negative' : List (String × String)} {p : Pattern}
    (h : compile positive negative = .ok p) (hPos : Rearranged positive positive')
    (hNeg : Rearranged negative negative') :
    ∃ p', compile positive' negative' = .ok p' ∧
      p'.positive.Perm p.positive ∧ p'.negative.Perm p.negative := by
  obtain ⟨hcs, hds⟩ := compile_eq_ok_iff.mp h
  obtain ⟨cs, hcs', hCPerm⟩ := Clause.exists_mapM_compile hPos hcs
  obtain ⟨ds, hds', hDPerm⟩ := Clause.exists_mapM_compile hNeg hds
  exact ⟨⟨cs, ds⟩, compile_eq_ok_iff.mpr ⟨hcs', hds'⟩, hCPerm, hDPerm⟩

theorem accepts_iff {p : Pattern} {e : Event} :
    p.accepts e = true ↔ p.positive ≠ [] ∧ (∀ c ∈ p.positive, c.check e = .matched) ∧
      ∀ c ∈ p.negative, c.check e ≠ .matched := by
  simp [accepts, isEmpty, and_assoc]

/-- In another order the clauses mean the same events. -/
theorem accepts_of_perm {p p' : Pattern} (hPos : p'.positive.Perm p.positive)
    (hNeg : p'.negative.Perm p.negative) (e : Event) : p'.accepts e = p.accepts e := by
  have hEmpty : p'.positive = [] ↔ p.positive = [] := by
    constructor
    · intro hNil
      exact (hNil ▸ hPos).nil_eq.symm
    · intro hNil
      exact (hNil ▸ hPos).eq_nil
  rw [Bool.eq_iff_iff, accepts_iff, accepts_iff]
  simp only [ne_eq, hEmpty, hPos.mem_iff, hNeg.mem_iff]

end Pattern

/-- In another order the clauses ask for the same. -/
theorem Requirements.check_of_perm {r r' : Requirements}
    (hPos : r'.pattern.positive.Perm r.pattern.positive)
    (hNeg : r'.pattern.negative.Perm r.pattern.negative) (e : Event) :
    (r'.check e).value = (r.check e).value := by
  rw [Bool.eq_iff_iff, check_value_iff, check_value_iff, IsSatisfiedBy, IsSatisfiedBy]
  simp only [hPos.mem_iff, hNeg.mem_iff]

theorem Requirements.ofConfig_eq_ok_iff {c : ClauseConfig} {r : Requirements} :
    ofConfig c = .ok r ↔ Pattern.compile c.positive.entries c.negative.entries = .ok r.pattern := by
  unfold ofConfig
  rw [Traversal.bind_eq_ok_iff]
  constructor
  · rintro ⟨p, hp, hr⟩
    cases hr
    exact hp
  · intro hp
    exact ⟨_, hp, rfl⟩

namespace Pattern

/-- **Names agree up to case.**

1. A clause that is built for a field of any name misses it in an event exactly if none of the pairs
   has this name, case not counting. Otherwise it judges the value of the first pair that has it.
2. A pattern means the same events if the names of its clauses or of the events change in case, or
   the clauses in order. Where the one pattern can be built the other one can.
3. So do requirements. -/
theorem names_agree_up_to_case :
    (∀ field source c, Clause.compile field source = .ok c →
      Regex.compile source = .ok c.regex ∧ ∀ pairs,
      (c.check (.ofPairs pairs) = .missing ↔ ∀ p ∈ pairs, lowercase p.1 ≠ lowercase field) ∧
      ∀ before p after, pairs = before ++ p :: after →
        (∀ q ∈ before, lowercase q.1 ≠ lowercase field) → lowercase p.1 = lowercase field →
        c.check (.ofPairs pairs) = if c.regex.isMatch p.2 then .matched else .mismatch) ∧
    (∀ positive negative positive' negative' p, compile positive negative = .ok p →
      Rearranged positive positive' → Rearranged negative negative' →
      ∃ p', compile positive' negative' = .ok p' ∧ ∀ pairs pairs', Respelled pairs pairs' →
        p'.accepts (.ofPairs pairs') = p.accepts (.ofPairs pairs)) ∧
    ∀ (config config' : ClauseConfig) r, Requirements.ofConfig config = .ok r →
      Rearranged config.positive.entries config'.positive.entries →
      Rearranged config.negative.entries config'.negative.entries →
      ∃ r', Requirements.ofConfig config' = .ok r' ∧ ∀ pairs pairs', Respelled pairs pairs' →
        (r'.check (.ofPairs pairs')).value = (r.check (.ofPairs pairs)).value := by
  refine ⟨?_, ?_, ?_⟩
  · -- a clause sees the first pair with its name
    intro field source c hc
    refine ⟨(Clause.compile_eq_ok_iff.mp hc).1, fun pairs => ⟨?_, ?_⟩⟩
    · rw [Clause.check_ofPairs hc, ← Event.firstNamed?_eq_none_iff]
      cases Event.firstNamed? pairs field with
      | none => simp
      | some value => cases hMatch : c.regex.isMatch value <;> simp [hMatch]
    · rintro before p after rfl hBefore hp
      have hFirst : Event.firstNamed? (before ++ p :: after) field = some p.2 :=
        Event.firstNamed?_eq_some_iff.mpr ⟨before, p.1, after, rfl, hp, hBefore⟩
      rw [Clause.check_ofPairs hc, hFirst]
  · -- the event is the same event, and a pattern is known up to the order of its clauses
    intro positive negative positive' negative' p hp hPos hNeg
    obtain ⟨p', hp', hPPerm, hNPerm⟩ := exists_compile_of_rearranged hp hPos hNeg
    refine ⟨p', hp', fun pairs pairs' hPairs => ?_⟩
    rw [hPairs.ofPairs_eq, accepts_of_perm hPPerm hNPerm]
  · intro config config' r hr hPos hNeg
    rw [Requirements.ofConfig_eq_ok_iff] at hr
    obtain ⟨p', hp', hPPerm, hNPerm⟩ := exists_compile_of_rearranged hr hPos hNeg
    refine ⟨⟨p'⟩, Requirements.ofConfig_eq_ok_iff.mpr hp', fun pairs pairs' hPairs => ?_⟩
    rw [hPairs.ofPairs_eq, Requirements.check_of_perm hPPerm hNPerm]

/-- A clause for a name with an accent, and events that spell this name in another case. -/
theorem accented_names_agree :
    (∃ c, Clause.compile "É" "a" = .ok c ∧
      c.check (.ofPairs [("Id", "b"), ("é", "ab"), ("É", "b")]) = .matched) ∧
    (∃ p', compile [("EVENT", "b"), ("é", "a")] [] = .ok p' ∧
      p'.accepts (.ofPairs [("é", "ab"), ("event", "b")]) = true) ∧
    ∃ r', Requirements.ofConfig { positive := .ofList [("é", "a")] } = .ok r' ∧
      (r'.check (.ofPairs [("é", "ab")])).value = true := by
  have hAccent : lowercase "é" = lowercase "É" := by decide +kernel
  have hId : lowercase "Id" ≠ lowercase "É" := by decide +kernel
  have hCapitals : lowercase "EVENT" = lowercase "Event" := by decide +kernel
  have hName : lowercase "event" = lowercase "Event" := by decide +kernel
  obtain ⟨hClauses, hPatterns, hRequirements⟩ := names_agree_up_to_case
  refine ⟨?_, ?_, ?_⟩
  · -- the accented pair comes before the capital one
    obtain ⟨c, hc, hMatch⟩ : ∃ c, Clause.compile "É" "a" = .ok c ∧ c.regex.isMatch "ab" = true :=
      ⟨⟨"é", "a", .anchored (.char 'a')⟩, by decide +kernel⟩
    have hFirst := ((hClauses "É" "a" c hc).2 _).2 [("Id", "b")] ("é", "ab") [("É", "b")] rfl
      (List.forall_mem_singleton.mpr hId) hAccent
    rw [if_pos hMatch] at hFirst
    exact ⟨c, hc, hFirst⟩
  · obtain ⟨p, hp, hAccepts⟩ : ∃ p, compile [("É", "a"), ("Event", "b")] [] = .ok p ∧
        p.accepts (.ofPairs [("É", "ab"), ("Event", "b")]) = true :=
      ⟨⟨[⟨"é", "a", .anchored (.char 'a')⟩, ⟨"event", "b", .anchored (.char 'b')⟩], []⟩,
        by decide +kernel⟩
    obtain ⟨p', hp', hSame⟩ := hPatterns _ _ [("EVENT", "b"), ("é", "a")] [] p hp
      ⟨[("Event", "b"), ("É", "a")], .swap .., .cons ⟨hCapitals.symm, rfl⟩
        (.cons ⟨hAccent.symm, rfl⟩ .nil)⟩ ⟨[], .refl _, .refl _⟩
    refine ⟨p', hp', ?_⟩
    rw [hSame [("É", "ab"), ("Event", "b")] [("é", "ab"), ("event", "b")]
      (.cons ⟨hAccent.symm, rfl⟩ (.cons ⟨hName.symm, rfl⟩ .nil)), hAccepts]
  · obtain ⟨r, hr, hCheck⟩ : ∃ r,
        Requirements.ofConfig { positive := .ofList [("É", "a")] } = .ok r ∧
          (r.check (.ofPairs [("É", "ab")])).value = true :=
      ⟨⟨⟨[⟨"é", "a", .anchored (.char 'a')⟩], []⟩⟩, by decide +kernel⟩
    obtain ⟨r', hr', hSame⟩ := hRequirements _ { positive := .ofList [("é", "a")] } r hr
      ⟨[("É", "a")], .refl _, .cons ⟨hAccent.symm, rfl⟩ .nil⟩ ⟨[], .refl _, .refl _⟩
    refine ⟨r', hr', ?_⟩
    rw [hSame [("É", "ab")] [("é", "ab")] (.cons ⟨hAccent.symm, rfl⟩ .nil), hCheck]

end Pattern

end StreamVerdict
