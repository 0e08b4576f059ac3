import Mathlib.Logic.Relation
import StreamVerdict.Proofs.Configuration.Format
import StreamVerdict.Proofs.ExpectationSet.Run
import StreamVerdict.Proofs.Quota.Canonical

/-!
# Spellings of an expectation

One expectation can be configured in several ways. The short form can be
written out, an expression for the text of an event can be given for the field
that holds the text, and most quotas have several names. Whoever reads a
configuration need not know which way was chosen: all of them are built into
the same expectation, or fail with the same error.

A change of spelling is given here one place at a time, for the full form with
everything else as it may be. The short form does not go through the reader of
quotas at all, and a number is not read as a text, so each change has to be
followed through the builder by its own way. All that the builder makes use of
is the quota and the clauses, and neither depends on the spelling.

Main definitions:

* `Expectation.Config.Respells` — one change of spelling;
* `Expectation.Config.SaysSameAs`, `ExpectationSet.Config.SaysSameAs` — any
  number of them, in one expectation or in all of a set.

Main results:

* `Expectation.ofConfig_congr` — what an expectation is built from;
* `Expectation.Config.Respells.quota_eq` — the quota in other spellings;
* `ExpectationSet.spellings_are_interchangeable` — expectations and sets.
-/

namespace StreamVerdict

/-! ## Changes of spelling -/

namespace Expectation.Config

/-- Two spellings of an expectation that differ in one place. -/
inductive Respells : Config → Config → Prop where
  /-- The short form is written out. -/
  | expanded (source : String) : Respells (.short source) (.full (Config.short source).toFields)
  /-- The expression is given for the field that holds the text of an event. -/
  | named (f : Fields) (source : String) :
      Respells (.full { f with positive := .text source })
        (.full { f with positive := .fields (.ofList [(Event.valueField, source)]) })
  /-- That something is expected once is said. -/
  | once (f : Fields) {count : Quota.Written} (h : count ∈ [.number 1, .text "1"]) :
      Respells (.full { f with count := none, isOptional := false })
        (.full { f with count := some count, isOptional := false })
  /-- That something is optional is said by a count. -/
  | optional (f : Fields) {text : String} (h : text ∈ ["optional", "<2", "0-1"]) :
      Respells (.full { f with count := none, isOptional := true })
        (.full { f with count := some (.text text), isOptional := false })
  /-- A number is given as its digits, or as a range. -/
  | number (f : Fields) (n : UInt64) {text : String} (h : text ∈ [toString n, s!"{n}-{n}"]) :
      Respells (.full { f with count := some (.number n) })
        (.full { f with count := some (.text text) })

/-- Two spellings of an expectation, with any number of changes from one to the other. -/
def SaysSameAs : Config → Config → Prop :=
  Relation.EqvGen Respells

end Expectation.Config

/-- Two configured sets that differ in the spelling of their expectations only. -/
structure ExpectationSet.Config.SaysSameAs (c c' : Config) : Prop where
  expectations : List.Forall₂ Expectation.Config.SaysSameAs c.expectations c'.expectations
  onAny : c.onAny = c'.onAny
  onAll : c.onAll = c'.onAll

/-! ## Quotas -/

namespace Quota

theorem describe_exactly (n : UInt64) : (exactly n).describe = toString n := by
  simp [describe, exactly]

/-- The digits of a number and the range from it to itself are read as the number. -/
theorem parse_of_number {n : UInt64} {text : String} (h : text ∈ [toString n, s!"{n}-{n}"]) :
    parse text = .ok (exactly n) := by
  rcases List.mem_pair.mp h with rfl | rfl
  · rw [← describe_exactly]
    exact parse_describe (by simp [exactly])
  · exact parse_hyphen (UInt64.le_refl n)

/-- Three texts are read as once or not at all. -/
theorem parse_of_optional {text : String} (h : text ∈ ["optional", "<2", "0-1"]) :
    parse text = .ok optional := by
  revert text
  decide +kernel

end Quota

namespace Expectation

/-- The quota of an expectation is the same in every spelling, or fails with the same error. -/
theorem Config.Respells.quota_eq {c c' : Config} (h : Respells c c') : c.quota = c'.quota := by
  cases h with
  | expanded source => rfl
  | named f source => rfl
  | once f h =>
    rcases List.mem_pair.mp h with rfl | rfl
    · -- a field without a count is read as the default
      rfl
    · -- the written `"1"` is the default too
      have hOnce : Quota.parse "1" = .ok .once := Quota.parse_of_number (n := 1) (by decide)
      simp only [Config.quota, Fields.quota, Quota.Written.quota, hOnce]
  | optional f h =>
    simp only [Config.quota, Fields.quota, Quota.Written.quota, Quota.parse_of_optional h]
  | number f n h =>
    -- beside `optional` no count is read, and both spellings fail for that
    cases f.isOptional with
    | true => simp only [Config.quota, Fields.quota]
    | false => simp only [Config.quota, Fields.quota, Quota.Written.quota, Quota.parse_of_number h]

/-! ## Expectations and sets -/

/-- An expectation is built from its quota, its name and its clauses. -/
theorem ofConfig_congr {c c' : Config} (hQuota : c.quota = c'.quota)
    (hName : c.toFields.name = c'.toFields.name)
    (hPositive : c.toFields.positive.toFields = c'.toFields.positive.toFields)
    (hNegative : c.toFields.negative = c'.toFields.negative) : ofConfig c = ofConfig c' := by
  simp only [ofConfig, hQuota, hName, hPositive, hNegative]

theorem ofConfig_of_respells {c c' : Config} (h : Config.Respells c c') :
    ofConfig c = ofConfig c' := by
  refine ofConfig_congr h.quota_eq ?_ ?_ ?_
  -- names and clauses are the same already once the short forms are written out
  all_goals cases h <;> rfl

theorem ofConfig_of_saysSameAs {c c' : Config} (h : c.SaysSameAs c') :
    ofConfig c = ofConfig c' := by
  induction h with
  | rel _ _ h => exact ofConfig_of_respells h
  | refl _ => rfl
  | symm _ _ _ ih => exact ih.symm
  | trans _ _ _ _ _ ih ih' => exact ih.trans ih'

/-- The three ways to write down an expression for the text of an event are read, and say the
same. -/
theorem exists_ofTree?_of_source (style : Tree.Style) (source : String) {tree : Tree}
    (h : tree ∈ [.text source, .record [("match", .text source)],
      .record [("match", .record [(Event.valueField, .text source)])]]) :
    ∃ c, Config.ofTree? style tree = some c ∧ c.SaysSameAs (.short source) := by
  have hExpanded := Config.Respells.expanded source
  have hNamed := Config.Respells.named (Config.short source).toFields source
  have hRead (c : Config) : Config.ofTree? style c.toTree = some c :=
    c.reads_toTree style _ (.refl _)
  -- each tree is what a configuration is written as, so it is read as that configuration
  simp only [List.mem_cons, List.not_mem_nil, or_false] at h
  rcases h with rfl | rfl | rfl
  · exact ⟨.short source, hRead (.short source), .refl _⟩
  · exact ⟨_, hRead (.full (Config.short source).toFields), .symm _ _ (.rel _ _ hExpanded)⟩
  · exact ⟨_, hRead (.full { positive := .fields (.ofList [(Event.valueField, source)]) }),
      .symm _ _ (.trans _ _ _ (.rel _ _ hExpanded) (.rel _ _ hNamed))⟩

end Expectation

namespace ExpectationSet

theorem ofConfig_of_saysSameAs {c c' : Config} (h : c.SaysSameAs c') :
    ofConfig c = ofConfig c' := by
  have hBuilt := Traversal.mapM_congr_of_forall₂
    (h.expectations.imp fun _ _ => Expectation.ofConfig_of_saysSameAs)
  have hTrigger : c.trigger = c'.trigger := by
    rw [Config.trigger, Config.trigger, h.onAny, h.onAll]
  rw [ofConfig, ofConfig, hBuilt, hTrigger]

/-- **Spellings are interchangeable.**

1. Configurations that differ in spelling only are built into the same expectation, or fail with
   the same error.
2. The ways to write down an expression for the text of an event are read as such configurations,
   in either format: the expression by itself, as what is to match, or as what the field that holds
   the text is to match.
3. Sets whose expectations differ in spelling only are built into the same set, or fail with the
   same error. On all events they give the same answers, have the same tallies after them, and the
   same result of the final check. -/
theorem spellings_are_interchangeable :
    (∀ c c' : Expectation.Config, c.SaysSameAs c' →
      Expectation.ofConfig c = Expectation.ofConfig c') ∧
    (∀ (style : Tree.Style) (source : String), ∀ tree ∈ [.text source,
        .record [("match", .text source)], .record [("match", .record [("value", .text source)])]],
      ∃ c, Expectation.Config.ofTree? style tree = some c ∧ c.SaysSameAs (.short source)) ∧
    ∀ c c' : Config, c.SaysSameAs c' → ofConfig c = ofConfig c' ∧
      ∀ s s', ofConfig c = .ok s → ofConfig c' = .ok s' → ∀ es,
        (s.checkAll es).2 = (s'.checkAll es).2 ∧
        (s.checkAll es).1.expectations.map (·.seen) =
          (s'.checkAll es).1.expectations.map (·.seen) ∧
        (s.checkAll es).1.checkFinal = (s'.checkAll es).1.checkFinal := by
  refine ⟨fun c c' => Expectation.ofConfig_of_saysSameAs,
    fun style source tree => Expectation.exists_ofTree?_of_source style source, ?_⟩
  intro c c' h
  have hBuilt := ofConfig_of_saysSameAs h
  refine ⟨hBuilt, fun s s' hs hs' es => ?_⟩
  -- what is built is not only alike but the same, so it goes on in the same way
  obtain rfl : s = s' := Except.ok.inj (hs.symm.trans (hBuilt.trans hs'))
  exact ⟨rfl, rfl, rfl⟩

/-- Letters that are expected, in few words. -/
def briefLetters : Config where
  expectations := [
    .short "a",
    .full { name := some "bees", positive := .text "b", count := some (.number 3) },
    .full { positive := .text "c", isOptional := true }]

/-- The same letters in many words. -/
def wordyLetters : Config where
  expectations := [
    .full { positive := .fields (.ofList [("value", "a")]), count := some (.text "1") },
    .full { name := some "bees", positive := .fields (.ofList [("value", "b")]),
            count := some (.text "3-3") },
    .full { positive := .text "c", count := some (.text "<2") }]

theorem briefLetters_saysSameAs : briefLetters.SaysSameAs wordyLetters where
  expectations := by
    refine .cons ?_ (.cons ?_ (.cons ?_ .nil))
    · -- `"a"` written out with its field and its count
      have hExpanded := Expectation.Config.Respells.expanded "a"
      have hNamed := Expectation.Config.Respells.named (Expectation.Config.short "a").toFields "a"
      have hOnce := @Expectation.Config.Respells.once
        { positive := .fields (.ofList [("value", "a")]) } (.text "1") (by decide)
      exact .trans _ _ _ (.rel _ _ hExpanded) (.trans _ _ _ (.rel _ _ hNamed) (.rel _ _ hOnce))
    · -- `3` is `"3-3"`
      have hNamed := Expectation.Config.Respells.named
        { name := some "bees", count := some (.number 3) } "b"
      have hNumber := @Expectation.Config.Respells.number
        { name := some "bees", positive := .fields (.ofList [("value", "b")]) } 3 "3-3" (by decide)
      exact .trans _ _ _ (.rel _ _ hNamed) (.rel _ _ hNumber)
    · -- a flag for a count
      exact .rel _ _ (.optional { positive := .text "c" } (by decide))
  onAny := rfl
  onAll := rfl

/-- In many words the same letters are counted as in few words, up to the second `c`, which is one
too many. What is no expression is refused in the same words. -/
theorem wordyLetters_counted :
    briefLetters.SaysSameAs wordyLetters ∧
    (∃ s, ofConfig wordyLetters = .ok s ∧
      (s.checkAll [.ofText "b", .ofText "c", .ofText "c"]).1.expectations.map (·.seen) =
        [0, 1, 2]) ∧
    Expectation.ofConfig (.full { positive := .text "(" }) =
      .error (.invalidRegex "value" "(" "unclosed group") := by
  obtain ⟨hBuilt, -, hSets⟩ := spellings_are_interchangeable
  obtain ⟨hSame, hRuns⟩ := hSets _ _ briefLetters_saysSameAs
  refine ⟨briefLetters_saysSameAs, ?_, ?_⟩
  · obtain ⟨s, hs⟩ : ∃ s, ofConfig briefLetters = .ok s :=
      Traversal.exists_of_isOk (by decide +kernel)
    have hSeen : (ofConfig briefLetters).map (fun s => (s.checkAll [.ofText "b", .ofText "c",
        .ofText "c"]).1.expectations.map (·.seen)) = .ok [0, 1, 2] := by
      decide +kernel
    rw [hs] at hSeen
    have hs' := hSame.symm.trans hs
    obtain ⟨-, hSame, -⟩ := hRuns s s hs hs' [.ofText "b", .ofText "c", .ofText "c"]
    exact ⟨s, hs', hSame.symm.trans (Except.ok.inj hSeen)⟩
  · have hRefused : Expectation.ofConfig (.short "(") =
        .error (.invalidRegex "value" "(" "unclosed group") := by
      decide +kernel
    exact (hBuilt _ _ (.rel _ _ (.expanded "("))).symm.trans hRefused

end ExpectationSet

end StreamVerdict
