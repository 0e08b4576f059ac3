import StreamVerdict.Proofs.Tree.Reading

/-!
# The format of a configuration

Every configured thing is written as a regular tree, and read back from that
tree and from every one that is alike.

There is one lemma of each kind for each configured thing. Where one thing is a
part of another, so are their lemmas: a field that is added to one of them
concerns its own lemmas and no others.

Main definitions:

* `Plan.integers` — the numbers in a plan.

Main results:

* `Plan.regular_toTree` — a plan is written as a regular tree;
* `Plan.ints_toTree` — the integers in that tree;
* `Plan.reads_toTree` — a plan is read back.
-/

namespace StreamVerdict

open StreamVerdict.Tree

/-! ## Maps -/

theorem KeyMap.eq_empty_of_isEmpty {β : Type} {m : KeyMap β} (h : m.isEmpty = true) : m = .empty :=
  ext_entries (List.isEmpty_iff.mp h)

theorem TextMap.regular_toTree (m : TextMap) : Regular 1 m.toTree := by
  refine .record ?_ ?_
  · rw [List.map_map]
    exact List.pairwise_map.mpr m.pairwise_ne
  · rw [List.forall_mem_map]
    exact fun e _ => .text e.2

@[simp] theorem TextMap.ints_toTree (m : TextMap) : m.toTree.ints = [] := by
  rw [TextMap.toTree, ints_record, List.flatMap_eq_nil_iff, List.forall_mem_map]
  exact fun _ _ => rfl

/-- A map that is left out where it is empty. -/
theorem TextMap.readsPart_toTree (m : TextMap) :
    ReadsPart (orElse? .empty textMap?) (if m.isEmpty = false then some m.toTree else none) m :=
  (reads_textMap m).givenIf _ fun h => KeyMap.eq_empty_of_isEmpty (by simpa using h)

/-! ## Quotas -/

namespace Quota.Written

/-- The number in a quota, if it is one. -/
def integers : Written → List UInt64
  | number n => [n]
  | text _ => []

theorem regular_toTree (w : Written) : Regular 0 w.toTree := by
  cases w with
  | number n => exact .int n.toNat
  | text s => exact .text s

@[simp] theorem ints_toTree (w : Written) :
    w.toTree.ints = w.integers.map fun n => (n.toNat : Int) := by
  cases w <;> rfl

theorem reads_toTree (w : Written) : Reads ofTree? w.toTree w := by
  have hRegular := w.regular_toTree
  cases w with
  | number n => exact ((reads_word n).map _).either_left hRegular
  | text s => exact ((reads_text s).map _).either_right ((refuses_word_text s).map _) hRegular

/-- A quota that may be left out. -/
theorem readsPart_toTree (w : Option Written) :
    ReadsPart (orElse? none (orNull? ofTree?)) (w.map toTree) w :=
  readsPart_orNull (fun v _ => v.reads_toTree) (by rintro (_ | _) <;> nofun)

end Quota.Written

/-! ## Expectations -/

namespace MatchClause

theorem regular_toTree (c : MatchClause) : Regular 1 c.toTree := by
  cases c with
  | text s => exact .text s
  | fields m => exact m.regular_toTree

@[simp] theorem ints_toTree (c : MatchClause) : c.toTree.ints = [] := by
  cases c with
  | text s => rfl
  | fields m => exact m.ints_toTree

theorem reads_toTree (c : MatchClause) : Reads ofTree? c.toTree c := by
  have hRegular := c.regular_toTree
  cases c with
  | text s => exact ((reads_text s).map _).either_left hRegular
  | fields m =>
    exact ((reads_textMap m).map _).either_right ((refuses_text_record _).map _) hRegular

end MatchClause

/-- A text that may be left out. -/
theorem Tree.readsPart_text (s : Option String) :
    ReadsPart (orElse? none (orNull? text?)) (s.map .text) s :=
  readsPart_orNull (fun v _ => reads_text v) nofun

namespace Expectation

theorem Fields.regular_toTree (f : Fields) : Regular 2 f.toTree := by
  refine regular_of_namedIn ["name", "match", "nomatch", "count", "optional"]
    ((namedIn_memberOf ..).append (namedIn_all _) |>.append (namedIn_memberIf ..)
      |>.append (namedIn_memberOf ..) |>.append (namedIn_memberIf ..)) (by decide) ?_
  simp only [List.forall_mem_append, forall_mem_memberOf, forall_mem_memberIf,
    List.forall_mem_singleton, and_assoc]
  exact ⟨fun s _ => .text s, f.positive.regular_toTree, fun _ => f.negative.regular_toTree,
    fun w _ => w.regular_toTree.succ, fun _ => .bool _⟩

theorem Fields.reads_toTree (s : Style) (f : Fields) : Reads (ofTree? s) f.toTree f := by
  intro t hAlike
  obtain ⟨part, hFields, hPart⟩ := hAlike.fields? f.regular_toTree s
    ["name", "match", "nomatch", "count", "optional"]
  -- part by part, each through the reader of its own type
  have hName : orElse? none (orNull? text?) (part "name") = some f.name :=
    readsPart_text f.name _ (by simpa using hPart "name")
  have hPositive : orElse? (.fields .empty) MatchClause.ofTree? (part "match") =
      some f.positive :=
    f.positive.reads_toTree.given _ _ (by simpa using hPart "match")
  have hNegative : orElse? .empty textMap? (part "nomatch") = some f.negative :=
    f.negative.readsPart_toTree _ (by simpa using hPart "nomatch")
  have hCount : orElse? none (orNull? Quota.Written.ofTree?) (part "count") = some f.count :=
    Quota.Written.readsPart_toTree f.count _ (by simpa using hPart "count")
  have hOptional : orElse? false bool? (part "optional") = some f.isOptional :=
    (reads_bool f.isOptional).givenIf (f.isOptional = true) (by simp) _
      (by simpa using hPart "optional")
  rw [ofTree?, hFields]
  simp [hName, hPositive, hNegative, hCount, hOptional]

namespace Config

/-- The numbers in an expectation. -/
def integers : Config → List UInt64
  | short _ => []
  | full f => f.count.toList.flatMap Quota.Written.integers

theorem regular_toTree (c : Config) : Regular 2 c.toTree := by
  cases c with
  | short s => exact .text s
  | full f => exact f.regular_toTree

@[simp] theorem ints_toTree (c : Config) :
    c.toTree.ints = c.integers.map fun n => (n.toNat : Int) := by
  cases c with
  | short s => rfl
  | full f =>
    simp [toTree, Fields.toTree, integers, flatMap_memberOf, flatMap_memberIf,
      List.map_flatMap]

theorem reads_toTree (s : Style) (c : Config) : Reads (ofTree? s) c.toTree c := by
  have hRegular := c.regular_toTree
  cases c with
  | short source => exact ((reads_text source).map _).either_left hRegular
  | full f =>
    exact ((f.reads_toTree s.inner).map _).either_right ((refuses_text_record _).map _) hRegular

end Config

end Expectation

namespace ExpectationSet.Config

/-- The numbers in a set of expectations. -/
def integers (c : Config) : List UInt64 :=
  c.expectations.flatMap Expectation.Config.integers

theorem regular_toTree (c : Config) : Regular 4 c.toTree := by
  refine regular_of_namedIn ["conditions", "trigger-on-any", "trigger-on-all"]
    (namedIn_all _) (by decide) ?_
  simp only [List.forall_mem_cons, List.not_mem_nil, false_imp_iff, implies_true, and_true]
  exact ⟨.list (List.forall_mem_map.mpr fun e _ => e.regular_toTree), .bool _, .bool _⟩

@[simp] theorem ints_toTree (c : Config) :
    c.toTree.ints = c.integers.map fun n => (n.toNat : Int) := by
  simp [toTree, integers, List.flatMap_map, List.map_flatMap]

theorem reads_toTree (s : Style) (c : Config) : Reads (ofTree? s) c.toTree c := by
  intro t hAlike
  obtain ⟨part, hFields, hPart⟩ := hAlike.fields? c.regular_toTree s
    ["conditions", "trigger-on-any", "trigger-on-all"]
  -- the list of expectations has to be there, the two others have defaults
  obtain ⟨items, hItems, hList⟩ := exists_of_rel_some
    (t := .list (c.expectations.map (·.toTree))) (by simpa using hPart "conditions")
  have hExpectations : list? (Expectation.Config.ofTree? s) items = some c.expectations :=
    reads_list (fun e _ => e.reads_toTree s) items hList
  have hOnAny : orElse? false bool? (part "trigger-on-any") = some c.onAny :=
    (reads_bool c.onAny).given _ _ (by simpa using hPart "trigger-on-any")
  have hOnAll : orElse? true bool? (part "trigger-on-all") = some c.onAll :=
    (reads_bool c.onAll).given _ _ (by simpa using hPart "trigger-on-all")
  rw [ofTree?, hFields]
  simp [hItems, hExpectations, hOnAny, hOnAll]

end ExpectationSet.Config

namespace ClauseConfig

theorem regular_toTree (c : ClauseConfig) : Regular 2 c.toTree := by
  refine regular_of_namedIn ["match", "nomatch"]
    ((namedIn_all _).append (namedIn_memberIf ..)) (by decide) ?_
  simp only [List.forall_mem_append, forall_mem_memberIf, List.forall_mem_singleton]
  exact ⟨c.positive.regular_toTree, fun _ => c.negative.regular_toTree⟩

@[simp] theorem ints_toTree (c : ClauseConfig) : c.toTree.ints = [] := by
  simp [toTree, flatMap_memberIf]

theorem reads_toTree (s : Style) (c : ClauseConfig) : Reads (ofTree? s) c.toTree c := by
  intro t hAlike
  obtain ⟨part, hFields, hPart⟩ := hAlike.fields? c.regular_toTree s ["match", "nomatch"]
  have hPositive : orElse? .empty textMap? (part "match") = some c.positive :=
    (reads_textMap c.positive).given _ _ (by simpa using hPart "match")
  have hNegative : orElse? .empty textMap? (part "nomatch") = some c.negative :=
    c.negative.readsPart_toTree _ (by simpa using hPart "nomatch")
  rw [ofTree?, hFields]
  simp [hPositive, hNegative]

end ClauseConfig

/-! ## Observers -/

namespace Observer

theorem Kind.mem_choices (k : Kind) : k ∈ Kind.choices.map (·.2) := by
  cases k <;> decide

theorem Start.mem_choices (b : Start) : b ∈ Start.choices.map (·.2) := by
  cases b <;> decide

theorem Action.mem_choices (a : Action) : a ∈ Action.choices.map (·.2) := by
  cases a <;> decide

namespace RequirementsConfig

theorem regular_toTree (c : RequirementsConfig) : Regular 3 c.toTree := by
  cases c with
  | ordered clauses => exact .list (List.forall_mem_map.mpr fun c _ => c.regular_toTree)
  | single clause => exact clause.regular_toTree.succ

@[simp] theorem ints_toTree (c : RequirementsConfig) : c.toTree.ints = [] := by
  cases c with
  | ordered clauses => simp [toTree, List.flatMap_map]
  | single clause => exact clause.ints_toTree

theorem reads_toTree (s : Style) (c : RequirementsConfig) : Reads (ofTree? s) c.toTree c := by
  have hRegular := c.regular_toTree
  cases c with
  | ordered clauses =>
    have hList : Reads (list? (ClauseConfig.ofTree? s.inner)) _ clauses :=
      reads_list fun c _ => c.reads_toTree s.inner
    exact (hList.map _).either_left hRegular
  | single clause =>
    exact ((clause.reads_toTree s.inner).map _).either_right
      ((refuses_list_record _ _).map _) hRegular

/-- Requirements that may be left out. -/
theorem readsPart_toTree (s : Style) (c : Option RequirementsConfig) :
    ReadsPart (orElse? none (orNull? (ofTree? s))) (c.map toTree) c :=
  readsPart_orNull (fun r _ => r.reads_toTree s) (by rintro (_ | _) <;> nofun)

end RequirementsConfig

namespace Config

/-- The numbers in an observer. -/
def integers (c : Config) : List UInt64 :=
  c.count.toList.flatMap Quota.Written.integers

theorem regular_toTree (c : Config) : Regular 4 c.toTree := by
  refine regular_of_namedIn ["name", "event", "conditions", "count", "id", "type", "requirements",
      "callback", "start", "action", "trigger-on-count"]
    ((namedIn_memberOf ..).append (namedIn_all _) |>.append (namedIn_memberOf ..)
      |>.append (namedIn_all _) |>.append (namedIn_memberOf ..) |>.append (namedIn_memberOf ..)
      |>.append (namedIn_all _)) (by decide) ?_
  -- what is left is one condition for each part, in the order of the names
  simp only [List.forall_mem_append, forall_mem_memberOf, List.forall_mem_cons, List.not_mem_nil,
    false_imp_iff, implies_true, and_true, and_assoc]
  exact ⟨fun s _ => .text s, .text _, c.conditions.regular_toTree.succ,
    fun w _ => w.regular_toTree.succ.succ.succ, .text _, regular_ofChoice c.kind.mem_choices,
    fun r _ => r.regular_toTree, fun s _ => .text s, regular_ofChoice c.start.mem_choices,
    regular_ofChoice c.action.mem_choices, .bool _⟩

@[simp] theorem ints_toTree (c : Config) :
    c.toTree.ints = c.integers.map fun n => (n.toNat : Int) := by
  have hNone {β : Type} (l : List β) : l.flatMap (fun _ => ([] : List Int)) = [] :=
    List.flatMap_eq_nil_iff.mpr fun _ _ => rfl
  simp [toTree, integers, flatMap_memberOf, List.map_flatMap, hNone]

theorem reads_toTree (s : Style) (c : Config) : Reads (ofTree? s) c.toTree c := by
  intro t hAlike
  obtain ⟨part, hFields, hPart⟩ := hAlike.fields? c.regular_toTree s
    ["name", "event", "conditions", "count", "id", "type", "requirements", "callback", "start",
      "action", "trigger-on-count"]
  have hName : orElse? none (orNull? text?) (part "name") = some c.name :=
    readsPart_text c.name _ (by simpa using hPart "name")
  -- the event has to be there, all other parts have defaults or may be null
  obtain ⟨event, hEventPart, hEventAlike⟩ := exists_of_rel_some
    (t := .text c.event) (by simpa using hPart "event")
  have hEvent : event.text? = some c.event := reads_text c.event event hEventAlike
  have hConditions : orElse? {} (ClauseConfig.ofTree? s) (part "conditions") =
      some c.conditions :=
    (c.conditions.reads_toTree s).given _ _ (by simpa using hPart "conditions")
  have hCount : orElse? none (orNull? Quota.Written.ofTree?) (part "count") = some c.count :=
    Quota.Written.readsPart_toTree c.count _ (by simpa using hPart "count")
  have hId : orElse? "0" text? (part "id") = some c.id :=
    (reads_text c.id).given _ _ (by simpa using hPart "id")
  have hKind : orElse? .headerMatch (choice? s Kind.choices) (part "type") = some c.kind :=
    (reads_choice s (by decide) c.kind.mem_choices).given _ _ (by simpa using hPart "type")
  have hRequirements : orElse? none (orNull? (RequirementsConfig.ofTree? s))
      (part "requirements") = some c.requirements :=
    RequirementsConfig.readsPart_toTree s c.requirements _ (by simpa using hPart "requirements")
  have hCallback : orElse? none (orNull? text?) (part "callback") = some c.callback :=
    readsPart_text c.callback _ (by simpa using hPart "callback")
  have hStart : orElse? .pass (choice? s Start.choices) (part "start") = some c.start :=
    (reads_choice s (by decide) c.start.mem_choices).given _ _ (by simpa using hPart "start")
  have hAction : orElse? .none (choice? s Action.choices) (part "action") = some c.action :=
    (reads_choice s (by decide) c.action.mem_choices).given _ _ (by simpa using hPart "action")
  have hTrigger : orElse? false bool? (part "trigger-on-count") = some c.triggerOnCount :=
    (reads_bool c.triggerOnCount).given _ _ (by simpa using hPart "trigger-on-count")
  rw [ofTree?, hFields]
  simp [hName, hEventPart, hEvent, hConditions, hCount, hId, hKind, hRequirements, hCallback,
    hStart, hAction, hTrigger]

end Config

end Observer

/-! ## Plans -/

theorem Timing.regular_toTree (t : Timing) : Regular 1 t.toTree :=
  regular_of_namedIn ["reactor-timeout-secs"] (namedIn_all _) (by decide)
    (by simpa using .int t.seconds.toNat)

theorem Timing.reads_toTree (s : Style) (t : Timing) : Reads (Timing.ofTree? s) t.toTree t := by
  intro tree hAlike
  obtain ⟨part, hFields, hPart⟩ := hAlike.fields? t.regular_toTree s ["reactor-timeout-secs"]
  obtain ⟨seconds, hPartSeconds, hSecondsAlike⟩ := exists_of_rel_some
    (t := .int t.seconds.toNat) (by simpa using hPart "reactor-timeout-secs")
  have hSeconds : seconds.word? = some t.seconds := reads_word t.seconds seconds hSecondsAlike
  rw [ofTree?, hFields]
  simp [hPartSeconds, hSeconds]

namespace Plan

/-- The numbers in a plan: the quotas that are given as numbers, and the time that a test may
take. -/
def integers (p : Plan) : List UInt64 :=
  p.conditions.toList.flatMap ExpectationSet.Config.integers ++
    p.observers.flatMap Observer.Config.integers ++ [p.timing.seconds]

theorem regular_toTree (p : Plan) : Regular 6 p.toTree := by
  refine regular_of_namedIn ["conditions", "observers", "capabilities", "timing"]
    ((namedIn_memberOf ..).append (namedIn_memberIf ..) |>.append (namedIn_memberIf ..)
      |>.append (namedIn_all _)) (by decide) ?_
  simp only [List.forall_mem_append, forall_mem_memberOf, forall_mem_memberIf,
    List.forall_mem_singleton, and_assoc]
  refine ⟨fun c _ => c.regular_toTree.succ,
    fun _ => .list (List.forall_mem_map.mpr fun c _ => c.regular_toTree),
    fun _ => p.capabilities.options.regular_toTree.succ.succ.succ.succ, ?_⟩
  exact p.timing.regular_toTree.succ.succ.succ.succ

theorem ints_toTree (p : Plan) : p.toTree.ints = p.integers.map fun n => (n.toNat : Int) := by
  have hObservers : (if (!p.observers.isEmpty) = true then
      p.observers.flatMap fun c => c.toTree.ints else []) =
      p.observers.flatMap fun c => c.toTree.ints := by
    cases p.observers <;> rfl
  simp only [toTree, ints_record, List.flatMap_append, flatMap_memberOf, flatMap_memberIf,
    ints_list, List.flatMap_map, hObservers]
  simp [integers, Capabilities.toTree, Timing.toTree, List.map_flatMap]

/-- **A plan is read back from the tree that it is written as**, in either
style, and from every tree that is alike. -/
theorem reads_toTree (s : Style) (p : Plan) : Reads (ofTree? s) p.toTree p := by
  intro t hAlike
  obtain ⟨part, hFields, hPart⟩ := hAlike.fields? p.regular_toTree s
    ["conditions", "observers", "capabilities", "timing"]
  have hConditions : orElse? none (orNull? (ExpectationSet.Config.ofTree? s))
      (part "conditions") = some p.conditions :=
    readsPart_orNull (fun c _ => c.reads_toTree s) nofun _ (by simpa using hPart "conditions")
  have hObservers : orElse? [] (list? (Observer.Config.ofTree? s)) (part "observers") =
      some p.observers :=
    (reads_list fun c _ => c.reads_toTree s).givenIf (p.observers ≠ []) (by simp) _
      (by simpa using hPart "observers")
  -- no capabilities are the same as no such part
  have hCapabilities : orElse? {} Capabilities.ofTree? (part "capabilities") =
      some p.capabilities :=
    ((reads_textMap p.capabilities.options).map _).givenIf (p.capabilities.options.isEmpty = false)
      (fun h => congrArg Capabilities.mk (KeyMap.eq_empty_of_isEmpty (by simpa using h))) _
      (by simpa [Capabilities.toTree] using hPart "capabilities")
  have hTiming : orElse? {} (Timing.ofTree? s) (part "timing") = some p.timing :=
    (p.timing.reads_toTree s).given _ _ (by simpa using hPart "timing")
  rw [ofTree?, hFields]
  simp [hConditions, hObservers, hCapabilities, hTiming]

end Plan

end StreamVerdict
