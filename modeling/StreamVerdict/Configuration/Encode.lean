import StreamVerdict.Configuration.Decode

/-!
# Configurations as trees

Every configured thing has its writing here, named `toTree`. Fields stand in the order in which
they are declared. Some fields are left out where they hold what is meant without them.
-/

namespace StreamVerdict

/-- Members that are left out where a condition fails. -/
def Tree.memberIf (shown : Bool) (name : String) (t : Tree) : List (String × Tree) :=
  if shown then [(name, t)] else []

/-- A member that is left out where there is no value. -/
def Tree.memberOf {α : Type} (name : String) (f : α → Tree) : Option α → List (String × Tree)
  | none => []
  | some a => [(name, f a)]

/-- A map of texts. -/
def TextMap.toTree (m : TextMap) : Tree :=
  .record (m.entries.map fun (name, value) => (name, .text value))

/-- The name of a choice. -/
def Tree.ofChoice {α : Type} [DecidableEq α] (choices : List (String × α)) (a : α) : Tree :=
  match choices.find? (·.2 = a) with
  | some (name, _) => .text name
  | none => .null

/-! ## Expectations -/

/-- A number as it is, or a text. -/
def Quota.Written.toTree : Quota.Written → Tree
  | number n => .int n.toNat
  | text s => .text s

/-- A text or a map. -/
def MatchClause.toTree : MatchClause → Tree
  | text source => .text source
  | fields map => map.toTree

/-- The full form of an expectation. The positive clauses are always written. -/
def Expectation.Fields.toTree (f : Expectation.Fields) : Tree :=
  .record (
    Tree.memberOf "name" .text f.name ++
    [("match", f.positive.toTree)] ++
    Tree.memberIf (!f.negative.isEmpty) "nomatch" f.negative.toTree ++
    Tree.memberOf "count" Quota.Written.toTree f.count ++
    Tree.memberIf f.isOptional "optional" (.bool f.isOptional))

/-- A text or the full form. -/
def Expectation.Config.toTree : Expectation.Config → Tree
  | short source => .text source
  | full fields => fields.toTree

/-- A set of expectations, with its flags. -/
def ExpectationSet.Config.toTree (c : ExpectationSet.Config) : Tree :=
  .record [
    ("conditions", .list (c.expectations.map (·.toTree))),
    ("trigger-on-any", .bool c.onAny),
    ("trigger-on-all", .bool c.onAll)]

/-- Clauses for fields. The positive ones are always written. -/
def ClauseConfig.toTree (c : ClauseConfig) : Tree :=
  .record (
    [("match", c.positive.toTree)] ++
    Tree.memberIf (!c.negative.isEmpty) "nomatch" c.negative.toTree)

/-! ## Observers -/

namespace Observer

/-- A list of clauses or one of them. -/
def RequirementsConfig.toTree : RequirementsConfig → Tree
  | ordered clauses => .list (clauses.map (·.toTree))
  | single clause => clause.toTree

/-- An observer. -/
def Config.toTree (c : Config) : Tree :=
  .record (
    Tree.memberOf "name" .text c.name ++
    [("event", .text c.event), ("conditions", c.conditions.toTree)] ++
    Tree.memberOf "count" Quota.Written.toTree c.count ++
    [("id", .text c.id), ("type", .ofChoice Kind.choices c.kind)] ++
    Tree.memberOf "requirements" RequirementsConfig.toTree c.requirements ++
    Tree.memberOf "callback" .text c.callback ++
    [("start", .ofChoice Start.choices c.start), ("action", .ofChoice Action.choices c.action),
      ("trigger-on-count", .bool c.triggerOnCount)])

end Observer

/-! ## Checks and plans -/

/-- Capabilities are a map. -/
def Capabilities.toTree (c : Capabilities) : Tree :=
  c.options.toTree

/-- The identity of a check. -/
def CheckInfo.toTree (i : CheckInfo) : Tree :=
  .record (
    [("name", .text i.name), ("enabled", .bool i.enabled),
      ("pass-expected", .bool i.passExpected)] ++
    Tree.memberIf (!i.requirements.isEmpty) "requires" i.requirements.toTree)

/-- A verdict. -/
def Verdict.toTree (v : Verdict) : Tree :=
  .record [("status", .ofChoice Status.choices v.status),
    ("reasons", .list (v.reasons.map .text))]

/-- The time that a test may take. -/
def Timing.toTree (t : Timing) : Tree :=
  .record [("reactor-timeout-secs", .int t.seconds.toNat)]

/-- A plan. The timing is always written. -/
def Plan.toTree (p : Plan) : Tree :=
  .record (
    Tree.memberOf "conditions" ExpectationSet.Config.toTree p.conditions ++
    Tree.memberIf (!p.observers.isEmpty) "observers" (.list (p.observers.map (·.toTree))) ++
    Tree.memberIf (!p.capabilities.options.isEmpty) "capabilities" p.capabilities.toTree ++
    [("timing", p.timing.toTree)])

end StreamVerdict
