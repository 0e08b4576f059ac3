import StreamVerdict.Expectation.Config
import StreamVerdict.Log

/-!
# Sets of expectations

Several expectations are checked against one stream of events. An event that makes a tally exceed
its quota is an error at once, and expectations after that one do not see the event. Tallies that
stay too low are an error only at the end, all of them together.

Besides, an event can trigger the set. When it does depends on the policy alone.

Main definitions:

* `Trigger`: the policies;
* `ExpectationSet.check`: one event;
* `ExpectationSet.checkFinal`: the end of the stream.
-/

namespace StreamVerdict

/-- When an event triggers a set. -/
inductive Trigger where
  /-- When it is meant by an expectation that is then met. -/
  | any
  /-- When it is meant by some expectation and all are then met. -/
  | all
  /-- When it is meant by some expectation. -/
  | firstMatch
  deriving DecidableEq

namespace Trigger

/-- The policy that two flags choose. The first flag is stronger. -/
def ofFlags (onAny onAll : Bool) : Trigger :=
  if onAny then any else if onAll then all else firstMatch

/-- The name of a policy. -/
def name : Trigger → String
  | any => "trigger-on-any"
  | all => "trigger-on-all"
  | firstMatch => "trigger-on-first-match"

end Trigger

/-- A configured set of expectations. -/
structure ExpectationSet.Config where
  expectations : List Expectation.Config
  onAny : Bool := false
  onAll : Bool := true
  deriving DecidableEq

/-- The policy of a configured set. -/
def ExpectationSet.Config.trigger (c : ExpectationSet.Config) : Trigger :=
  .ofFlags c.onAny c.onAll

/-- Expectations in the order in which they are checked. -/
structure ExpectationSet where
  expectations : List Expectation
  trigger : Trigger
  /-- Whether somebody is to be told when the set triggers. -/
  hasListener : Bool := false
  deriving DecidableEq

namespace ExpectationSet

/-- What a listener is told: the expectations that the event was meant by, and the event. -/
structure Notice where
  matched : List Expectation
  event : Event
  deriving DecidableEq

/-- What became of an event. -/
structure Outcome where
  set : ExpectationSet
  /-- Whether the event triggered the set, or the error it brought about. -/
  result : Except Error Bool
  /-- What the listener is told, if there is one and the event triggered the set. -/
  notice : Option Notice := none

/-- Builds every expectation of a set. The first error decides. -/
def ofConfig (c : Config) : Except Error ExpectationSet := do
  let expectations ← c.expectations.mapM Expectation.ofConfig
  .ok { expectations, trigger := c.trigger }

/-- The expectations after an event, up to and including the first one that it makes exceed its
quota. -/
structure Sweep where
  expectations : List Expectation
  matched : List Expectation
  exceeded : Option Expectation

/-- Shows an event to one expectation after the other, and stops at the first one that has then
seen too many. -/
def sweep (e : Event) : List Expectation → Sweep
  | [] => ⟨[], [], none⟩
  | x :: xs =>
    if x.pattern.accepts e then
      let x' := x.record e
      -- those behind it do not see the event
      if x'.isExceeded then ⟨x' :: xs, [], some x'⟩
      else
        let rest := sweep e xs
        ⟨x' :: rest.expectations, x' :: rest.matched, rest.exceeded⟩
    else
      let rest := sweep e xs
      ⟨x :: rest.expectations, rest.matched, rest.exceeded⟩

/-- Whether the policy is satisfied by an event, given the expectations that it was meant by and
all of them, as they are after it. -/
def isTriggered (trigger : Trigger) (matched expectations : List Expectation) : Bool :=
  -- an event that nobody expects triggers nothing, also if all is met
  !matched.isEmpty &&
    match trigger with
    | .any => matched.any (·.isMet)
    | .all => expectations.all (·.isMet)
    | .firstMatch => true

/-- Checks one event. -/
def check (s : ExpectationSet) (e : Event) : Logged Outcome :=
  let swept := sweep e s.expectations
  let set := { s with expectations := swept.expectations }
  match swept.exceeded with
  | some x => do
    Logged.write (.warn "condition exceeded its maximum"
      [("condition", x.label), ("count", toString x.seen)])
    return { set, result := .error (.overMatch x.miscount) }
  | none =>
    -- the tallies are those after the event
    let triggered := isTriggered s.trigger swept.matched swept.expectations
    return { set, result := .ok triggered,
             notice := if triggered && s.hasListener then some ⟨swept.matched, e⟩ else none }

/-- The expectations that are not met. -/
def unmet (s : ExpectationSet) : List Expectation :=
  s.expectations.filter (!·.isMet)

/-- Checks the end of the stream. -/
def checkFinal (s : ExpectationSet) : Except Error Bool :=
  match s.unmet with
  | [] => .ok true
  | xs => .error (.underMatch (xs.map (·.miscount)))

/-- The set with nothing seen. -/
def reset (s : ExpectationSet) : ExpectationSet :=
  { s with expectations := s.expectations.map (·.reset) }

end ExpectationSet

end StreamVerdict
