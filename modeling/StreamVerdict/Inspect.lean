import StreamVerdict.Controller
import StreamVerdict.Plan

/-!
# Looking inside

Diagnostics show the state of a value on one line: the name of its type with its fields in braces
or its parts in parentheses. Texts are quoted.
-/

namespace StreamVerdict

namespace Inspect

/-- A type with named fields. -/
def record (name : String) (fields : List (String × String)) : String :=
  name ++ " \x7b " ++ ", ".intercalate (fields.map fun (k, v) => k ++ ": " ++ v) ++ " \x7d"

/-- A type with one unnamed part. -/
def wrapped (name part : String) : String :=
  name ++ "(" ++ part ++ ")"

/-- A list. -/
def list (parts : List String) : String :=
  "[" ++ ", ".intercalate parts ++ "]"

/-- A value that may be missing. -/
def option : Option String → String
  | none => "None"
  | some part => wrapped "Some" part

/-- A truth value. -/
def bool : Bool → String
  | true => "true"
  | false => "false"

/-- A map from texts to texts. -/
def textMap (m : TextMap) : String :=
  "\x7b" ++ ", ".intercalate (m.entries.map fun (k, v) => Text.quote k ++ ": " ++ Text.quote v) ++
    "\x7d"

/-- A list of texts. -/
def texts (ss : List String) : String :=
  list (ss.map Text.quote)

end Inspect

open Inspect

/-- A quota. -/
def Quota.inspect (q : Quota) : String :=
  Inspect.record "CountSpec"
    [("min", toString q.min), ("max", option (q.max.map toString))]

/-- A connection. -/
def ConnectionId.inspect (c : ConnectionId) : String :=
  wrapped "ConnectionId" (Text.quote c.text)

/-- A clause, with the expression as it is put together. -/
def Clause.inspect (c : Clause) : String :=
  Inspect.record "FieldMatcher"
    [("field", Text.quote c.field), ("source", Text.quote c.source),
      ("regex", wrapped "Regex" (Text.quote (Regex.anchor c.source)))]

/-- A pattern. -/
def Pattern.inspect (p : Pattern) : String :=
  Inspect.record "Pattern"
    [("matches", list (p.positive.map (·.inspect))),
      ("nomatch", list (p.negative.map (·.inspect)))]

/-- An expectation. -/
def Expectation.inspect (x : Expectation) : String :=
  Inspect.record "Condition"
    [("name", option (x.name.map Text.quote)), ("pattern", x.pattern.inspect),
      ("spec", x.quota.inspect), ("count", toString x.seen)]

/-- A trigger. -/
def Trigger.inspect : Trigger → String
  | any => "Any"
  | all => "All"
  | firstMatch => "FirstMatch"

/-- A set of expectations. -/
def ExpectationSet.inspect (s : ExpectationSet) : String :=
  Inspect.record "ConditionSet"
    [("conditions", list (s.expectations.map (·.inspect))), ("policy", s.trigger.inspect),
      ("on_match", option (if s.hasListener then some (Text.quote "<fn>") else none))]

/-- A monitor. -/
def Monitor.inspect (m : Monitor) : String :=
  Inspect.record "MonitoredConditions"
    [("set", m.set.inspect), ("expired", bool m.expired), ("finalized", bool m.finalized)]

/-- Requirements. -/
def Requirements.inspect (r : Requirements) : String :=
  Inspect.record "Requirements" [("pattern", r.pattern.inspect)]

/-- A judge of events. -/
def Outcome.inspect : Outcome → String
  | headerMatch requirements => wrapped "HeaderMatch" requirements.inspect
  | orderedHeaderMatch requirements next =>
    Inspect.record "OrderedHeaderMatch"
      [("requirements", toString requirements.length), ("next", toString next)]
  | callback name _ => Inspect.record "Callback" [("name", Text.quote name)]

/-- An observer. -/
def Observer.inspect {τ : Type} (o : Observer τ) : String :=
  Inspect.record "StreamObserver"
    [("label", Text.quote o.label),
      ("connections", list (o.connections.map (·.inspect))),
      ("pattern", Text.quote o.pattern.describe),
      ("spec", o.quota.inspect),
      ("count", toString o.count),
      ("state", o.state.name),
      ("registered_on", option (o.registeredOn.map (·.inspect))),
      ("outcome", o.outcome.inspect),
      ("passed", bool o.passed)]

/-- A registry of callbacks. -/
def CallbackRegistry.inspect (r : CallbackRegistry) : String :=
  Inspect.record "CallbackRegistry" [("callbacks", texts r.names)]

/-- A dispatcher. -/
def Dispatcher.inspect {σ : Type} (d : Dispatcher σ) : String :=
  Inspect.record "Dispatcher"
    [("sinks", toString d.sinks.length),
      ("connections", list (d.connections.map (·.inspect))),
      ("delivered", toString d.delivered),
      ("ended", bool d.ended)]

/-- Capabilities. -/
def Capabilities.inspect (c : Capabilities) : String :=
  Inspect.record "Capabilities" [("options", Inspect.textMap c.options)]

/-- A controller. -/
def Controller.inspect {κ : Type} (c : Controller κ) : String :=
  Inspect.record "TestConditionController"
    [("capabilities", c.capabilities.inspect),
      ("pre", texts (c.pre.map (·.name))),
      ("post", texts (c.post.map (·.check.name))),
      ("observers", toString c.listeners.length),
      ("stop_callback", bool c.hasStop)]

end StreamVerdict
