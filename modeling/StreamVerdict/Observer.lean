import StreamVerdict.Observer.Callback
import StreamVerdict.Observer.Config
import StreamVerdict.Sink

/-!
# Observers

An observer waits for one of its connections to come up and then counts the events of its pattern
on that connection. It judges every event that it counts. At the end of the stream it reports: a
failure if the count is outside its quota or the events were not as they had to be, else a pass.

Main definitions:

* `Outcome`: how events are judged, with what is remembered between them;
* `Observer.register`, `Observer.handle`, `Observer.finalize`: the life of an observer;
* `ObserverGroup`: several observers as one sink.
-/

namespace StreamVerdict

/-- How an observer judges events. -/
inductive Outcome where
  /-- Every event must satisfy the requirements. -/
  | headerMatch (requirements : Requirements)
  /-- Each event must satisfy the next requirements of the list. Once the list is used up, events
  are not judged any more. -/
  | orderedHeaderMatch (requirements : List Requirements) (next : Nat)
  /-- The answer of the callback replaces what was held before. -/
  | callback (name : String) (decide : Callback)

namespace Outcome

/-- Builds the judge of an observer. -/
def ofConfig (c : Observer.Config) (callbacks : CallbackRegistry) : Except Error Outcome :=
  let wrong (reason : String) : Except Error Outcome :=
    .error (.configuration s!"observer '{c.event}': {reason}")
  match c.kind, c.requirements with
  | .headerMatch, none => .ok (.headerMatch .trivial)
  | .headerMatch, some (.single clause) => do
    let requirements ← Requirements.ofConfig clause
    .ok (.headerMatch requirements)
  | .headerMatch, some (.ordered _) => wrong "headermatch takes a single requirements clause"
  | .orderedHeaderMatch, some (.ordered clauses) => do
    let requirements ← clauses.mapM Requirements.ofConfig
    .ok (.orderedHeaderMatch requirements 0)
  | .orderedHeaderMatch, _ => wrong "orderedheadermatch needs a list of requirements"
  -- a callback judges by itself, and requirements beside it are not read
  | .callback, _ =>
    match c.callback with
    | none => wrong "callback type needs a 'callback' name"
    | some name => do
      let callback ← callbacks.get name
      .ok (.callback name callback)

/-- Judges an event. Besides the judge as it is afterwards, this gives what the observer holds
then; `passed` is what it held before. -/
def apply (o : Outcome) (e : Event) (passed : Bool) : Logged (Outcome × Bool) :=
  match o with
  | headerMatch requirements => do
    let ok ← requirements.check e
    return (o, ok && passed)
  | orderedHeaderMatch requirements next =>
    match requirements[next]? with
    | none => return (o, passed)
    | some current => do
      let ok ← current.check e
      return (orderedHeaderMatch requirements (next + 1), ok && passed)
  | callback _ decide => return (o, decide e)

end Outcome

/-! ## One observer -/

/-- The stages in the life of an observer. -/
inductive ObserverState where
  /-- No connection of the observer has come up. -/
  | unregistered
  /-- The observer counts the events of a connection. -/
  | registered
  /-- The stream has ended and the observer has reported. -/
  | finalized
  deriving DecidableEq

/-- The name of a stage. -/
def ObserverState.name : ObserverState → String
  | unregistered => "Unregistered"
  | registered => "Registered"
  | finalized => "Finalized"

/-- A count of events of one kind on one connection, and a judgement of them. -/
structure Observer (τ : Type) where
  label : String
  connections : List ConnectionId
  pattern : Pattern
  quota : Quota
  /-- How many events were counted. It agrees with a number of 64 bits without a sign as long as
  these are fewer than `2 ^ 64`. -/
  count : Nat := 0
  state : ObserverState := .unregistered
  registeredOn : Option ConnectionId := none
  outcome : Outcome
  /-- What the observer holds of the events so far. -/
  passed : Bool
  action : Observer.Action
  triggerOnCount : Bool
  /-- What is raised for the events that the observer counts while it passes. -/
  hook : Option (Event → τ → Logged τ) := none

namespace Observer

/-- An expression that matches the name of an event and nothing else. -/
def subscription (event : String) : String :=
  String.ofList (Regex.escapeChars event.toList) ++ "$"

/-- Builds an observer: its event, its connections, its pattern, its quota and its judge are
checked in this order. -/
def ofConfig {τ : Type} (c : Config) (callbacks : CallbackRegistry) :
    Except Error (Observer τ) := do
  if Text.trimChars c.event.toList = [] then
    .error (.configuration "observer has no event to subscribe to")
  else if c.connections = [] then
    .error (.configuration s!"observer '{c.event}': empty connection id list")
  else
    -- the name of the event is a clause like the others, and the first of them
    let pattern ← Pattern.compile
      ((Event.nameField, subscription c.event) :: c.conditions.positive.entries)
      c.conditions.negative.entries
    let quota ← match c.count with
      | some count => count.quota
      | none => .ok .any
    let outcome ← Outcome.ofConfig c callbacks
    .ok { label := c.name.getD c.event, connections := c.connections, pattern, quota, outcome,
          passed := c.kind ≠ .callback || c.start = .pass, action := c.action,
          triggerOnCount := c.triggerOnCount }

variable {τ : Type}

/-- Subscribes on a connection, if it is the first one of the observer's. -/
def register (o : Observer τ) (connection : ConnectionId) : Bool × Observer τ :=
  if o.state = .unregistered && o.connections.contains connection then
    (true, { o with state := .registered, registeredOn := some connection })
  else (false, o)

/-- The answer of an observer to an event: whether it was counted, the observer and the test
afterwards. -/
structure Answer (τ : Type) where
  counted : Bool
  observer : Observer τ
  test : τ

variable [TestObject τ]

/-- Raises the hook if there is one and `due` holds. -/
def raiseHook (o : Observer τ) (due : Bool) (e : Event) (t : τ) : Logged τ :=
  match o.hook with
  | some hook => if due then hook e t else pure t
  | none => pure t

/-- Handles an event. A minimum of zero is never reached by an event. -/
def handle (o : Observer τ) (connection : ConnectionId) (e : Event) (t : τ) :
    Logged (Answer τ) := do
  if o.state = .registered && o.registeredOn = some connection && o.pattern.accepts e then
    let (outcome, passed) ← o.outcome.apply e o.passed
    let o := { o with count := o.count + 1, outcome, passed }
    let reached := o.count = o.quota.min.toNat
    -- the hook is given the test before it is stopped
    let t ← o.raiseHook (o.passed && (!o.triggerOnCount || reached)) e t
    return ⟨true, o, if reached && o.action = .stop then TestObject.stop t else t⟩
  else return ⟨false, o, t⟩

/-- Reports at the end of the stream, once. -/
def finalize (o : Observer τ) (t : τ) : Logged (Observer τ × τ) := do
  if o.state = .finalized then return (o, t)
  else
    let o := { o with state := .finalized }
    -- a wrong count is reported in place of what the observer holds
    if !o.quota.contains o.count then
      Logged.write (.warn "event count out of the allowable range"
        [("observer", o.label), ("count", toString o.count)])
      let t ← TestObject.recordFailure (Miscount.ofQuota o.label o.quota o.count).describe t
      return (o, t)
    else if o.passed then return (o, TestObject.setPassed true t)
    else
      let t ← TestObject.recordFailure s!"observer '{o.label}': requirements not met" t
      return (o, t)

instance : EventSink (Observer τ) τ where
  onConnect connection o t := pure ((o.register connection).2, t)
  onEvent connection e o t := do
    let a ← o.handle connection e t
    return (a.observer, a.test)
  onStreamEnd o t := o.finalize t

end Observer

/-! ## Groups of observers -/

/-- Several observers that are told everything in turn. -/
structure ObserverGroup (τ : Type) where
  observers : List (Observer τ) := []

namespace ObserverGroup

variable {τ : Type}

/-- Builds every observer. The first error decides. -/
def ofConfigs (cs : List Observer.Config) (callbacks : CallbackRegistry) :
    Except Error (ObserverGroup τ) := do
  let observers ← cs.mapM fun c => Observer.ofConfig c callbacks
  .ok ⟨observers⟩

variable [TestObject τ]

/-- Takes a step with every observer. -/
def sweep (step : Observer τ → τ → Logged (Observer τ × τ)) (g : ObserverGroup τ) (t : τ) :
    Logged (ObserverGroup τ × τ) := do
  let (observers, t) ← EventSink.sweep step g.observers t
  return (⟨observers⟩, t)

instance : EventSink (ObserverGroup τ) τ where
  onConnect connection := sweep (EventSink.onConnect connection)
  onEvent connection e := sweep (EventSink.onEvent connection e)
  onStreamEnd := sweep EventSink.onStreamEnd

end ObserverGroup

end StreamVerdict
