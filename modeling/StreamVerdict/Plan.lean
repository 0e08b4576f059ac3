import StreamVerdict.Check.Basic
import StreamVerdict.Dispatcher
import StreamVerdict.Monitor
import StreamVerdict.Observer

/-!
# Plans

A plan is everything that one test declares: the set of expectations for its whole stream, the
observers of single subscriptions, the capabilities that its checks are tied to, and the time that
it may take. A dispatcher is built from a plan.
-/

namespace StreamVerdict

/-- The time that a test may take. -/
structure Timing where
  seconds : UInt64 := 30
  deriving DecidableEq

/-- The reason for the failure of a test that has taken too long. -/
def Timing.reason (t : Timing) : String :=
  s!"reactor timed out after {t.seconds}s"

/-- What a test declares. -/
structure Plan where
  conditions : Option ExpectationSet.Config := none
  observers : List Observer.Config := []
  capabilities : Capabilities := {}
  timing : Timing := {}
  deriving DecidableEq

/-- A sink that writes down what it is told, with what the test holds at that moment. -/
structure Journal where
  tag : String
  lines : List String := []
  deriving DecidableEq

namespace Journal

/-- Adds a line under the tag. -/
def write (j : Journal) (line : String) : Journal :=
  { j with lines := j.lines ++ [j.tag ++ " " ++ line] }

instance {τ : Type} [TestObject τ] : EventSink Journal τ where
  onConnect connection j t := pure (j.write s!"connect {connection.text}", t)
  onEvent connection e j t :=
    pure (j.write s!"event {connection.text} {e.describe} passing={TestObject.passed t}", t)
  onStreamEnd j t := pure (j.write s!"end passing={TestObject.passed t}", t)

end Journal

/-- Everything that can be attached to a dispatcher. -/
inductive Sink (τ : Type) where
  | journal (j : Journal)
  | monitor (m : Monitor)
  | observer (o : Observer τ)
  | group (g : ObserverGroup τ)

namespace Sink

variable {τ : Type} [TestObject τ]

/-- Takes a step with whatever the sink is. -/
def step (f : {σ : Type} → [EventSink σ τ] → σ → τ → Logged (σ × τ)) (s : Sink τ) (t : τ) :
    Logged (Sink τ × τ) := do
  match s with
  | journal j =>
    let (j, t) ← f j t
    return (journal j, t)
  | monitor m =>
    let (m, t) ← f m t
    return (monitor m, t)
  | observer o =>
    let (o, t) ← f o t
    return (observer o, t)
  | group g =>
    let (g, t) ← f g t
    return (group g, t)

instance : EventSink (Sink τ) τ where
  onConnect connection := step (EventSink.onConnect connection)
  onEvent connection e := step (EventSink.onEvent connection e)
  onStreamEnd := step EventSink.onStreamEnd

end Sink

namespace Plan

/-- Builds the monitor of a plan, if it declares expectations. -/
def buildMonitor (p : Plan) : Except Error (Option Monitor) :=
  match p.conditions with
  | none => .ok none
  | some c => do
    let m ← Monitor.ofConfig c
    .ok (some m)

/-- Builds the observers of a plan. -/
def buildObservers {τ : Type} (p : Plan) (callbacks : CallbackRegistry) :
    Except Error (ObserverGroup τ) :=
  ObserverGroup.ofConfigs p.observers callbacks

/-- Builds a dispatcher with the monitor first and the observers second, where there are such. The
first error decides. -/
def buildDispatcher {τ : Type} (p : Plan) (callbacks : CallbackRegistry) :
    Except Error (Dispatcher (Sink τ)) := do
  let monitor ← p.buildMonitor
  let group ← if p.observers.isEmpty then .ok none else
    (p.buildObservers callbacks).map some
  .ok { sinks := (monitor.map Sink.monitor).toList ++ (group.map Sink.group).toList }

end Plan

end StreamVerdict
