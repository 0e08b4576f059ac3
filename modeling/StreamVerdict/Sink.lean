import StreamVerdict.Connection
import StreamVerdict.Event
import StreamVerdict.TestObject

/-!
# Sinks

A sink is told what a source delivers: that a connection came up, that an event arrived, that the
stream ended. It may change itself and the test.
-/

namespace StreamVerdict

/-- Receivers of the type `σ` that report into tests of the type `τ`. -/
class EventSink (σ τ : Type) where
  /-- A connection came up. -/
  onConnect : ConnectionId → σ → τ → Logged (σ × τ)
  /-- An event arrived. -/
  onEvent : ConnectionId → Event → σ → τ → Logged (σ × τ)
  /-- The stream ended. -/
  onStreamEnd : σ → τ → Logged (σ × τ)

/-- Takes a step with one sink after the other, handing the test on from each to the next. -/
def EventSink.sweep {σ τ : Type} (step : σ → τ → Logged (σ × τ)) :
    List σ → τ → Logged (List σ × τ)
  | [], t => pure ([], t)
  | s :: ss, t => do
    let (s, t) ← step s t
    let (ss, t) ← sweep step ss t
    return (s :: ss, t)

end StreamVerdict
