import StreamVerdict.Error
import StreamVerdict.Sink

/-!
# Dispatchers

A dispatcher passes on what a source delivers to its sinks, in the order in which they were
attached. The stream ends once, by its end or because time runs out; after that nothing is passed
on.
-/

namespace StreamVerdict

/-- A stream with its sinks. -/
structure Dispatcher (σ : Type) where
  sinks : List σ := []
  /-- The connections that have come up, each once, in the order in which they did. -/
  connections : List ConnectionId := []
  /-- How many events were passed on. It agrees with a number of 64 bits without a sign as long as
  these are fewer than `2 ^ 64`. -/
  delivered : Nat := 0
  ended : Bool := false

namespace Dispatcher

variable {σ τ ρ : Type}

/-- Attaches a sink after those that are attached. -/
def attach (d : Dispatcher σ) (s : σ) : Dispatcher σ :=
  { d with sinks := d.sinks ++ [s] }

/-- The answer of a dispatcher: what the caller is told, the dispatcher and the test afterwards. -/
structure Answer (σ τ ρ : Type) where
  result : ρ
  dispatcher : Dispatcher σ
  test : τ

/-- Takes a step with every sink. -/
def sweep (step : σ → τ → Logged (σ × τ)) (d : Dispatcher σ) (t : τ) :
    Logged (Dispatcher σ × τ) := do
  let (sinks, t) ← EventSink.sweep step d.sinks t
  return ({ d with sinks }, t)

variable [EventSink σ τ]

/-- Announces a connection. One that is announced again is passed on again. -/
def connect (d : Dispatcher σ) (connection : ConnectionId) (t : τ) :
    Logged (Answer σ τ (Except Error Unit)) := do
  if d.ended then return ⟨.error .streamEnded, d, t⟩
  else
    let (d, t) ← d.sweep (EventSink.onConnect connection) t
    -- sinks hear of it every time, the list holds it once
    let connections := if d.connections.contains connection then d.connections
      else d.connections ++ [connection]
    return ⟨.ok (), { d with connections }, t⟩

/-- Delivers an event. -/
def deliver (d : Dispatcher σ) (connection : ConnectionId) (e : Event) (t : τ) :
    Logged (Answer σ τ (Except Error Unit)) := do
  if d.ended then
    Logged.write (.warn "event after stream end dropped"
      [("connection", connection.text), ("event", e.describe)])
    return ⟨.error .streamEnded, d, t⟩
  else
    let (d, t) ← d.sweep (EventSink.onEvent connection e) t
    return ⟨.ok (), { d with delivered := d.delivered + 1 }, t⟩

/-- Ends the stream, and says whether it had not ended before. -/
def endStream (d : Dispatcher σ) (t : τ) : Logged (Answer σ τ Bool) := do
  if d.ended then return ⟨false, d, t⟩
  else
    let (d, t) ← d.sweep EventSink.onStreamEnd t
    return ⟨true, { d with ended := true }, t⟩

/-- Ends the stream because time has run out: the test fails and stops, and no sink is told. Says
whether the stream had not ended before. -/
def expire [TestObject τ] (d : Dispatcher σ) (reason : String) (t : τ) :
    Logged (Answer σ τ Bool) := do
  if d.ended then return ⟨false, d, t⟩
  else
    let t ← TestObject.recordFailure reason t
    return ⟨true, { d with ended := true }, TestObject.stop t⟩

end Dispatcher

end StreamVerdict
