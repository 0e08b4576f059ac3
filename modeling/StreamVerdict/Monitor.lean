import StreamVerdict.ExpectationSet
import StreamVerdict.Sink

/-!
# Monitors

A monitor binds a set of expectations to a test. An event too many fails and stops the test at
once, an event too few fails it at the end of the stream. A monitor closes once: when the stream
ends, or when time runs out.
-/

namespace StreamVerdict

/-- A set of expectations that reports into a test. -/
structure Monitor where
  set : ExpectationSet
  /-- Whether time has run out. -/
  expired : Bool := false
  /-- Whether the end of the stream was checked. -/
  finalized : Bool := false
  deriving DecidableEq

namespace Monitor

/-- Builds a monitor. -/
def ofConfig (c : ExpectationSet.Config) : Except Error Monitor := do
  let set ← ExpectationSet.ofConfig c
  .ok { set }

/-- Whether the monitor has closed. -/
def isClosed (m : Monitor) : Bool :=
  m.expired || m.finalized

/-- The answer of a monitor: what the caller is told, the monitor and the test afterwards. -/
structure Answer (τ : Type) where
  result : Bool
  monitor : Monitor
  test : τ

variable {τ : Type} [TestObject τ]

/-- Checks one event and says whether it triggered the set. -/
def check (m : Monitor) (e : Event) (t : τ) : Logged (Answer τ) := do
  if m.isClosed then return ⟨false, m, t⟩
  else
    let outcome ← m.set.check e
    let m := { m with set := outcome.set }
    match outcome.result with
    | .ok triggered => return ⟨triggered, m, t⟩
    | .error error =>
      let t ← TestObject.recordFailure error.message t
      return ⟨false, m, TestObject.stop t⟩

/-- Checks the end of the stream, unless the test has failed already. -/
def checkFinal (m : Monitor) (t : τ) : Logged (Answer τ) := do
  if m.isClosed then return ⟨false, m, t⟩
  else
    let m := { m with finalized := true }
    -- a test that has failed already is left as it is
    if !TestObject.passed t then return ⟨false, m, t⟩
    else match m.set.checkFinal with
      | .ok passed => return ⟨passed, m, TestObject.setPassed passed t⟩
      | .error error =>
        let t ← TestObject.recordFailure error.message t
        return ⟨false, m, t⟩

/-- Closes the monitor because time has run out: the test fails and stops. -/
def expire (m : Monitor) (reason : String) (t : τ) : Logged (Monitor × τ) := do
  if m.isClosed then return (m, t)
  else
    let t ← TestObject.recordFailure reason t
    return ({ m with expired := true }, TestObject.stop t)

instance : EventSink Monitor τ where
  onConnect _ m t := pure (m, t)
  onEvent _ e m t := do
    let a ← m.check e t
    return (a.monitor, a.test)
  onStreamEnd m t := do
    let a ← m.checkFinal t
    return (a.monitor, a.test)

end Monitor

end StreamVerdict
