import StreamVerdict.Dispatcher
import StreamVerdict.Proofs.Report

/-!
# Whole streams

A source announces connections and delivers events in any order, and then
the stream ends. Until then the dispatcher keeps nothing back, so what a test
holds in the end is decided by the sinks alone (`Dispatcher.play_eq`).

Main results:

* `EventSink.sweep_append` / `EventSink.sweep_of_reports` — one round through
  the sinks;
* `Dispatcher.play_eq` — a stream is one round for each arrival and a last one
  for its end.
-/

namespace StreamVerdict

/-- What a source does before the stream ends. -/
inductive Arrival where
  | connect (connection : ConnectionId)
  | deliver (connection : ConnectionId) (e : Event)
  deriving DecidableEq

namespace Arrival

/-- The event that is delivered, if it is one. -/
def event? : Arrival → Option Event
  | connect _ => none
  | deliver _ e => some e

/-- The events that are delivered on any connection. -/
def events (as : List Arrival) : List Event :=
  as.filterMap event?

end Arrival

/-! ## Rounds through the sinks -/

namespace EventSink

variable {σ τ : Type}

theorem sweep_append (step : σ → τ → Logged (σ × τ)) (ss ss' : List σ) (t : τ) :
    (sweep step (ss ++ ss') t).value =
      ((sweep step ss t).value.1 ++ (sweep step ss' (sweep step ss t).value.2).value.1,
        (sweep step ss' (sweep step ss t).value.2).value.2) := by
  induction ss generalizing t with
  | nil => rfl
  | cons s ss ih => simp [sweep, ih]

/-- Sinks whose steps only report are all told in turn, and their reports follow one another. -/
theorem sweep_of_reports [TestObject τ] {step : σ → τ → Logged (σ × τ)} {next : σ → σ}
    {reports : σ → List Report} {ss : List σ}
    (h : ∀ s ∈ ss, ∀ t, (step s t).value = (next s, Report.tellAll t (reports s))) (t : τ) :
    (sweep step ss t).value = (ss.map next, Report.tellAll t (ss.flatMap reports)) := by
  induction ss generalizing t with
  | nil => rfl
  | cons s ss ih =>
    have hs := h s List.mem_cons_self t
    have hss := ih fun s' hs' => h s' (List.mem_cons_of_mem _ hs')
    simp [sweep, hs, hss]

variable [EventSink σ τ]

/-- Tells a sink of an arrival. -/
def onArrival : Arrival → σ → τ → Logged (σ × τ)
  | .connect c => onConnect c
  | .deliver c e => onEvent c e

/-- The test after sinks were told of arrivals and then of the end of the stream. -/
def play (ss : List σ) (t : τ) : List Arrival → τ
  | [] => (sweep onStreamEnd ss t).value.2
  | a :: as =>
    let told := (sweep (onArrival a) ss t).value
    play told.1 told.2 as

end EventSink

/-! ## Dispatchers -/

namespace Dispatcher

variable {σ τ : Type} [EventSink σ τ]

/-- The dispatcher and the test after an arrival. -/
def receive (d : Dispatcher σ) (t : τ) : Arrival → Dispatcher σ × τ
  | .connect c =>
    let answer := (d.connect c t).value
    (answer.dispatcher, answer.test)
  | .deliver c e =>
    let answer := (d.deliver c e t).value
    (answer.dispatcher, answer.test)

/-- The test after arrivals and the end of the stream. -/
def play (d : Dispatcher σ) (t : τ) : List Arrival → τ
  | [] => (d.endStream t).value.test
  | a :: as =>
    let received := d.receive t a
    received.1.play received.2 as

/-- A dispatcher passes an arrival on to all of its sinks. -/
theorem receive_of_open {d : Dispatcher σ} (h : d.ended = false) (t : τ) (a : Arrival) :
    (d.receive t a).1.ended = false ∧
      ((d.receive t a).1.sinks, (d.receive t a).2) =
        (EventSink.sweep (EventSink.onArrival a) d.sinks t).value := by
  cases a with
  | connect c => simp [receive, connect, sweep, EventSink.onArrival, h]
  | deliver c e => simp [receive, deliver, sweep, EventSink.onArrival, h]

/-- The dispatcher keeps nothing back until the stream ends. -/
theorem play_eq {d : Dispatcher σ} (h : d.ended = false) (t : τ) (as : List Arrival) :
    d.play t as = EventSink.play d.sinks t as := by
  induction as generalizing d t with
  | nil => simp [play, endStream, sweep, EventSink.play, h]
  | cons a as ih =>
    -- the dispatcher is still open after the arrival
    obtain ⟨hOpen, hSinks⟩ := receive_of_open h t a
    simp only [play, EventSink.play]
    rw [ih hOpen, ← hSinks]

end Dispatcher

end StreamVerdict
