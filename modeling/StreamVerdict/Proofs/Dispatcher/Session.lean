import Mathlib.Data.List.Induction
import StreamVerdict.Proofs.Dispatcher.Play
import StreamVerdict.Proofs.Traversal

/-!
# Sessions with a dispatcher

Sinks are attached, connections come up, events arrive, the stream ends or
time runs out, in any order and as often as the caller likes. The first end,
of whichever kind, decides: before it every call is carried out, and after it
only sinks are still attached, to no effect.

So whatever a dispatcher keeps of a session can be told from the calls before
the first end (`beforeEnd`).

Main results:

* `Session.call_of_notification` / `Session.call_expire` — what a call does
  before the end;
* `Session.call_of_ended` — what it does after the end: nothing;
* `run_ended` — the stream has ended once one call has ended it;
* `run_replies` — the reply to each call;
* `run_connections` / `run_delivered` — what has come up and arrived.
-/

namespace StreamVerdict

/-- What a sink is told. -/
inductive Notification where
  | arrival (a : Arrival)
  | streamEnd

/-- Tells a sink. -/
def EventSink.onNotification {σ τ : Type} [EventSink σ τ] : Notification → σ → τ → Logged (σ × τ)
  | .arrival a => onArrival a
  | .streamEnd => onStreamEnd

namespace Dispatcher

variable {σ τ : Type}

/-! ## Calls -/

/-- What can be asked of a dispatcher. -/
inductive Call (σ : Type) where
  | attach (s : σ)
  | arrive (a : Arrival)
  | endStream
  | expire (reason : String)

/-- What a dispatcher replies to a call. -/
inductive Reply where
  | attached
  /-- To a connection or an event. -/
  | arrived (result : Except Error Unit)
  /-- To an end: whether it is the first one. -/
  | ended (first : Bool)

namespace Call

/-- Whether the call ends the stream, by its end or because time runs out. -/
def isEnding : Call σ → Bool
  | endStream | expire _ => true
  | attach _ | arrive _ => false

/-- Whether the call attaches a sink. -/
def isAttach : Call σ → Bool
  | attach _ => true
  | _ => false

/-- Whether the call delivers an event. -/
def isDelivery : Call σ → Bool
  | arrive (.deliver _ _) => true
  | _ => false

/-- The connection that comes up, if the call announces one. -/
def connection? : Call σ → Option ConnectionId
  | arrive (.connect c) => some c
  | _ => none

/-- The connection or event that arrives, if one does. -/
def arrival? : Call σ → Option Arrival
  | arrive a => some a
  | _ => none

/-- What sinks are told because of the call, if anything. -/
def notification? : Call σ → Option Notification
  | arrive a => some (.arrival a)
  | endStream => some .streamEnd
  | attach _ | expire _ => none

/-- The reply to a call, given whether the stream has ended before. -/
def reply (ended : Bool) : Call σ → Reply
  | attach _ => .attached
  | arrive _ => .arrived (if ended then .error .streamEnded else .ok ())
  | endStream | expire _ => .ended (!ended)

end Call

/-! ## The first end -/

/-- Whether one of the calls ends the stream. -/
def isEndedBy (calls : List (Call σ)) : Bool :=
  calls.any (·.isEnding)

/-- The calls before the first one that ends the stream. -/
def beforeEnd (calls : List (Call σ)) : List (Call σ) :=
  calls.takeWhile (!·.isEnding)

/-- What arrives before the end, the first so many calls left out. -/
def arrivalsAfter (count : Nat) (calls : List (Call σ)) : List Arrival :=
  ((beforeEnd calls).drop count).filterMap (·.arrival?)

/-- The first call that ends the stream. -/
def ending? (calls : List (Call σ)) : Option (Call σ) :=
  calls.find? (·.isEnding)

theorem isEndedBy_append (calls more : List (Call σ)) :
    isEndedBy (calls ++ more) = (isEndedBy calls || isEndedBy more) :=
  List.any_append

theorem beforeEnd_append_of_open {calls : List (Call σ)} (h : isEndedBy calls = false)
    (more : List (Call σ)) : beforeEnd (calls ++ more) = calls ++ beforeEnd more := by
  refine List.takeWhile_append_of_pos fun c hc => ?_
  rw [isEndedBy, List.any_eq_false] at h
  simpa using h c hc

theorem beforeEnd_of_open {calls : List (Call σ)} (h : isEndedBy calls = false) :
    beforeEnd calls = calls := by
  have hAll := beforeEnd_append_of_open h []
  rwa [List.append_nil, beforeEnd, beforeEnd, List.takeWhile_nil, List.append_nil] at hAll

/-- What comes after the first end is not before it. -/
theorem beforeEnd_append_of_ended {calls : List (Call σ)} (h : isEndedBy calls = true)
    (more : List (Call σ)) : beforeEnd (calls ++ more) = beforeEnd calls := by
  obtain ⟨c, hc, hEnding⟩ := List.any_eq_true.mp h
  exact Traversal.takeWhile_append_of_mem hc (by simp [hEnding]) more

theorem ending?_of_open {calls : List (Call σ)} (h : isEndedBy calls = false) :
    ending? calls = none := by
  rw [ending?, List.find?_eq_none]
  intro c hc
  exact List.any_eq_false.mp h c hc

theorem ending?_append_of_open {calls : List (Call σ)} (h : isEndedBy calls = false)
    (more : List (Call σ)) : ending? (calls ++ more) = ending? more := by
  rw [ending?, List.find?_append, ← ending?, ending?_of_open h, Option.none_or, ← ending?]

theorem ending?_append_of_ended {calls : List (Call σ)} (h : isEndedBy calls = true)
    (more : List (Call σ)) : ending? (calls ++ more) = ending? calls := by
  obtain ⟨c, hc, hEnding⟩ := List.any_eq_true.mp h
  have hSome : (ending? calls).isSome = true := List.find?_isSome.mpr ⟨c, hc, hEnding⟩
  obtain ⟨last, hLast⟩ := Option.isSome_iff_exists.mp hSome
  rw [ending?, List.find?_append, ← ending?, hLast, Option.some_or]

theorem arrivalsAfter_append_of_open {calls : List (Call σ)} (h : isEndedBy calls = false)
    {count : Nat} (hCount : count ≤ calls.length) (more : List (Call σ)) :
    arrivalsAfter count (calls ++ more) =
      arrivalsAfter count calls ++ (beforeEnd more).filterMap (·.arrival?) := by
  rw [arrivalsAfter, arrivalsAfter, beforeEnd_append_of_open h, beforeEnd_of_open h,
    List.drop_append_of_le_length hCount, List.filterMap_append]

theorem arrivalsAfter_append_of_ended {calls : List (Call σ)} (h : isEndedBy calls = true)
    (count : Nat) (more : List (Call σ)) :
    arrivalsAfter count (calls ++ more) = arrivalsAfter count calls := by
  rw [arrivalsAfter, arrivalsAfter, beforeEnd_append_of_ended h]

theorem arrivalsAfter_length (calls : List (Call σ)) : arrivalsAfter calls.length calls = [] := by
  have hle : (beforeEnd calls).length ≤ calls.length :=
    (List.takeWhile_prefix _).length_le
  rw [arrivalsAfter, List.drop_eq_nil_of_le hle, List.filterMap_nil]

/-! ## Sessions -/

/-- A dispatcher and a test under way, with the replies to the calls so far. -/
structure Session (σ τ : Type) where
  dispatcher : Dispatcher σ := {}
  test : τ
  replies : List Reply := []

variable [EventSink σ τ] [TestObject τ]

/-- One more call. -/
def Session.call (s : Session σ τ) : Call σ → Session σ τ
  | .attach x => ⟨s.dispatcher.attach x, s.test, s.replies ++ [.attached]⟩
  | .arrive (.connect c) =>
    let answer := (s.dispatcher.connect c s.test).value
    ⟨answer.dispatcher, answer.test, s.replies ++ [.arrived answer.result]⟩
  | .arrive (.deliver c e) =>
    let answer := (s.dispatcher.deliver c e s.test).value
    ⟨answer.dispatcher, answer.test, s.replies ++ [.arrived answer.result]⟩
  | .endStream =>
    let answer := (s.dispatcher.endStream s.test).value
    ⟨answer.dispatcher, answer.test, s.replies ++ [.ended answer.result]⟩
  | .expire reason =>
    let answer := (s.dispatcher.expire reason s.test).value
    ⟨answer.dispatcher, answer.test, s.replies ++ [.ended answer.result]⟩

/-- The session that calls on a new dispatcher make. -/
def run (t : τ) (calls : List (Call σ)) : Session σ τ :=
  calls.foldl Session.call { test := t }

theorem run_append (t : τ) (calls more : List (Call σ)) :
    run t (calls ++ more) = more.foldl Session.call (run t calls) :=
  List.foldl_append ..

theorem run_concat (t : τ) (calls : List (Call σ)) (c : Call σ) :
    run t (calls ++ [c]) = (run t calls).call c :=
  run_append t calls [c]

/-! ## One call -/

/-- A call that tells sinks something is a round through them, as long as the stream has not
ended. -/
theorem Session.call_of_notification {s : Session σ τ} (h : s.dispatcher.ended = false)
    {c : Call σ} {n : Notification} (hn : c.notification? = some n) :
    ((s.call c).dispatcher.sinks, (s.call c).test) =
      (EventSink.sweep (EventSink.onNotification n) s.dispatcher.sinks s.test).value := by
  cases c with
  | attach x => cases hn
  | arrive a =>
    cases hn
    cases a with
    | connect id => simp [call, connect, sweep, EventSink.onNotification, EventSink.onArrival, h]
    | deliver id e => simp [call, deliver, sweep, EventSink.onNotification, EventSink.onArrival, h]
  | endStream =>
    cases hn
    simp [call, endStream, sweep, EventSink.onNotification, h]
  | expire reason => cases hn

/-- When time runs out, no sink is told. -/
theorem Session.call_expire {s : Session σ τ} (h : s.dispatcher.ended = false) (reason : String) :
    (s.call (.expire reason)).dispatcher.sinks = s.dispatcher.sinks ∧
      (s.call (.expire reason)).test =
        TestObject.stop (TestObject.recordFailure reason s.test).value := by
  simp [call, expire, h]

/-- A call that is not an attachment does nothing after the end. -/
theorem Session.call_of_ended {s : Session σ τ} (h : s.dispatcher.ended = true) {c : Call σ}
    (hc : c.isAttach = false) :
    s.call c = { s with replies := s.replies ++ [c.reply true] } := by
  cases c with
  | attach x => cases hc
  | arrive a => cases a <;> simp [call, connect, deliver, Call.reply, h]
  | endStream => simp [call, endStream, Call.reply, h]
  | expire reason => simp [call, expire, Call.reply, h]

/-- After the end, a call can change the list of sinks, but nothing is counted or listed. -/
theorem Session.counts_call_of_ended {s : Session σ τ} (h : s.dispatcher.ended = true)
    (c : Call σ) :
    (s.call c).dispatcher.connections = s.dispatcher.connections ∧
      (s.call c).dispatcher.delivered = s.dispatcher.delivered := by
  cases hc : c.isAttach with
  | true =>
    cases c with
    | attach x => exact ⟨rfl, rfl⟩
    | _ => cases hc
  | false =>
    rw [call_of_ended h hc]
    exact ⟨rfl, rfl⟩

theorem Session.call_replies (s : Session σ τ) (c : Call σ) :
    (s.call c).replies = s.replies ++ [c.reply s.dispatcher.ended] := by
  cases c with
  | attach x => rfl
  | arrive a =>
    cases hs : s.dispatcher.ended <;> cases a <;> simp [call, connect, deliver, Call.reply, hs]
  | endStream => cases hs : s.dispatcher.ended <;> simp [call, endStream, Call.reply, hs]
  | expire reason => cases hs : s.dispatcher.ended <;> simp [call, expire, Call.reply, hs]

theorem Session.call_ended (s : Session σ τ) (c : Call σ) :
    (s.call c).dispatcher.ended = (s.dispatcher.ended || c.isEnding) := by
  cases c with
  | attach x => exact (Bool.or_false _).symm
  | arrive a =>
    cases hs : s.dispatcher.ended <;>
      cases a <;> simp [call, connect, deliver, sweep, Call.isEnding, hs]
  | endStream => cases hs : s.dispatcher.ended <;> simp [call, endStream, Call.isEnding, hs]
  | expire reason => cases hs : s.dispatcher.ended <;> simp [call, expire, Call.isEnding, hs]

theorem eraseDups_concat (ids : List ConnectionId) (c : ConnectionId) :
    (ids ++ [c]).eraseDups = if c ∈ ids then ids.eraseDups else ids.eraseDups ++ [c] := by
  rw [List.eraseDups_append, List.removeAll]
  by_cases hc : c ∈ ids <;> simp [hc, List.eraseDups_cons]

/-- An id that comes up goes to the end of the list, unless it is there already. -/
theorem Session.call_connections {s : Session σ τ} (h : s.dispatcher.ended = false)
    {ids : List ConnectionId} (hIds : s.dispatcher.connections = ids.eraseDups) (c : Call σ) :
    (s.call c).dispatcher.connections = (ids ++ c.connection?.toList).eraseDups := by
  cases c with
  | attach x => simpa [call, attach, Call.connection?] using hIds
  | arrive a =>
    cases a with
    | connect id =>
      -- the list of the dispatcher and `ids` have the same members
      rw [Call.connection?, Option.toList_some, eraseDups_concat]
      by_cases hId : id ∈ ids <;> simp [call, connect, sweep, h, hIds, hId]
    | deliver id e => simpa [call, deliver, sweep, Call.connection?, h] using hIds
  | endStream => simpa [call, endStream, sweep, Call.connection?, h] using hIds
  | expire reason => simpa [call, expire, Call.connection?, h] using hIds

theorem Session.call_delivered {s : Session σ τ} (h : s.dispatcher.ended = false) (c : Call σ) :
    (s.call c).dispatcher.delivered = s.dispatcher.delivered + [c].countP (·.isDelivery) := by
  cases c with
  | attach x => rfl
  | arrive a =>
    cases a with
    | connect id => simp [call, connect, sweep, Call.isDelivery, h]
    | deliver id e => simp [call, deliver, sweep, Call.isDelivery, h]
  | endStream => simp [call, endStream, sweep, Call.isDelivery, h]
  | expire reason => simp [call, expire, Call.isDelivery, h]

/-! ## Whole sessions -/

/-- The stream has ended once one call has ended it. -/
theorem run_ended (t : τ) (calls : List (Call σ)) :
    (run t calls).dispatcher.ended = isEndedBy calls := by
  -- every induction over a session is from the right end, because a session grows by calls
  induction calls using List.reverseRecOn with
  | nil => rfl
  | append_singleton calls c ih =>
    rw [run_concat, Session.call_ended, ih, isEndedBy_append]
    simp [isEndedBy]

/-- Every call is replied to, and the reply depends on whether the stream has ended before. -/
theorem run_replies (t : τ) (calls : List (Call σ)) (c : Call σ) :
    (run t (calls ++ [c])).replies = (run t calls).replies ++ [c.reply (isEndedBy calls)] := by
  rw [run_concat, Session.call_replies, run_ended]

/-- After the end, a call that is not an attachment changes nothing. -/
theorem run_append_of_ended (t : τ) {calls : List (Call σ)} (h : isEndedBy calls = true)
    {c : Call σ} (hc : c.isAttach = false) :
    (run t (calls ++ [c])).dispatcher = (run t calls).dispatcher ∧
      (run t (calls ++ [c])).test = (run t calls).test := by
  rw [run_concat, Session.call_of_ended (by rw [run_ended, h]) hc]
  exact ⟨rfl, rfl⟩

/-- What holds of the list of calls before the end, and is kept by every call before the end and
every attachment after it, holds after the whole session. -/
theorem run_induction (t : τ) {P : List (Call σ) → Session σ τ → Prop} (hNil : P [] { test := t })
    (hOpen : ∀ calls c, isEndedBy calls = false → P calls (run t calls) →
      P (calls ++ beforeEnd [c]) ((run t calls).call c))
    (hEnded : ∀ calls c, isEndedBy calls = true → P (beforeEnd calls) (run t calls) →
      P (beforeEnd calls) ((run t calls).call c)) (calls : List (Call σ)) :
    P (beforeEnd calls) (run t calls) := by
  induction calls using List.reverseRecOn with
  | nil => exact hNil
  | append_singleton calls c ih =>
    rw [run_concat]
    -- after the end, the calls before it stay what they are
    cases h : isEndedBy calls with
    | true =>
      rw [beforeEnd_append_of_ended h]
      exact hEnded calls c h ih
    | false =>
      rw [beforeEnd_of_open h] at ih
      rw [beforeEnd_append_of_open h]
      exact hOpen calls c h ih

/-- The connections that have come up, each once, in the order in which they first did. -/
theorem run_connections (t : τ) (calls : List (Call σ)) :
    (run t calls).dispatcher.connections =
      ((beforeEnd calls).filterMap (·.connection?)).eraseDups := by
  refine run_induction t (P := fun early s =>
    s.dispatcher.connections = (early.filterMap (·.connection?)).eraseDups) rfl ?_ ?_ calls
  · -- before the end: one call more, which may be a repeated connection
    intro calls c h ih
    have hLast : (beforeEnd [c]).filterMap (·.connection?) = c.connection?.toList := by
      cases c with
      | arrive a => cases a <;> rfl
      | _ => rfl
    rw [List.filterMap_append, hLast]
    exact Session.call_connections (by rw [run_ended, h]) ih c
  · -- after the end the connections stay
    intro calls c h ih
    rw [← ih]
    exact (Session.counts_call_of_ended (by rw [run_ended, h]) c).1

/-- The number of events that have been delivered. -/
theorem run_delivered (t : τ) (calls : List (Call σ)) :
    (run t calls).dispatcher.delivered = (beforeEnd calls).countP (·.isDelivery) := by
  refine run_induction t (P := fun early s =>
    s.dispatcher.delivered = early.countP (·.isDelivery)) rfl ?_ ?_ calls
  · intro calls c h ih
    have hLast : (beforeEnd [c]).countP (·.isDelivery) = [c].countP (·.isDelivery) := by
      cases c with
      | arrive a => cases a <;> rfl
      | _ => rfl
    rw [List.countP_append, hLast, ← ih]
    exact Session.call_delivered (by rw [run_ended, h]) c
  · intro calls c h ih
    rw [← ih]
    exact (Session.counts_call_of_ended (by rw [run_ended, h]) c).2

end Dispatcher

end StreamVerdict
