import StreamVerdict.Proofs.Dispatcher.Session

/-!
# Who is told what

To see what a dispatcher passes on, every sink is tapped: it writes down what
it is told, under the number of sinks attached before it, and then does what
it would do anyway. The record is kept with the test, which also writes down
what the dispatcher itself does to it. Taps change nothing
(`overhear_untap`), so the record is one of the session without them.

The record of a session is made of one round through the sinks for each call
before the first end. Read for one sink, it is what arrived after the sink was
attached and before the end, and then the end of the stream, if the stream did
not end because time ran out.

Main results:

* `overhear_untap` — taps change nothing;
* `overhear_entries` — what one more call adds to the record;
* `toldTo_of_attach` — the record read for one sink;
* `passed_on_once` — a whole session with a dispatcher.
-/

namespace StreamVerdict.Dispatcher

/-! ## Taps -/

/-- A line of the record: what a sink is told, under the number of sinks before it, or a call on the
test. -/
inductive Entry where
  | told (place : Nat) (n : Notification)
  | setPassed (b : Bool)
  | stop
  | recordFailure (reason : String)

namespace Entry

/-- What the sink of a place is told. -/
def toldTo? (place : Nat) : Entry → Option Notification
  | told place' n => if place' = place then some n else none
  | _ => none

/-- Whether the line is a call on the test. -/
def isCall : Entry → Bool
  | told _ _ => false
  | _ => true

end Entry

/-- A sink with a tap. -/
structure Tapped (σ : Type) where
  place : Nat
  sink : σ

/-- A test with the record. -/
structure Recorded (τ : Type) where
  test : τ
  entries : List Entry := []

variable {σ τ : Type}

/-- What a tapped sink is told is written down, and then the sink is told. -/
def Tapped.hear [EventSink σ τ] (n : Notification) (s : Tapped σ) (t : Recorded τ) :
    Logged (Tapped σ × Recorded τ) := do
  let (sink, test) ← EventSink.onNotification n s.sink t.test
  return (⟨s.place, sink⟩, ⟨test, t.entries ++ [.told s.place n]⟩)

instance [EventSink σ τ] : EventSink (Tapped σ) (Recorded τ) where
  onConnect c := Tapped.hear (.arrival (.connect c))
  onEvent c e := Tapped.hear (.arrival (.deliver c e))
  onStreamEnd := Tapped.hear .streamEnd

instance [TestObject τ] : TestObject (Recorded τ) where
  setPassed b t := ⟨TestObject.setPassed b t.test, t.entries ++ [.setPassed b]⟩
  passed t := TestObject.passed t.test
  stop t := ⟨TestObject.stop t.test, t.entries ++ [.stop]⟩
  recordFailure reason t := do
    let test ← TestObject.recordFailure reason t.test
    return ⟨test, t.entries ++ [.recordFailure reason]⟩

/-- The call with a tap on the sink that it attaches. -/
def Call.tap (place : Nat) : Call σ → Call (Tapped σ)
  | attach s => .attach ⟨place, s⟩
  | arrive a => .arrive a
  | endStream => .endStream
  | expire reason => .expire reason

theorem onNotification_tapped [EventSink σ τ] (n : Notification) (s : Tapped σ) (t : Recorded τ) :
    EventSink.onNotification n s t = s.hear n t := by
  cases n with
  | arrival a => cases a <;> rfl
  | streamEnd => rfl

/-- A round through tapped sinks is the round through the sinks, written down. -/
theorem sweep_tapped [EventSink σ τ] (n : Notification) (ss : List (Tapped σ)) (t : Recorded τ) :
    let bare := (EventSink.sweep (EventSink.onNotification n) (ss.map (·.sink)) t.test).value
    let heard := (EventSink.sweep (EventSink.onNotification n) ss t).value
    heard.1.map (·.sink) = bare.1 ∧ heard.2.test = bare.2 ∧
      heard.1.map (·.place) = ss.map (·.place) ∧
      heard.2.entries = t.entries ++ ss.map fun s => .told s.place n := by
  induction ss generalizing t with
  | nil => exact ⟨rfl, rfl, rfl, (List.append_nil _).symm⟩
  | cons s ss ih =>
    -- the first sink is told, and the others find its line in the record
    obtain ⟨hSinks, hTest, hPlaces, hEntries⟩ := ih (s.hear n t).value.2
    simp only [EventSink.sweep, Logged.value_bind, Logged.value_pure, onNotification_tapped,
      List.map_cons] at hSinks hTest hPlaces hEntries ⊢
    refine ⟨congrArg _ hSinks, hTest, congrArg _ hPlaces, ?_⟩
    rw [hEntries]
    simp [Tapped.hear]

/-! ## Sessions with taps -/

variable [EventSink σ τ] [TestObject τ]

/-- The session that calls on a new dispatcher make, with a tap on every sink. -/
def overhear (t : τ) (calls : List (Call σ)) : Session (Tapped σ) (Recorded τ) :=
  calls.foldl (fun s c => s.call (c.tap s.dispatcher.sinks.length)) { test := ⟨t, []⟩ }

theorem overhear_concat (t : τ) (calls : List (Call σ)) (c : Call σ) :
    overhear t (calls ++ [c]) =
      (overhear t calls).call (c.tap (overhear t calls).dispatcher.sinks.length) :=
  List.foldl_append ..

/-- The session without the taps and the record. -/
def Session.untap (s : Session (Tapped σ) (Recorded τ)) : Session σ τ where
  dispatcher := { s.dispatcher with sinks := s.dispatcher.sinks.map (·.sink) }
  test := s.test.test
  replies := s.replies

/-! ## One call -/

/-- Taps change nothing about a call. -/
theorem Session.untap_call (s : Session (Tapped σ) (Recorded τ)) (place : Nat) (c : Call σ) :
    (s.call (c.tap place)).untap = s.untap.call c := by
  cases c with
  | attach x => simp [untap, call, attach, Call.tap]
  -- a round of the tapped sinks leaves the sinks and the test of the untapped round
  | arrive a =>
    obtain ⟨hSinks, hTest, -, -⟩ := sweep_tapped (.arrival a) s.dispatcher.sinks s.test
    cases hs : s.dispatcher.ended with
    | true => cases a <;> simp [untap, call, connect, deliver, Call.tap, hs]
    | false =>
      cases a with
      | connect id =>
        simp only [EventSink.onNotification, EventSink.onArrival] at hSinks hTest
        simp [untap, call, connect, sweep, Call.tap, hs, hSinks, hTest]
      | deliver id e =>
        simp only [EventSink.onNotification, EventSink.onArrival] at hSinks hTest
        simp [untap, call, deliver, sweep, Call.tap, hs, hSinks, hTest]
  | endStream =>
    obtain ⟨hSinks, hTest, -, -⟩ := sweep_tapped .streamEnd s.dispatcher.sinks s.test
    simp only [EventSink.onNotification] at hSinks hTest
    cases hs : s.dispatcher.ended with
    | true => simp [untap, call, endStream, Call.tap, hs]
    | false => simp [untap, call, endStream, sweep, Call.tap, hs, hSinks, hTest]
  | expire reason =>
    -- no sink is told, but the test and its record are
    cases hs : s.dispatcher.ended with
    | true => simp [untap, call, expire, Call.tap, hs]
    | false => simp [untap, call, expire, Call.tap, hs, TestObject.stop, TestObject.recordFailure]

/-- What is written down because of a call before the end, given the places of the sinks. -/
def Call.entries (places : List Nat) : Call σ → List Entry
  | attach _ => []
  | arrive a => places.map fun place => .told place (.arrival a)
  | endStream => places.map fun place => .told place .streamEnd
  | expire reason => [.recordFailure reason, .stop]

/-- The places of the sinks that are attached. -/
def Session.places (s : Session (Tapped σ) (Recorded τ)) : List Nat :=
  s.dispatcher.sinks.map (·.place)

theorem Session.entries_of_notification {s : Session (Tapped σ) (Recorded τ)}
    (h : s.dispatcher.ended = false) {c : Call (Tapped σ)} {n : Notification}
    (hn : c.notification? = some n) :
    (s.call c).test.entries = s.test.entries ++ s.places.map (fun place => .told place n) ∧
      (s.call c).places = s.places := by
  obtain ⟨-, -, hPlaces, hEntries⟩ := sweep_tapped n s.dispatcher.sinks s.test
  rw [← call_of_notification h hn] at hPlaces hEntries
  refine ⟨?_, hPlaces⟩
  rw [hEntries, places, List.map_map]
  rfl

theorem Call.isAttach_tap (place : Nat) (c : Call σ) : (c.tap place).isAttach = c.isAttach := by
  cases c <;> rfl

/-- What a call that is no attachment writes down. The sinks keep their places. -/
theorem Session.entries_call {s : Session (Tapped σ) (Recorded τ)} {c : Call σ}
    (hc : c.isAttach = false) (place : Nat) :
    (s.call (c.tap place)).test.entries =
        s.test.entries ++ (if s.dispatcher.ended then [] else c.entries s.places) ∧
      (s.call (c.tap place)).places = s.places := by
  cases hs : s.dispatcher.ended with
  | true =>
    rw [call_of_ended hs (by rw [Call.isAttach_tap, hc]), if_pos rfl, List.append_nil]
    exact ⟨rfl, rfl⟩
  | false =>
    rw [if_neg Bool.false_ne_true]
    cases c with
    | attach x => cases hc
    | arrive a => exact entries_of_notification hs (c := .arrive a) rfl
    | endStream => exact entries_of_notification hs (c := .endStream) rfl
    | expire reason =>
      obtain ⟨hSinks, hTest⟩ := call_expire hs reason
      -- no sink hears of it, so only the test adds to the record
      constructor
      · show (s.call (.expire reason)).test.entries = _
        rw [hTest]
        simp [TestObject.stop, TestObject.recordFailure, Call.entries]
      · show (s.call (.expire reason)).dispatcher.sinks.map (·.place) = s.places
        rw [hSinks]
        rfl

/-! ## The record of a session -/

/-- Taps change nothing. -/
theorem overhear_untap (t : τ) (calls : List (Call σ)) :
    (overhear t calls).untap = run t calls := by
  induction calls using List.reverseRecOn with
  | nil => rfl
  | append_singleton calls c ih => rw [overhear_concat, run_concat, Session.untap_call, ih]

theorem overhear_ended (t : τ) (calls : List (Call σ)) :
    (overhear t calls).dispatcher.ended = isEndedBy calls := by
  rw [← run_ended t calls, ← overhear_untap]
  rfl

/-- Sinks are numbered in the order in which they are attached, also after the end. -/
theorem overhear_places (t : τ) (calls : List (Call σ)) :
    (overhear t calls).places = List.range (calls.countP (·.isAttach)) := by
  induction calls using List.reverseRecOn with
  | nil => rfl
  | append_singleton calls c ih =>
    have hLength : (overhear t calls).dispatcher.sinks.length = calls.countP (·.isAttach) := by
      rw [← List.length_range (n := calls.countP (·.isAttach)), ← ih, Session.places,
        List.length_map]
    rw [overhear_concat, hLength, List.countP_append]
    cases hc : c.isAttach with
    | true =>
      cases c with
      | attach x =>
        -- the new sink stands at the next free place
        have hPlaces : ((overhear t calls).call (.attach ⟨calls.countP (·.isAttach), x⟩)).places =
            (overhear t calls).places ++ [calls.countP (·.isAttach)] := List.map_append
        rw [Call.tap, hPlaces, ih, ← List.range_succ]
        rfl
      | _ => cases hc
    -- another call leaves the places as they are
    | false =>
      rw [(Session.entries_call hc _).2, ih]
      simp [hc]

/-- What one more call adds to the record. -/
theorem overhear_entries (t : τ) (calls : List (Call σ)) (c : Call σ) :
    (overhear t (calls ++ [c])).test.entries = (overhear t calls).test.entries ++
      if isEndedBy calls then [] else c.entries (List.range (calls.countP (·.isAttach))) := by
  rw [overhear_concat]
  cases hc : c.isAttach with
  | true =>
    cases c with
    | attach x =>
      -- nobody is told of an attachment
      show (overhear t calls).test.entries = _
      simp [Call.entries]
    | _ => cases hc
  | false => rw [(Session.entries_call hc _).1, overhear_ended, overhear_places]

/-! ## The record read for one sink -/

/-- What the sink of a place is told in a session. -/
def toldTo (place : Nat) (t : τ) (calls : List (Call σ)) : List Notification :=
  (overhear t calls).test.entries.filterMap (Entry.toldTo? place)

/-- A round tells every sink once, and nobody else. -/
theorem filterMap_round (place count : Nat) (n : Notification) :
    ((List.range count).map fun i => Entry.told i n).filterMap (Entry.toldTo? place) =
      if place < count then [n] else [] := by
  induction count with
  | zero => rfl
  | succ count ih =>
    -- the last line of the round is for `count`, which is this place or another one
    rw [List.range_succ, List.map_append, List.filterMap_append, ih]
    rcases Nat.lt_trichotomy place count with hlt | hEq | hgt
    · have hne : count ≠ place := by omega
      have hlt' : place < count + 1 := by omega
      simp [Entry.toldTo?, hlt, hne, hlt']
    · simp [Entry.toldTo?, hEq]
    · have hne : count ≠ place := by omega
      have hge : ¬ place < count := by omega
      have hge' : ¬ place < count + 1 := by omega
      simp [Entry.toldTo?, hne, hge, hge']

theorem filterMap_entries (place count : Nat) (c : Call σ) :
    (c.entries (List.range count)).filterMap (Entry.toldTo? place) =
      if place < count then c.notification?.toList else [] := by
  cases c with
  | attach x => simp [Call.entries, Call.notification?]
  | arrive a => exact filterMap_round place count (.arrival a)
  | endStream => exact filterMap_round place count .streamEnd
  | expire reason => simp [Call.entries, Call.notification?, Entry.toldTo?]

theorem toldTo_concat (place : Nat) (t : τ) (calls : List (Call σ)) (c : Call σ) :
    toldTo place t (calls ++ [c]) = toldTo place t calls ++
      if !isEndedBy calls && place < calls.countP (·.isAttach) then c.notification?.toList
      else [] := by
  rw [toldTo, overhear_entries, List.filterMap_append, ← toldTo]
  cases isEndedBy calls with
  | true => simp
  | false => simp [filterMap_entries]

/-- A sink is told nothing before it is attached. -/
theorem toldTo_eq_nil {place : Nat} (t : τ) {calls : List (Call σ)}
    (h : calls.countP (·.isAttach) ≤ place) : toldTo place t calls = [] := by
  induction calls using List.reverseRecOn with
  | nil => rfl
  | append_singleton calls c ih =>
    rw [List.countP_append] at h
    have hle : calls.countP (·.isAttach) ≤ place := by omega
    have hNot : ¬ place < calls.countP (·.isAttach) := by omega
    rw [toldTo_concat, ih hle]
    simp [hNot]

/-- What sinks are told last, given the call that ends the stream. -/
def closing : Option (Call σ) → List Notification
  | some .endStream => [.streamEnd]
  | _ => []

theorem notification?_toList (c : Call σ) :
    c.notification?.toList =
      ((beforeEnd [c]).filterMap (·.arrival?)).map .arrival ++ closing (ending? [c]) := by
  cases c <;> rfl

/-- A sink is told what arrives after it was attached and before the end, and then of the end if it
is not that time runs out. -/
theorem toldTo_of_attach (t : τ) (pre : List (Call σ)) (x : σ) (post : List (Call σ)) :
    toldTo (pre.countP (·.isAttach)) t (pre ++ .attach x :: post) =
      (arrivalsAfter (pre.length + 1) (pre ++ .attach x :: post)).map .arrival ++
        if isEndedBy pre then [] else closing (ending? (pre ++ .attach x :: post)) := by
  -- over the calls after the attachment, from the right end
  induction post using List.reverseRecOn with
  -- nothing after the attachment: the sink has heard of no call yet
  | nil =>
    have hNone := arrivalsAfter_length (pre ++ [Call.attach x])
    rw [List.length_append, List.length_singleton] at hNone
    rw [toldTo_concat, toldTo_eq_nil t (Nat.le_refl _), hNone]
    cases hPre : isEndedBy pre with
    | true => simp
    | false =>
      have hLast : ending? (pre ++ [Call.attach x]) = none := ending?_append_of_open hPre _
      simp [hLast, closing]
  | append_singleton post c ih =>
    have hCalls : pre ++ Call.attach x :: (post ++ [c]) = (pre ++ .attach x :: post) ++ [c] := by
      simp
    have hAttached : pre.countP (·.isAttach) < (pre ++ .attach x :: post).countP (·.isAttach) := by
      simp [List.countP_append, Call.isAttach]
    have hLength : pre.length + 1 ≤ (pre ++ Call.attach x :: post).length := by
      simp
    have hPre : isEndedBy (pre ++ .attach x :: post) = false → isEndedBy pre = false := by
      rw [isEndedBy_append, Bool.or_eq_false_iff]
      exact And.left
    -- what follows is about any calls in which this sink is attached
    rw [hCalls]
    generalize pre ++ Call.attach x :: post = calls at ih hAttached hLength hPre ⊢
    rw [toldTo_concat, ih]
    cases hEnded : isEndedBy calls with
    | true =>
      -- nothing is told after the end
      rw [arrivalsAfter_append_of_ended hEnded, ending?_append_of_ended hEnded]
      simp
    | false =>
      -- the sink hears of the call what there is to hear of it
      rw [arrivalsAfter_append_of_open hEnded hLength, ending?_append_of_open hEnded,
        ending?_of_open hEnded, hPre hEnded, List.map_append]
      simp [closing, hAttached, notification?_toList c]

/-! ## The record of calls on the test -/

/-- What the dispatcher itself does to the test, given the call that ends the stream. -/
def callsOnTest : Option (Call σ) → List Entry
  | some (.expire reason) => [.recordFailure reason, .stop]
  | _ => []

/-- The dispatcher itself does nothing to the test unless time runs out. -/
theorem filter_isCall_overhear (t : τ) (calls : List (Call σ)) :
    (overhear t calls).test.entries.filter (·.isCall) = callsOnTest (ending? calls) := by
  induction calls using List.reverseRecOn with
  | nil => rfl
  | append_singleton calls c ih =>
    rw [overhear_entries, List.filter_append, ih]
    cases hEnded : isEndedBy calls with
    | true =>
      rw [ending?_append_of_ended hEnded]
      exact List.append_nil _
    | false =>
      -- a round to the sinks calls nothing on the test
      have hRound (n : Notification) (places : List Nat) :
          (places.map fun i => Entry.told i n).filter (·.isCall) = [] := by
        simp [List.filter_eq_nil_iff, Entry.isCall]
      rw [ending?_append_of_open hEnded, ending?_of_open hEnded]
      cases c with
      | attach x => rfl
      | arrive a => exact hRound (.arrival a) _
      | endStream => exact hRound .streamEnd _
      | expire reason => rfl

/--
**A dispatcher passes everything on once, until the first end.** For any
calls on a new dispatcher, in any order:

1. the session is the same with a tap on every sink, so what is written down is
   what sinks are told and what the dispatcher itself does to the test;
2. one more call is replied to, and unless the stream has ended before, it
   adds its line for every attached sink, in the order of attachment;
3. a sink is told exactly what arrives after it was attached and before the
   first end, in order, and then of the end of the stream, if it was attached
   before the first end and that is not an expiry;
4. the dispatcher itself fails the test and stops it if the first end is an
   expiry, and otherwise does nothing to it;
5. it lists the connections before the first end, each once, and counts the
   events;
6. after the first end no call but an attachment changes anything.
-/
theorem passed_on_once (t : τ) (calls : List (Call σ)) :
    (overhear t calls).untap = run t calls ∧
    (∀ c, (run t (calls ++ [c])).replies =
        (run t calls).replies ++ [c.reply (isEndedBy calls)] ∧
      (overhear t (calls ++ [c])).test.entries = (overhear t calls).test.entries ++
        if isEndedBy calls then [] else c.entries (List.range (calls.countP (·.isAttach)))) ∧
    (∀ pre x post, calls = pre ++ .attach x :: post →
      toldTo (pre.countP (·.isAttach)) t calls =
        (arrivalsAfter (pre.length + 1) calls).map .arrival ++
          if isEndedBy pre then [] else closing (ending? calls)) ∧
    (overhear t calls).test.entries.filter (·.isCall) = callsOnTest (ending? calls) ∧
    (run t calls).dispatcher.connections =
      ((beforeEnd calls).filterMap (·.connection?)).eraseDups ∧
    (run t calls).dispatcher.delivered = (beforeEnd calls).countP (·.isDelivery) ∧
    (isEndedBy calls = true → ∀ c : Call σ, c.isAttach = false →
      (run t (calls ++ [c])).dispatcher = (run t calls).dispatcher ∧
        (run t (calls ++ [c])).test = (run t calls).test) := by
  refine ⟨overhear_untap t calls, fun c => ⟨run_replies t calls c, overhear_entries t calls c⟩,
    ?_, filter_isCall_overhear t calls, run_connections t calls, run_delivered t calls,
    fun h c hc => run_append_of_ended t h hc⟩
  intro pre x post hCalls
  rw [hCalls]
  exact toldTo_of_attach t pre x post

end StreamVerdict.Dispatcher
