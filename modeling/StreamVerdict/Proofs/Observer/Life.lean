import Mathlib.Data.List.Induction
import StreamVerdict.Proofs.Observer.Built

/-!
# The life of one observer

Whoever holds an observer may register connections, hand it events and end it
in any order and as often as they like. An observer goes through its stages
once, in their order, and stays with the first of its connections that it
hears of in time. What it has counted and what it holds depends on nothing but
the events that it has said it counts (`Life.counted`).

A hook may do to the test what it likes. It does nothing to the observer, so
observers with hooks are not left out.

Main results:

* `Life.call_cases` — all that a call can do;
* `Life.observer_run` — the observer after any calls;
* `Life.run_of_padded` / `Life.padded_filter` — calls that are ignored might
  as well not have been made;
* `life_of_built` — the account of the life of an observer that is built.
-/

namespace StreamVerdict

/-- The steps that an observer takes from one stage to another. -/
inductive ObserverState.MovesTo : ObserverState → ObserverState → Prop
  | registers : MovesTo .unregistered .registered
  | ends : MovesTo .registered .finalized
  | endsUnregistered : MovesTo .unregistered .finalized

namespace Observer

/-! ## Calls -/

/-- What can be asked of an observer. -/
inductive Call where
  | register (connection : ConnectionId)
  | handle (connection : ConnectionId) (e : Event)
  | finalize
  deriving DecidableEq

/-- The connection that a call registers, if it does. -/
def Call.connection? : Call → Option ConnectionId
  | register c => some c
  | handle _ _ | finalize => none

/-- Whether an observer on a connection may have to do with a call: any call but an event on another
connection, or one that its pattern does not accept. -/
def Call.mayConcern (on : Option ConnectionId) (p : Pattern) : Call → Bool
  | handle c e => on = some c && p.accepts e
  | register _ | finalize => true

/-- The connections that are registered before the first end. -/
def registrations (calls : List Call) : List ConnectionId :=
  (calls.takeWhile (· ≠ .finalize)).filterMap (·.connection?)

/-- One more call registers a connection only if there was no end before. -/
theorem registrations_concat (calls : List Call) (call : Call) :
    registrations (calls ++ [call]) =
      if .finalize ∈ calls then registrations calls
      else registrations calls ++ call.connection?.toList := by
  unfold registrations
  by_cases hEnd : Call.finalize ∈ calls
  · -- the calls before the first end are those of `calls` already
    have hCut : decide (Call.finalize ≠ .finalize) = false := decide_eq_false (not_not_intro rfl)
    rw [if_pos hEnd, Traversal.takeWhile_append_of_mem hEnd hCut]
  · have hOpen : ∀ c ∈ calls, decide (c ≠ .finalize) = true := by
      intro c hc
      rw [decide_eq_true_eq]
      rintro rfl
      exact hEnd hc
    have hAll : calls.takeWhile (· ≠ .finalize) = calls := List.takeWhile_eq_self_iff.mpr hOpen
    rw [if_neg hEnd, List.takeWhile_append_of_pos hOpen, hAll, List.filterMap_append]
    cases call <;> rfl

variable {τ : Type}

/-- Whether a call makes no difference to an observer: a connection that it does not register on,
an event that it does not count, or an end after the first. -/
def ignores (o : Observer τ) : Call → Bool
  | .register c => !(o.register c).1
  | .handle c e => !o.counts c e
  | .finalize => o.state = .finalized

theorem counts_iff {o : Observer τ} {c : ConnectionId} {e : Event} :
    o.counts c e = true ↔
      o.state = .registered ∧ o.registeredOn = some c ∧ o.pattern.accepts e = true := by
  simp [counts, and_assoc]

/-- An observer takes no notice of anything after its end. -/
theorem ignores_of_finalized {o : Observer τ} (h : o.state = .finalized) (c : Call) :
    o.ignores c = true := by
  cases c with
  | register id => simp [ignores, register, h]
  | handle id e => simp [ignores, counts, h]
  | finalize => simp [ignores, h]

variable [TestObject τ]

/-- An event that counts is counted and judged, whatever the hook does. -/
theorem handle_of_counts {o : Observer τ} {c : ConnectionId} {e : Event}
    (h : o.counts c e = true) (t : τ) :
    (o.handle c e t).value.counted = true ∧ (o.handle c e t).value.observer = o.counting [e] := by
  have hCond : (o.state = .registered && o.registeredOn = some c && o.pattern.accepts e) = true := h
  unfold handle
  rw [if_pos hCond]
  exact ⟨rfl, rfl⟩

/-- Any other event leaves the observer and the test as they are. -/
theorem handle_of_not_counts {o : Observer τ} {c : ConnectionId} {e : Event}
    (h : o.counts c e = false) (t : τ) : (o.handle c e t).value = ⟨false, o, t⟩ := by
  have hCond : ¬ (o.state = .registered && o.registeredOn = some c && o.pattern.accepts e) = true :=
    Bool.eq_false_iff.mp h
  unfold handle
  rw [if_neg hCond]
  rfl

theorem handle_counted (o : Observer τ) (c : ConnectionId) (e : Event) (t : τ) :
    (o.handle c e t).value.counted = o.counts c e := by
  cases hc : o.counts c e with
  | true => exact (handle_of_counts hc t).1
  | false => rw [handle_of_not_counts hc]

/-! ## Lives -/

/-- An observer and a test on their way, with what the observer has said so far. -/
structure Life (τ : Type) where
  observer : Observer τ
  test : τ
  /-- The events of the calls that were answered with `true`. -/
  counted : List Event := []

namespace Life

/-- What becomes of an observer and a test by a call. -/
def call (l : Life τ) : Call → Life τ
  | .register c => { l with observer := (l.observer.register c).2 }
  | .handle c e =>
    let answer := (l.observer.handle c e l.test).value
    { observer := answer.observer, test := answer.test,
      counted := if answer.counted then l.counted ++ [e] else l.counted }
  | .finalize =>
    let after := (l.observer.finalize l.test).value
    { l with observer := after.1, test := after.2 }

/-- What becomes of them by several calls. -/
def run (l : Life τ) (calls : List Call) : Life τ :=
  calls.foldl call l

theorem run_cons (l : Life τ) (c : Call) (calls : List Call) :
    l.run (c :: calls) = (l.call c).run calls := rfl

theorem run_concat (l : Life τ) (calls : List Call) (c : Call) :
    l.run (calls ++ [c]) = (l.run calls).call c :=
  List.foldl_concat ..

/-- A call that is ignored changes nothing at all. -/
theorem call_of_ignores {l : Life τ} {c : Call} (h : l.observer.ignores c = true) :
    l.call c = l := by
  cases c with
  | register c =>
    -- a connection of its own would be accepted while it waits
    have hReply : (l.observer.register c).1 = false := by simpa [ignores] using h
    have hSame : (l.observer.register c).2 = l.observer := by
      unfold register at hReply ⊢
      split at hReply
      · cases hReply
      · rw [if_neg ‹_›]
    rw [call, hSame]
  | handle c e =>
    have hCounts : l.observer.counts c e = false := by simpa [ignores] using h
    rw [call, handle_of_not_counts hCounts]
    rfl
  | finalize =>
    have hState : l.observer.state = .finalized := by simpa [ignores] using h
    rw [call, finalize, if_pos hState]
    rfl

/-- All that a call can do. -/
theorem call_cases (l : Life τ) (c : Call) :
    (l.observer.ignores c = true ∧ l.call c = l) ∨
    (∃ id, c = .register id ∧ l.observer.state = .unregistered ∧ id ∈ l.observer.connections ∧
      l.call c =
        { l with observer := { l.observer with state := .registered, registeredOn := some id } }) ∨
    (∃ id e, c = .handle id e ∧ l.observer.counts id e = true ∧
      (l.call c).observer = l.observer.counting [e] ∧ (l.call c).counted = l.counted ++ [e]) ∨
    (c = .finalize ∧ l.observer.state ≠ .finalized ∧
      (l.call c).observer = { l.observer with state := .finalized } ∧
      (l.call c).counted = l.counted) := by
  cases hi : l.observer.ignores c with
  | true => exact .inl ⟨rfl, call_of_ignores hi⟩
  | false =>
    refine .inr ?_
    cases c with
    | register id =>
      refine .inl ⟨id, rfl, ?_⟩
      have hReply : (l.observer.register id).1 = true := by simpa [ignores] using hi
      unfold register at hReply
      split at hReply
      · rename_i hCond
        have hMine : l.observer.state = .unregistered ∧ id ∈ l.observer.connections := by
          simpa using hCond
        exact ⟨hMine.1, hMine.2, by rw [call, register, if_pos hCond]⟩
      · cases hReply
    | handle id e =>
      have hCounts : l.observer.counts id e = true := by simpa [ignores] using hi
      obtain ⟨hCounted, hObserver⟩ := handle_of_counts hCounts l.test
      exact .inr (.inl ⟨id, e, rfl, hCounts, hObserver, if_pos hCounted⟩)
    | finalize =>
      have hState : l.observer.state ≠ .finalized := by simpa [ignores] using hi
      have hValue : (l.observer.finalize l.test).value.1 =
          { l.observer with state := .finalized } :=
        congrArg Prod.fst (onStreamEnd_value hState l.test)
      exact .inr (.inr ⟨rfl, hState, hValue, rfl⟩)

/-! ## Stages -/

/-- A call leaves an observer in its stage or moves it to a later one. -/
theorem state_call (l : Life τ) (c : Call) :
    (l.call c).observer.state = l.observer.state ∨
      l.observer.state.MovesTo (l.call c).observer.state := by
  -- no change, a registration, an event that counts, the first end
  rcases l.call_cases c with
    ⟨-, hSame⟩ | ⟨id, -, hState, -, hCall⟩ | ⟨id, e, -, -, hCall, -⟩ | ⟨-, hState, hCall, -⟩
  · rw [hSame]
    exact .inl rfl
  · rw [hCall, hState]
    exact .inr .registers
  · rw [hCall]
    exact .inl rfl
  · rw [hCall]
    refine .inr ?_
    cases hs : l.observer.state with
    | unregistered => exact .endsUnregistered
    | registered => exact .ends
    | finalized => exact absurd hs hState

/-- Calls leave the pattern of an observer as it is. -/
theorem pattern_call (l : Life τ) (c : Call) :
    (l.call c).observer.pattern = l.observer.pattern := by
  rcases l.call_cases c with
    ⟨-, hCall⟩ | ⟨id, -, -, -, hCall⟩ | ⟨id, e, -, -, hCall, -⟩ | ⟨-, -, hCall, -⟩
  · rw [hCall]
  · rw [hCall]
  · rw [hCall]
    rfl
  · rw [hCall]

/-- Once an observer does not wait any more, it stays on the connection that it is on, if any. -/
theorem registeredOn_run {l : Life τ} (h : l.observer.state ≠ .unregistered) (calls : List Call) :
    (l.run calls).observer.registeredOn = l.observer.registeredOn := by
  induction calls generalizing l with
  | nil => rfl
  | cons c calls ih =>
    rw [run_cons]
    -- only a registration could change it, and that needs an observer that waits
    rcases l.call_cases c with
      ⟨-, hSame⟩ | ⟨id, -, hState, -, -⟩ | ⟨id, e, -, -, hCall, -⟩ | ⟨-, -, hCall, -⟩
    · rw [hSame]
      exact ih h
    · exact absurd hState h
    · have hStays : (l.call c).observer.state ≠ .unregistered := by rwa [hCall]
      rw [ih hStays, hCall]
      rfl
    · -- an observer that has ended never waits again
      have hEnded : (l.call c).observer.state ≠ .unregistered := by
        rw [hCall]
        exact ObserverState.noConfusion
      rw [ih hEnded, hCall]

end Life

/-! ## The observer after any calls -/

/-- The connection that an observer is on after calls: the first of its connections that is
registered before the first end. -/
def home (o : Observer τ) (calls : List Call) : Option ConnectionId :=
  (registrations calls).find? (o.connections.contains ·)

/-- The stage that an observer is in after calls. -/
def stage (o : Observer τ) (calls : List Call) : ObserverState :=
  if .finalize ∈ calls then .finalized
  else if (o.home calls).isSome then .registered
  else .unregistered

section Place

omit [TestObject τ]

theorem home_concat (o : Observer τ) (calls : List Call) (c : Call) :
    o.home (calls ++ [c]) =
      if .finalize ∈ calls then o.home calls
      else (o.home calls).or (c.connection?.filter (o.connections.contains ·)) := by
  unfold home
  rw [registrations_concat]
  split
  · rfl
  · rw [List.find?_append]
    cases c.connection? with
    | none => rfl
    | some id => cases o.connections.contains id <;> simp [Option.filter]

theorem stage_concat {o : Observer τ} {calls : List Call} {c : Call} (h : c ≠ .finalize) :
    o.stage (calls ++ [c]) =
      if .finalize ∈ calls then .finalized
      else if (o.home (calls ++ [c])).isSome then .registered
      else .unregistered := by
  have hMem : Call.finalize ∈ calls ++ [c] ↔ Call.finalize ∈ calls := by
    simp [Ne.symm h]
  unfold stage
  simp only [hMem]

theorem stage_eq_finalized_iff {o : Observer τ} {calls : List Call} :
    o.stage calls = .finalized ↔ .finalize ∈ calls := by
  unfold stage
  by_cases hEnd : Call.finalize ∈ calls
  · simp [hEnd]
  · rw [if_neg hEnd]
    split <;> simp [hEnd]

theorem stage_eq_unregistered_iff {o : Observer τ} {calls : List Call} :
    o.stage calls = .unregistered ↔ .finalize ∉ calls ∧ o.home calls = none := by
  unfold stage
  by_cases hEnd : Call.finalize ∈ calls
  · simp [hEnd]
  · cases o.home calls <;> simp [hEnd]

/-- A call that registers nothing makes no difference to the connection. -/
theorem home_concat_of_no_connection {c : Call} (h : c.connection? = none) (o : Observer τ)
    (calls : List Call) : o.home (calls ++ [c]) = o.home calls := by
  rw [home_concat, h]
  split
  · rfl
  · exact Option.or_none

/-- The first connection of an observer that is registered in time decides. -/
theorem place_of_register {o : Observer τ} {calls : List Call} {id : ConnectionId}
    (hs : o.stage calls = .unregistered) (hId : id ∈ o.connections) :
    o.home (calls ++ [.register id]) = some id ∧
      o.stage (calls ++ [.register id]) = .registered := by
  obtain ⟨hOpen, hNone⟩ := stage_eq_unregistered_iff.mp hs
  have hHome : o.home (calls ++ [.register id]) = some id := by
    rw [home_concat, if_neg hOpen, hNone]
    simp [Call.connection?, Option.filter, hId]
  refine ⟨hHome, ?_⟩
  rw [stage_concat Call.noConfusion, if_neg hOpen, hHome]
  rfl

/-- Any other connection that is registered makes no difference. -/
theorem place_of_other_register {o : Observer τ} {calls : List Call} {id : ConnectionId}
    (h : ¬ (o.stage calls = .unregistered ∧ id ∈ o.connections)) :
    o.home (calls ++ [.register id]) = o.home calls ∧
      o.stage (calls ++ [.register id]) = o.stage calls := by
  have hHome : o.home (calls ++ [.register id]) = o.home calls := by
    rw [home_concat]
    split
    · rfl
    · rename_i hOpen
      cases hPlace : o.home calls with
      | some id' => rfl
      | none =>
        -- the observer still waits, so the connection is none of its own
        have hOther : id ∉ o.connections := fun hId =>
          h ⟨stage_eq_unregistered_iff.mpr ⟨hOpen, hPlace⟩, hId⟩
        simp [Call.connection?, Option.filter, hOther]
  refine ⟨hHome, ?_⟩
  rw [stage_concat Call.noConfusion, hHome]
  rfl

/-- An event makes no difference to the place. -/
theorem place_of_handle (o : Observer τ) (calls : List Call) (id : ConnectionId) (e : Event) :
    o.home (calls ++ [.handle id e]) = o.home calls ∧
      o.stage (calls ++ [.handle id e]) = o.stage calls := by
  have hHome : o.home (calls ++ [.handle id e]) = o.home calls :=
    home_concat_of_no_connection rfl o calls
  refine ⟨hHome, ?_⟩
  rw [stage_concat Call.noConfusion, hHome]
  rfl

/-- An end is the last stage. -/
theorem place_of_finalize (o : Observer τ) (calls : List Call) :
    o.home (calls ++ [.finalize]) = o.home calls ∧
      o.stage (calls ++ [.finalize]) = .finalized :=
  ⟨home_concat_of_no_connection rfl o calls, stage_eq_finalized_iff.mpr (by simp)⟩

/-- An observer after calls, if these are the events that it has counted. -/
def afterCalls (o : Observer τ) (calls : List Call) (es : List Event) : Observer τ :=
  { o.counting es with state := o.stage calls, registeredOn := o.home calls }

/-- A call that is ignored makes no difference to the place. -/
theorem place_of_ignores {o : Observer τ} {calls : List Call} {es : List Event} {c : Call}
    (h : (o.afterCalls calls es).ignores c = true) :
    o.home (calls ++ [c]) = o.home calls ∧ o.stage (calls ++ [c]) = o.stage calls := by
  cases c with
  | register id =>
    refine place_of_other_register fun hMine => ?_
    have hReply : ((o.afterCalls calls es).register id).1 = true := by
      simp [register, afterCalls, counting, hMine]
    simp [ignores, hReply] at h
  | handle id e => exact place_of_handle o calls id e
  | finalize =>
    have hStage : o.stage calls = .finalized := of_decide_eq_true h
    obtain ⟨hHome, hEnded⟩ := place_of_finalize o calls
    exact ⟨hHome, hEnded.trans hStage.symm⟩

end Place

namespace Life

/-- An observer and a test of which nothing has been asked yet. -/
def start (o : Observer τ) (t : τ) : Life τ :=
  { observer := o, test := t }

/-- After any calls, an observer that has waited at first is in the stage and on the connection
that they make for, and it has counted and judged the events that it has said it counts. -/
theorem observer_run {o : Observer τ} (hs : o.state = .unregistered) (hOn : o.registeredOn = none)
    (t : τ) (calls : List Call) :
    ((start o t).run calls).observer = o.afterCalls calls ((start o t).run calls).counted := by
  -- from the right end: the last call meets an observer of which everything is known
  induction calls using List.reverseRecOn with
  | nil =>
    have hStage : o.stage [] = o.state := hs.symm
    have hHome : o.home [] = o.registeredOn := hOn.symm
    show o = { o.counting [] with state := o.stage [], registeredOn := o.home [] }
    rw [hStage, hHome]
    rfl
  | append_singleton calls c ih =>
    rw [run_concat]
    -- `l` is where the calls before this one have led
    generalize (start o t).run calls = l at ih
    rcases l.call_cases c with
      ⟨hi, hSame⟩ | ⟨id, rfl, hState, hId, hCall⟩ | ⟨id, e, rfl, -, hCall, hCounted⟩ |
        ⟨rfl, -, hCall, hCounted⟩
    · -- what is ignored makes for no other place either
      rw [ih] at hi
      obtain ⟨hHome, hStage⟩ := place_of_ignores hi
      rw [hSame, ih, afterCalls, afterCalls, hHome, hStage]
    · -- an observer that still waits has met none of its connections
      rw [ih] at hState hId
      obtain ⟨hHome, hStage⟩ := place_of_register hState hId
      rw [hCall, ih, afterCalls, afterCalls, hHome, hStage]
    · obtain ⟨hHome, hStage⟩ := place_of_handle o calls id e
      rw [hCall, hCounted, ih, afterCalls, afterCalls, hHome, hStage, ← counting_counting]
      rfl
    · obtain ⟨hHome, hStage⟩ := place_of_finalize o calls
      rw [hCall, hCounted, ih, afterCalls, afterCalls, hHome, hStage]

/-! ## Calls that are ignored -/

/-- `l.Padded calls more` says that `more` is `calls` with some calls added that the observer of
`l` ignores when their turn comes. -/
inductive Padded : Life τ → List Call → List Call → Prop
  | nil (l : Life τ) : Padded l [] []
  | same {l : Life τ} (c : Call) {calls more : List Call} :
    Padded (l.call c) calls more → Padded l (c :: calls) (c :: more)
  | added {l : Life τ} {c : Call} {calls more : List Call} :
    l.observer.ignores c = true → Padded l calls more → Padded l calls (c :: more)

/-- Calls that are ignored can be left out, all of them or some. -/
theorem run_of_padded {l : Life τ} {calls more : List Call} (h : l.Padded calls more) :
    l.run more = l.run calls := by
  induction h with
  | nil l => rfl
  | same c _ ih => exact ih
  | added hi _ ih =>
    rw [run_cons, call_of_ignores hi]
    exact ih

/-- All events that are not on the connection that the observer ends up on, or that its pattern does
not accept, are ignored. -/
theorem padded_filter (l : Life τ) (calls : List Call) :
    l.Padded (calls.filter (Call.mayConcern (l.run calls).observer.registeredOn l.observer.pattern))
      calls := by
  induction calls generalizing l with
  | nil => exact .nil l
  | cons c calls ih =>
    -- the rest of the calls ends on the same connection and has the same pattern
    have hRest := ih (l.call c)
    rw [pattern_call, ← run_cons] at hRest
    by_cases hc :
        Call.mayConcern (l.run (c :: calls)).observer.registeredOn l.observer.pattern c = true
    · rw [List.filter_cons_of_pos hc]
      exact .same c hRest
    · have hi : l.observer.ignores c = true := by
        cases c with
        | register id => exact absurd rfl hc
        | finalize => exact absurd rfl hc
        | handle id e =>
          -- if it counted, the observer would be on this connection, and would stay there
          cases hCounts : l.observer.counts id e with
          | false => simp [ignores, hCounts]
          | true =>
            obtain ⟨hState, hOn, hAccepts⟩ := counts_iff.mp hCounts
            have hLeft : l.observer.state ≠ .unregistered := by
              rw [hState]
              exact ObserverState.noConfusion
            have hObserver : (l.call (.handle id e)).observer = l.observer.counting [e] :=
              (handle_of_counts hCounts l.test).2
            have hStays : (l.run (.handle id e :: calls)).observer.registeredOn = some id := by
              rw [run_cons, registeredOn_run (by rw [hObserver]; exact hLeft), hObserver]
              exact hOn
            exact absurd (by simp [Call.mayConcern, hStays, hAccepts]) hc
      rw [List.filter_cons_of_neg hc]
      rw [call_of_ignores hi] at hRest
      exact .added hi hRest

end Life

/-! ## The account of a life -/

omit [TestObject τ] in
/-- The connection that a built observer is on is one that its configuration lists. -/
theorem home_of_ofConfig {c : Config} {callbacks : CallbackRegistry} {o : Observer τ}
    (h : ofConfig c callbacks = .ok o) (calls : List Call) :
    o.home calls = (registrations calls).find? fun id => id.IsListedIn c.id := by
  obtain ⟨pattern, quota, outcome, -, -, rfl⟩ := exists_of_ofConfig h
  refine congrArg (List.find? · (registrations calls)) (funext fun id => ?_)
  rw [Bool.eq_iff_iff, List.contains_iff_mem, decide_eq_true_eq]
  exact ConnectionId.mem_readList

/--
**The life of an observer.** Whatever is asked of an observer that has been
built from a configuration, with any hook and any test, in any order:

1. it is finalized exactly if it has been ended, else it is registered exactly
   if it is on a connection, and each call leaves it in its stage or moves it
   from unregistered to registered, from registered to finalized or from
   unregistered to finalized;
2. it is on the first connection registered before the first end that is
   listed in its configuration, and once it is on one it stays there;
3. its count is the number of events to which it has answered `true`, and it
   answers `true` exactly to events that its pattern accepts, while it is
   registered, on the connection that it is on;
4. it passes exactly if those events are as its configuration says;
5. if they have to be so in order, it has come as far in the list of
   requirements as there have been events, or to its end;
6. calls that it ignores may be left out or put in without any difference to
   the observer, to the test or to what it has counted: events on other
   connections, events that its pattern does not accept, events while it is
   not registered, and anything after the first end.
-/
theorem life_of_built {c : Config} {callbacks : CallbackRegistry} {built : Observer τ}
    (h : ofConfig c callbacks = .ok built) (hook : Option (Event → τ → Logged τ)) (t : τ)
    (calls : List Call) :
    let life := fun calls => (Life.start { built with hook := hook } t).run calls
    let o := (life calls).observer
    let qs := (life calls).counted
    let home := (registrations calls).find? fun id => id.IsListedIn c.id
    (o.state = if .finalize ∈ calls then .finalized
      else if home.isSome then .registered else .unregistered) ∧
    (∀ call, (life (calls ++ [call])).observer.state = o.state ∨
      o.state.MovesTo (life (calls ++ [call])).observer.state) ∧
    o.registeredOn = home ∧
    (∀ id more, o.registeredOn = some id →
      (life (calls ++ more)).observer.registeredOn = some id) ∧
    o.count = qs.length ∧
    (∀ id e, (o.handle id e (life calls).test).value.counted = true ↔
      o.state = .registered ∧ o.registeredOn = some id ∧ built.pattern.accepts e = true) ∧
    (o.passed = true ↔ c.Holds callbacks qs) ∧
    (c.kind = .orderedHeaderMatch → ∃ clauses rs, c.requirements = some (.ordered clauses) ∧
      clauses.mapM Requirements.ofConfig = .ok rs ∧
      o.outcome = .orderedHeaderMatch rs (min qs.length rs.length)) ∧
    (∀ more, (life []).Padded calls more → life more = life calls) ∧
    life (calls.filter (Call.mayConcern home built.pattern)) = life calls ∧
    (∀ id e, o.ignores (.handle id e) = true ↔
      ¬ (o.state = .registered ∧ o.registeredOn = some id ∧ built.pattern.accepts e = true)) ∧
    (.finalize ∈ calls → ∀ call, o.ignores call = true) := by
  intro life o qs home
  obtain ⟨hFresh, hOutcome, -⟩ := ofConfig_eq_ok h
  have hOn : built.registeredOn = none := by
    obtain ⟨pattern, quota, outcome, -, -, rfl⟩ := exists_of_ofConfig h
    rfl
  -- the hook is the only difference between `built` and the observer that lives
  have ho : o = { built with hook := hook }.afterCalls calls qs :=
    Life.observer_run (o := { built with hook := hook }) hFresh.waits hOn t calls
  have hHome : { built with hook := hook }.home calls = home := home_of_ofConfig h calls
  have hState : o.state = { built with hook := hook }.stage calls := by rw [ho]; rfl
  have hPlace : o.registeredOn = home := by rw [ho]; exact hHome
  have hPattern : o.pattern = built.pattern := by rw [ho]; rfl
  have hJudged : o.outcome = (built.outcome.applyAll built.passed qs).1 ∧
      o.passed = (built.outcome.applyAll built.passed qs).2 := by rw [ho]; exact ⟨rfl, rfl⟩
  refine ⟨?_, ?_, hPlace, ?_, ?_, ?_, ?_, ?_, ?_, ?_, ?_, ?_⟩
  · rw [hState, stage, hHome]
  · intro call
    have hCall : life (calls ++ [call]) = (life calls).call call := Life.run_concat ..
    rw [hCall]
    exact Life.state_call (life calls) call
  · -- who is on a connection has left the first state for good
    intro id more hId
    have hLeft : o.state ≠ .unregistered := by
      intro hWaits
      rw [hState, stage_eq_unregistered_iff, hHome, ← hPlace, hId] at hWaits
      cases hWaits.2
    have hMore : life (calls ++ more) = (life calls).run more := List.foldl_append
    rw [hMore, Life.registeredOn_run hLeft, hId]
  · have hCount : o.count = built.count + qs.length := by rw [ho]; rfl
    rw [hCount, hFresh.count_eq_zero, Nat.zero_add]
  · intro id e
    rw [handle_counted, counts_iff, hPattern]
  · -- what the observer holds is its judgement of all events that have counted
    rw [hJudged.2, Outcome.applyAll_snd_iff]
    exact holds_iff h qs
  · intro hKind
    obtain ⟨clauses, rs, hClauses, hrs, hBuilt⟩ := outcome_of_orderedHeaderMatch hOutcome hKind
    refine ⟨clauses, rs, hClauses, hrs, ?_⟩
    rw [hJudged.1, hBuilt, Outcome.applyAll_fst_orderedHeaderMatch (Nat.zero_le _), Nat.zero_add]
  · intro more hPadded
    exact Life.run_of_padded hPadded
  · -- the calls that are left out are ignored where they stand
    have hPadded := Life.padded_filter (life []) calls
    have hEnd : ((life []).run calls).observer.registeredOn = home := hPlace
    rw [hEnd] at hPadded
    exact (Life.run_of_padded hPadded).symm
  · intro id e
    rw [ignores, Bool.not_eq_true', ← Bool.not_eq_true, counts_iff, hPattern]
  · intro hEnd
    have hEnded : o.state = .finalized := by rw [hState, stage, if_pos hEnd]
    exact ignores_of_finalized hEnded

/-- A lamp that is to go on and then off, on connection `1` or `2`. -/
def lampConfig : Config where
  event := "Lamp"
  id := " 1, ,2 "
  kind := .orderedHeaderMatch
  requirements := some (.ordered
    [{ positive := .ofList [("state", "on")] }, { positive := .ofList [("state", "off")] }])

/-- What a lamp reports about itself. -/
def lampEvent (state : String) : Event :=
  .ofPairs [("event", "Lamp"), ("state", state)]

/-- The lamp on connection `2` goes on, off and on again. The one on connection `1` is too late. -/
def lampCalls : List Call :=
  [.handle ⟨"2"⟩ (lampEvent "off"), .register ⟨"0"⟩, .register ⟨"2"⟩, .register ⟨"1"⟩,
    .handle ⟨"2"⟩ (lampEvent "on"), .handle ⟨"1"⟩ (lampEvent "on"),
    .handle ⟨"2"⟩ (lampEvent "off"), .handle ⟨"2"⟩ (lampEvent "on"), .finalize,
    .register ⟨"1"⟩, .handle ⟨"2"⟩ (lampEvent "on")]

/-- The test is stopped on every event that counts. -/
def stopHook (_ : Event) (t : TestRun) : Logged TestRun :=
  pure (TestObject.stop t)

theorem lampConfig_lives :
    ∃ built : Observer TestRun, ofConfig lampConfig {} = .ok built ∧
      let o := ((Life.start { built with hook := some stopHook } { name := "lamp" }).run
        lampCalls).observer
      o.state = .finalized ∧ o.registeredOn = some ⟨"2"⟩ ∧ o.count = 3 ∧ o.passed = true ∧
        ∃ rs, o.outcome = .orderedHeaderMatch rs 2 := by
  -- what is counted, and whether it is as it has to be, as values of whatever is built
  obtain ⟨built, hBuilt, hSeen⟩ := Traversal.exists_of_map_toOption (x := ofConfig lampConfig {})
    (f := fun built : Observer TestRun =>
      (((Life.start { built with hook := some stopHook } { name := "lamp" }).run
          lampCalls).counted,
        decide (built.outcome.Holds built.passed
          [lampEvent "on", lampEvent "off", lampEvent "on"])))
    (b := ([lampEvent "on", lampEvent "off", lampEvent "on"], true)) (by decide +kernel)
  obtain ⟨hqs, hHolds⟩ := Prod.mk.inj hSeen
  obtain ⟨hState, -, hPlace, -, hCount, -, hPassed, hOrdered, -⟩ :=
    life_of_built hBuilt (some stopHook) { name := "lamp" } lampCalls
  dsimp only at hqs hCount hPassed hOrdered
  rw [hqs] at hCount hPassed hOrdered
  refine ⟨built, hBuilt, hState.trans (by decide +kernel), hPlace.trans (by decide +kernel),
    hCount, ?_, ?_⟩
  · exact hPassed.mpr ((holds_iff hBuilt _).mp (of_decide_eq_true hHolds))
  · -- three events counted, and two requirements to be read
    obtain ⟨clauses, rs, hClauses, hrs, hOutcome⟩ := hOrdered rfl
    cases hClauses
    have hLength : rs.length = 2 := by
      rw [← (Traversal.mapM_eq_ok_iff.mp hrs).length_eq]
      rfl
    rw [hLength] at hOutcome
    exact ⟨rs, hOutcome⟩

end Observer

end StreamVerdict
