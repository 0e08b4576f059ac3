import StreamVerdict.Proofs.Dispatcher.Play
import StreamVerdict.Proofs.Observer.Judgement

/-!
# Observers over whole streams

An observer waits for the first of its connections to come up. From then on
it counts the events on that connection that its pattern accepts; these are
the events that *qualify*. What it holds in the end, and whether it has asked
the test to stop, depends on the qualifying events alone.

Only observers without a hook are considered: a hook may do anything.

Main results:

* `onArrival_value` / `onStreamEnd_value` — what an observer does and reports;
* `nextAll_of_unregistered` — the observer after a stream;
* `stop_mem_transcript_iff` — when it asks the test to stop;
* `reasons_closing` — what it complains of at the end.
-/

namespace StreamVerdict

/-! ## Qualifying events -/

namespace Arrival

/-- The event, if it is on a connection and a pattern accepts it. -/
def meant? (c : ConnectionId) (p : Pattern) : Arrival → Option Event
  | connect _ => none
  | deliver c' e => if c' = c ∧ p.accepts e then some e else none

/-- The events on a connection that a pattern accepts. -/
def meant (c : ConnectionId) (p : Pattern) (as : List Arrival) : List Event :=
  as.filterMap (meant? c p)

theorem meant_cons (c : ConnectionId) (p : Pattern) (a : Arrival) (as : List Arrival) :
    meant c p (a :: as) = meant c p [a] ++ meant c p as :=
  List.filterMap_append (l := [a]) ..

/-- The events that qualify: those on the first of some connections to come up, after it has come
up, that a pattern accepts. -/
def qualifying (ids : List ConnectionId) (p : Pattern) : List Arrival → List Event
  | [] => []
  | connect c :: as => if c ∈ ids then meant c p as else qualifying ids p as
  | deliver _ _ :: as => qualifying ids p as

end Arrival

namespace Observer

variable {τ : Type}

/-- The events that qualify for an observer that waits for its connection. -/
def qualifying (o : Observer τ) (as : List Arrival) : List Event :=
  Arrival.qualifying o.connections o.pattern as

/-! ## One arrival -/

/-- Whether the observer counts an event. -/
def counts (o : Observer τ) (c : ConnectionId) (e : Event) : Bool :=
  o.state = .registered && o.registeredOn = some c && o.pattern.accepts e

/-- The observer with some more events counted and judged. -/
def counting (o : Observer τ) (es : List Event) : Observer τ :=
  { o with
    count := o.count + es.length
    outcome := (o.outcome.applyAll o.passed es).1
    passed := (o.outcome.applyAll o.passed es).2 }

/-- An observer after an arrival. -/
def next (o : Observer τ) : Arrival → Observer τ
  | .connect c => (o.register c).2
  | .deliver c e => if o.counts c e then o.counting [e] else o

/-- What an observer without a hook reports on an arrival. -/
def reports (o : Observer τ) : Arrival → List Report
  | .connect _ => []
  | .deliver c e =>
    if o.counts c e && o.count + 1 = o.quota.min.toNat && o.action = .stop then [.stop] else []

theorem raiseHook_of_none {o : Observer τ} (h : o.hook = none) (due : Bool) (e : Event) (t : τ) :
    o.raiseHook due e t = pure t := by
  unfold raiseHook
  rw [h]

theorem onArrival_value [TestObject τ] {o : Observer τ} (h : o.hook = none) (a : Arrival) (t : τ) :
    (EventSink.onArrival a o t).value = (o.next a, Report.tellAll t (o.reports a)) := by
  cases a with
  | connect c => rfl
  | deliver c e =>
    show (((o.handle c e t).value.observer, (o.handle c e t).value.test) : Observer τ × τ) = _
    unfold handle next reports
    by_cases hc : o.counts c e = true
    · have hMeant : o.state = .registered ∧ o.registeredOn = some c ∧ o.pattern.accepts e := by
        simpa [counts, and_assoc] using hc
      -- without a hook, all that the test can hear of is a stop
      by_cases hStop : o.count + 1 = o.quota.min.toNat ∧ o.action = .stop
      · simp [hc, hMeant, hStop, raiseHook_of_none, h, counting, Outcome.applyAll, Report.tell]
      · simp [hc, hMeant, hStop, raiseHook_of_none, h, counting, Outcome.applyAll]
    · -- an event that does not count changes nothing and is not heard of
      have hMeant : ¬ (o.state = .registered ∧ o.registeredOn = some c ∧ o.pattern.accepts e) := by
        simpa [counts, and_assoc] using hc
      simp [hc, hMeant, and_assoc]

@[simp] theorem hook_next (o : Observer τ) (a : Arrival) : (o.next a).hook = o.hook := by
  cases a with
  | connect c =>
    simp only [next, register]
    split <;> rfl
  | deliver c e =>
    simp only [next]
    split <;> rfl

/-- Arrivals do not end the life of an observer. -/
theorem state_next_ne {o : Observer τ} (h : o.state ≠ .finalized) (a : Arrival) :
    (o.next a).state ≠ .finalized := by
  cases a with
  | connect c =>
    simp only [next, register]
    split
    · simp
    · exact h
  | deliver c e =>
    simp only [next]
    split <;> exact h

/-! ## Whole streams -/

@[simp] theorem counting_nil (o : Observer τ) : o.counting [] = o := rfl

@[simp] theorem counting_counting (o : Observer τ) (es fs : List Event) :
    (o.counting es).counting fs = o.counting (es ++ fs) := by
  simp [counting, Outcome.applyAll_append, Nat.add_assoc]

/-- An observer after arrivals. -/
def nextAll (o : Observer τ) (as : List Arrival) : Observer τ :=
  as.foldl next o

/-- What an observer without a hook reports on arrivals. -/
def transcript (o : Observer τ) : List Arrival → List Report
  | [] => []
  | a :: as => o.reports a ++ (o.next a).transcript as

/-- Whether an observer that counts so many more events asks the test to stop on one of them. -/
def StopsWithin (o : Observer τ) (n : Nat) : Prop :=
  o.action = .stop ∧ o.count < o.quota.min.toNat ∧ o.quota.min.toNat ≤ o.count + n

/-- What an arrival does once a connection is up. -/
theorem next_of_registered {o : Observer τ} {c : ConnectionId} (hs : o.state = .registered)
    (hc : o.registeredOn = some c) (a : Arrival) :
    o.next a = o.counting (Arrival.meant c o.pattern [a]) ∧
      (Report.stop ∈ o.reports a ↔ o.StopsWithin (Arrival.meant c o.pattern [a]).length) := by
  cases a with
  | connect c' =>
    -- an observer subscribes once
    have hMeant : Arrival.meant c o.pattern [.connect c'] = [] := rfl
    refine ⟨by simp [next, register, hs, hMeant], ?_⟩
    rw [hMeant, reports]
    simp [StopsWithin]
  | deliver c' e =>
    by_cases hm : c' = c ∧ o.pattern.accepts e = true
    · have hCounts : o.counts c' e = true := by simp [counts, hs, hc, hm]
      have hMeant : Arrival.meant c o.pattern [.deliver c' e] = [e] := by
        simp [Arrival.meant, Arrival.meant?, hm]
      refine ⟨by rw [next, if_pos hCounts, hMeant], ?_⟩
      -- the count goes up by one, so it reaches the minimum now or not at all
      rw [hMeant, reports, hCounts]
      by_cases ha : o.action = .stop
      · simp [StopsWithin, ha]
        omega
      · simp [StopsWithin, ha]
    · -- from elsewhere, or not meant
      have hCounts : o.counts c' e = false := by
        rw [Bool.eq_false_iff]
        intro h
        simp only [counts, hs, hc, decide_true, Bool.true_and, Bool.and_eq_true,
          decide_eq_true_eq, Option.some.injEq] at h
        exact hm ⟨h.1.symm, h.2⟩
      have hMeant : Arrival.meant c o.pattern [.deliver c' e] = [] := by
        simp [Arrival.meant, Arrival.meant?, hm]
      refine ⟨by rw [next, if_neg (by simp [hCounts]), hMeant, counting_nil], ?_⟩
      rw [hMeant, reports, hCounts]
      simp [StopsWithin]

theorem nextAll_cons (o : Observer τ) (a : Arrival) (as : List Arrival) :
    o.nextAll (a :: as) = (o.next a).nextAll as := rfl

theorem stopsWithin_counting (o : Observer τ) (es : List Event) (n : Nat) :
    o.StopsWithin es.length ∨ (o.counting es).StopsWithin n ↔
      o.StopsWithin (es.length + n) := by
  show (o.action = .stop ∧ _) ∨ (o.action = .stop ∧ _) ↔ o.action = .stop ∧ _
  by_cases ha : o.action = .stop
  · simp only [ha, true_and, counting]
    omega
  · simp [ha]

/-- An observer whose connection is up counts the events that are meant for it. -/
theorem nextAll_of_registered {o : Observer τ} {c : ConnectionId} (hs : o.state = .registered)
    (hc : o.registeredOn = some c) (as : List Arrival) :
    o.nextAll as = o.counting (Arrival.meant c o.pattern as) ∧
      (Report.stop ∈ o.transcript as ↔ o.StopsWithin (Arrival.meant c o.pattern as).length) := by
  induction as generalizing o with
  | nil => exact ⟨rfl, by simp [transcript, Arrival.meant, StopsWithin]⟩
  | cons a as ih =>
    -- an observer that has counted is still registered on `c`, and `ih` speaks of it
    obtain ⟨hNext, hStop⟩ := next_of_registered hs hc a
    obtain ⟨hRest, hStops⟩ := ih (o := o.counting (Arrival.meant c o.pattern [a])) hs hc
    have hPattern (es : List Event) : (o.counting es).pattern = o.pattern := rfl
    rw [Arrival.meant_cons]
    refine ⟨?_, ?_⟩
    · rw [nextAll_cons, hNext, hRest, hPattern, counting_counting]
    · rw [transcript, List.mem_append, hStop, hNext, hStops, hPattern, stopsWithin_counting,
        List.length_append]

/-- An observer that waits lets everything pass but the first of its connections. -/
theorem next_of_unregistered {o : Observer τ} (hs : o.state = .unregistered) (a : Arrival) :
    (∃ c, a = .connect c ∧ c ∈ o.connections ∧
        o.next a = { o with state := .registered, registeredOn := some c }) ∨
      (∀ c, a = .connect c → c ∉ o.connections) ∧ o.next a = o := by
  cases a with
  | connect c =>
    by_cases hc : c ∈ o.connections
    · exact .inl ⟨c, rfl, hc, by simp [next, register, hs, hc]⟩
    · refine .inr ⟨?_, by simp [next, register, hc]⟩
      rintro c' ⟨⟩
      exact hc
  | deliver c e => exact .inr ⟨by simp, by simp [next, counts, hs]⟩

/-- An observer that waits for its connection counts the events that qualify, and nothing else
about it changes but its registration. -/
theorem nextAll_of_unregistered {o : Observer τ} (hs : o.state = .unregistered)
    (as : List Arrival) :
    (∃ state on, state ≠ .finalized ∧ o.nextAll as =
      { o.counting (o.qualifying as) with state := state, registeredOn := on }) ∧
      (Report.stop ∈ o.transcript as ↔ o.StopsWithin (o.qualifying as).length) := by
  induction as with
  | nil =>
    refine ⟨⟨o.state, o.registeredOn, by simp [hs], rfl⟩, ?_⟩
    simp [transcript, qualifying, Arrival.qualifying, StopsWithin]
  | cons a as ih =>
    rw [nextAll_cons, transcript, List.mem_append]
    rcases next_of_unregistered hs a with ⟨c, rfl, hc, hNext⟩ | ⟨hNot, hNext⟩
    · -- from here on the connection is up
      obtain ⟨hRest, hStops⟩ := nextAll_of_registered
        (o := { o with state := .registered, registeredOn := some c }) rfl rfl as
      rw [hNext, hRest, hStops, qualifying, Arrival.qualifying, if_pos hc]
      exact ⟨⟨.registered, some c, by simp, rfl⟩, by simp [reports, StopsWithin]⟩
    · -- the observer still waits, and the arrival is lost on it
      have hSkip : o.qualifying (a :: as) = o.qualifying as := by
        cases a with
        | connect c => rw [qualifying, Arrival.qualifying, if_neg (hNot c rfl), ← qualifying]
        | deliver c e => rfl
      have hSilent : o.reports a = [] := by
        cases a with
        | connect c => rfl
        | deliver c e => simp [reports, counts, hs]
      rw [hNext, hSkip, hSilent]
      simpa using ih

theorem reports_eq (o : Observer τ) (a : Arrival) : o.reports a = [] ∨ o.reports a = [.stop] := by
  cases a with
  | connect c => exact .inl rfl
  | deliver c e =>
    simp only [reports]
    split <;> simp

/-- No arrival makes an observer fail the test. -/
theorem reasons_reports (o : Observer τ) (a : Arrival) : Report.reasons (o.reports a) = [] := by
  rcases o.reports_eq a with h | h <;> rw [h] <;> rfl

/-! ## The end of the stream -/

/-- What an observer reports at the end of the stream. -/
def closing (o : Observer τ) : List Report :=
  if !o.quota.contains o.count then
    [.fail (Miscount.ofQuota o.label o.quota o.count).describe]
  else if o.passed then [.pass]
  else [.fail s!"observer '{o.label}': requirements not met"]

theorem onStreamEnd_value [TestObject τ] {o : Observer τ} (h : o.state ≠ .finalized) (t : τ) :
    (EventSink.onStreamEnd o t).value =
      ({ o with state := .finalized }, Report.tellAll t o.closing) := by
  show (o.finalize t).value = _
  unfold finalize closing
  by_cases hq : o.quota.contains o.count = true
  · cases o.passed <;> simp [h, hq, Report.tell]
  · simp [h, hq, Report.tell]

theorem stop_notMem_closing (o : Observer τ) : Report.stop ∉ o.closing := by
  unfold closing
  split
  · simp
  · split <;> simp

/-- An observer that fails no test passes it. -/
theorem pass_mem_closing {o : Observer τ} (h : Report.reasons o.closing = []) :
    Report.pass ∈ o.closing := by
  unfold closing at h ⊢
  by_cases hq : o.quota.contains o.count = true
  · cases hp : o.passed with
    | true => simp [hq]
    | false => simp [hq, hp] at h
  · simp [hq] at h

/-! ## The account of a stream -/

/-- An observer as it is built: it waits for its connection, it has counted nothing, and it has no
hook. -/
structure IsFresh (o : Observer τ) : Prop where
  waits : o.state = .unregistered
  count_eq_zero : o.count = 0
  plain : o.hook = none

/-- The reason for which an observer fails a test on a stream, if there is one: the number of
qualifying events, or else what they are like. -/
def complaints (o : Observer τ) (as : List Arrival) : List String :=
  if o.quota.contains (o.qualifying as).length then
    if o.outcome.Holds o.passed (o.qualifying as) then []
    else [s!"observer '{o.label}': requirements not met"]
  else [(Miscount.ofQuota o.label o.quota (o.qualifying as).length).describe]

theorem complaints_eq_nil_iff (o : Observer τ) (as : List Arrival) :
    o.complaints as = [] ↔ o.quota.contains (o.qualifying as).length = true ∧
      o.outcome.Holds o.passed (o.qualifying as) := by
  unfold complaints
  by_cases hq : o.quota.contains (o.qualifying as).length = true
  · by_cases hh : o.outcome.Holds o.passed (o.qualifying as)
    · simp [hq, hh]
    · simp [hq, hh]
  · simp [hq]

theorem ne_empty_of_mem_complaints {o : Observer τ} {as : List Arrival} {reason : String}
    (h : reason ∈ o.complaints as) : reason ≠ "" := by
  unfold complaints at h
  split at h
  · split at h
    · cases h
    · rw [List.mem_singleton] at h
      rw [h]
      exact Text.append_ne_empty (Text.append_ne_empty (by decide) _) _
  · rw [List.mem_singleton] at h
    rw [h]
    exact Miscount.describe_ne_empty _

/-- A fresh observer reports its complaints at the end of a stream and nothing else. -/
theorem reasons_closing {o : Observer τ} (h : o.IsFresh) (as : List Arrival) :
    Report.reasons (o.nextAll as).closing = o.complaints as := by
  obtain ⟨⟨state, on, -, hAfter⟩, -⟩ := nextAll_of_unregistered h.waits as
  rw [hAfter]
  unfold closing complaints counting
  simp only [h.count_eq_zero, Nat.zero_add]
  by_cases hq : o.quota.contains (o.qualifying as).length = true
  · by_cases hh : o.outcome.Holds o.passed (o.qualifying as)
    · simp [hq, hh, (o.outcome.applyAll_snd_iff o.passed _).mpr hh]
    · simp [hq, hh, mt (o.outcome.applyAll_snd_iff o.passed _).mp hh]
  · simp [hq]

/-- A fresh observer asks the test to stop exactly if it is to do so, its minimum is not zero, and
that many events qualify. -/
theorem stop_mem_transcript_iff {o : Observer τ} (h : o.IsFresh) (as : List Arrival) :
    Report.stop ∈ o.transcript as ↔
      o.action = .stop ∧ 1 ≤ o.quota.min.toNat ∧
        o.quota.min.toNat ≤ (o.qualifying as).length := by
  rw [(nextAll_of_unregistered h.waits as).2, StopsWithin, h.count_eq_zero, Nat.zero_add]
  rfl

end Observer

end StreamVerdict
