import StreamVerdict.Proofs.ExpectationSet.Stretch
import StreamVerdict.Proofs.Monitor.Stream

/-!
# How a monitor closes

A monitor does not have its test to itself. Others report to it as well,
between any two calls on the monitor, and the end of the stream and the end of
time may be announced in any order and more than once. The first of these
closes the monitor, and it speaks of the end once at most.

The final check looks for expectations that are not met, never for those that
have seen too many. It need not: as long as the test has not failed, no
expectation has, because the event too many would have failed the test. This
is the invariant behind a final check that passes
(`Watch.Sound.within_or_failed`). It takes a test that keeps failures, as
otherwise a pass from elsewhere might hide that event.

Main results:

* `Watch.test_move` — what the test hears of a move;
* `Watch.run_of_closed` — moves once the monitor has closed;
* `Watch.sound_run` — the invariants of a monitor and its test;
* `closes_once` — the account of any moves.
-/

namespace StreamVerdict.Monitor

theorem isClosed_eq_false_iff {m : Monitor} :
    m.isClosed = false ↔ m.expired = false ∧ m.finalized = false := by
  simp [isClosed]

variable {τ : Type} [TestObject τ]

/-! ## Moves -/

/-- What may happen to a monitor and its test: a call on the monitor, or a call on the test from
elsewhere. -/
inductive Move where
  | check (e : Event)
  | checkFinal
  | expire (reason : String)
  | setPassed (b : Bool)
  | stop
  | recordFailure (reason : String)

/-- The test after a call on it from elsewhere. Calls on the monitor are none. -/
def Move.outside (t : τ) : Move → τ
  | setPassed b => TestObject.setPassed b t
  | stop => TestObject.stop t
  | recordFailure reason => (TestObject.recordFailure reason t).value
  | check _ | checkFinal | expire _ => t

/-- What the monitor tells the test because of a move, given whether the test passes. -/
def reportsOn (m : Monitor) (passed : Bool) : Move → List Report
  | .check e => if m.isClosed then [] else reportsOf (m.set.check e).value.result
  | .checkFinal => if m.isClosed then [] else m.closing passed
  | .expire reason => if m.isClosed then [] else [.fail reason, .stop]
  | .setPassed _ | .stop | .recordFailure _ => []

/-- What a monitor may say of the end: nothing, that the test passes, that expectations are not met,
or that time has run out and the test is to stop. -/
def IsClosing (rs : List Report) : Prop :=
  rs = [] ∨ rs = [.pass] ∨ (∃ xs, rs = [.fail (Error.underMatch xs).message]) ∨
    ∃ reason, rs = [.fail reason, .stop]

theorem isClosing_closing (m : Monitor) (passed : Bool) : IsClosing (m.closing passed) := by
  unfold closing
  cases passed with
  | false => exact .inl rfl
  | true =>
    rw [if_pos rfl]
    split
    · exact .inr (.inl rfl)
    · exact .inr (.inr (.inl ⟨_, rfl⟩))

/-- A failed test stays failed whatever comes from elsewhere. -/
theorem passed_outside_of_failed [TestObject.KeepsFailures τ] {t : τ}
    (h : TestObject.passed t = false) (move : Move) :
    TestObject.passed (move.outside t) = false := by
  cases move with
  | setPassed b => exact TestObject.KeepsFailures.setPassed b h
  | stop => exact TestObject.KeepsFailures.stop h
  | recordFailure reason => exact TestObject.KeepsFailures.recordFailure reason t
  | check e => exact h
  | checkFinal => exact h
  | expire reason => exact h

/-! ## Calls on an open monitor -/

/-- A check tells the test of an event too many and of nothing else. -/
theorem check_of_open {m : Monitor} (h : m.isClosed = false) (e : Event) (t : τ) :
    (m.check e t).value.monitor = { m with set := (m.set.check e).value.set } ∧
      (m.check e t).value.test = Report.tellAll t (reportsOf (m.set.check e).value.result) := by
  have hValue := onArrival_value h (.deliver ConnectionId.default e) t
  exact ⟨congrArg Prod.fst hValue, congrArg Prod.snd hValue⟩

/-- A final check closes the monitor. -/
theorem checkFinal_of_open {m : Monitor} (h : m.isClosed = false) (t : τ) :
    (m.checkFinal t).value.monitor = { m with finalized := true } ∧
      (m.checkFinal t).value.test = Report.tellAll t (m.closing (TestObject.passed t)) := by
  have hValue := onStreamEnd_value h t
  exact ⟨congrArg Prod.fst hValue, congrArg Prod.snd hValue⟩

theorem expire_of_open {m : Monitor} (h : m.isClosed = false) (reason : String) (t : τ) :
    (m.expire reason t).value =
      ({ m with expired := true }, Report.tellAll t [.fail reason, .stop]) := by
  unfold expire
  rw [if_neg (by simp [h])]
  rfl

/-- A final check passes if the monitor is open, the test has not failed, and every expectation is
met. -/
theorem checkFinal_result_iff {m : Monitor} {t : τ} :
    (m.checkFinal t).value.result = true ↔
      m.isClosed = false ∧ TestObject.passed t = true ∧ m.set.checkFinal = .ok true := by
  unfold checkFinal
  cases hClosed : m.isClosed with
  | true => simp
  | false =>
    cases hPassed : TestObject.passed t with
    | false => simp
    | true =>
      cases hu : m.set.unmet with
      | nil => simp [ExpectationSet.checkFinal, hu]
      | cons x xs => simp [ExpectationSet.checkFinal, hu]

/-! ## Watches -/

/-- A monitor and its test on their way, with what has been said of the end so far. -/
structure Watch (τ : Type) where
  monitor : Monitor
  test : τ
  /-- What the monitor has told the test on final checks and because time has run out. -/
  closing : List Report := []
  /-- How many final checks were answered with `true`. -/
  passes : Nat := 0

namespace Watch

/-- A monitor of a set that has just been put around it. -/
def start (s : ExpectationSet) (t : τ) : Watch τ :=
  { monitor := { set := s }, test := t }

/-- The monitor and the test after a move. -/
def move (w : Watch τ) : Move → Watch τ
  | .check e =>
    let answer := (w.monitor.check e w.test).value
    { w with monitor := answer.monitor, test := answer.test }
  | .checkFinal =>
    let answer := (w.monitor.checkFinal w.test).value
    { monitor := answer.monitor
      test := answer.test
      closing := w.closing ++ w.monitor.reportsOn (TestObject.passed w.test) .checkFinal
      passes := if answer.result then w.passes + 1 else w.passes }
  | .expire reason =>
    let after := (w.monitor.expire reason w.test).value
    { w with
      monitor := after.1
      test := after.2
      closing := w.closing ++ w.monitor.reportsOn (TestObject.passed w.test) (.expire reason) }
  | .setPassed b => { w with test := TestObject.setPassed b w.test }
  | .stop => { w with test := TestObject.stop w.test }
  | .recordFailure reason =>
    { w with test := (TestObject.recordFailure reason w.test).value }

/-- The monitor and the test after moves. -/
def run (w : Watch τ) (moves : List Move) : Watch τ :=
  moves.foldl move w

theorem run_cons (w : Watch τ) (m : Move) (moves : List Move) :
    w.run (m :: moves) = (w.move m).run moves := rfl

/-! ## A monitor that has closed -/

/-- Once a monitor has closed, calls on it do nothing. -/
theorem move_of_closed {w : Watch τ} (h : w.monitor.isClosed = true) (m : Move) :
    w.move m = { w with test := m.outside w.test } := by
  cases m with
  | check e => simp [move, Monitor.check, h, Move.outside]
  | checkFinal => simp [move, Monitor.checkFinal, reportsOn, h, Move.outside]
  | expire reason => simp [move, Monitor.expire, reportsOn, h, Move.outside]
  | setPassed b => rfl
  | stop => rfl
  | recordFailure reason => rfl

theorem run_of_closed {w : Watch τ} (h : w.monitor.isClosed = true) (moves : List Move) :
    w.run moves = { w with test := moves.foldl Move.outside w.test } := by
  induction moves generalizing w with
  | nil => rfl
  | cons m moves ih =>
    rw [run_cons, move_of_closed h, List.foldl_cons]
    exact ih (w := { w with test := m.outside w.test }) h

/-- The test hears what the monitor reports and what comes from elsewhere. -/
theorem test_move (w : Watch τ) (m : Move) :
    (w.move m).test =
      m.outside (Report.tellAll w.test (w.monitor.reportsOn (TestObject.passed w.test) m)) := by
  -- a monitor that has closed has nothing to report, and an open one reports it in its call
  cases hClosed : w.monitor.isClosed with
  | true =>
    have hSilent : w.monitor.reportsOn (TestObject.passed w.test) m = [] := by
      cases m <;> simp [reportsOn, hClosed]
    rw [move_of_closed hClosed, hSilent, Report.tellAll_nil]
  | false =>
    cases m with
    | check e =>
      -- the two checks may report, and what they report is their whole effect on the test
      simpa [move, reportsOn, hClosed, Move.outside] using (check_of_open hClosed e w.test).2
    | checkFinal =>
      simpa [move, reportsOn, hClosed, Move.outside] using (checkFinal_of_open hClosed w.test).2
    | expire reason => simp [move, reportsOn, hClosed, Move.outside, expire_of_open hClosed]
    | setPassed b => rfl
    | stop => rfl
    | recordFailure reason => rfl

/-! ## What is true of every watch -/

/-- What holds of a monitor and its test at any time. -/
structure Sound (w : Watch τ) : Prop where
  not_both : ¬ (w.monitor.expired = true ∧ w.monitor.finalized = true)
  /-- No expectation has seen too many events of which the test does not know. -/
  within_or_failed : w.monitor.set.IsWithin ∨ TestObject.passed w.test = false
  silent_of_open : w.monitor.isClosed = false → w.closing = [] ∧ w.passes = 0
  closing_once : IsClosing w.closing
  passes_le_one : w.passes ≤ 1

theorem sound_start {s : ExpectationSet} (hs : ∀ x ∈ s.expectations, x.seen = 0) (t : τ) :
    (start s t).Sound where
  not_both := by simp [start]
  within_or_failed := .inl (ExpectationSet.isWithin_of_seen_zero hs)
  silent_of_open _ := ⟨rfl, rfl⟩
  closing_once := .inl rfl
  passes_le_one := Nat.zero_le 1

/-- A final check that passes has found every tally in its quota, although it looks for those that
are too low only. -/
theorem seen_of_checkFinal {w : Watch τ} (h : w.Sound)
    (hPass : (w.monitor.checkFinal w.test).value.result = true) :
    TestObject.passed w.test = true ∧
      ∀ x ∈ w.monitor.set.expectations,
        x.quota.min.toNat ≤ x.seen ∧ ∀ m ∈ x.quota.max, x.seen ≤ m.toNat := by
  obtain ⟨-, hPassed, hMet⟩ := checkFinal_result_iff.mp hPass
  -- the final check has asked for the minimum, the invariant knows about the maximum
  have hWithin : w.monitor.set.IsWithin := by
    rcases h.within_or_failed with hWithin | hFailed
    · exact hWithin
    · rw [hPassed] at hFailed
      cases hFailed
  refine ⟨hPassed, fun x hx => ⟨?_, fun m hm => ?_⟩⟩
  · have hx' : x.isMet = true := ExpectationSet.checkFinal_eq_ok_iff.mp hMet x hx
    simpa [Expectation.isMet, Quota.reachedBy] using hx'
  · exact ExpectationSet.seen_le_of_isWithin hWithin hx hm

variable [TestObject.KeepsFailures τ]

/-- A check that leaves the set with too many events in it fails the test. -/
theorem within_or_failed_check {m : Monitor} {t : τ}
    (h : m.set.IsWithin ∨ TestObject.passed t = false) (e : Event) :
    (m.set.check e).value.set.IsWithin ∨
      TestObject.passed (Report.tellAll t (reportsOf (m.set.check e).value.result)) = false := by
  rcases h with hWithin | hFailed
  · -- the set leaves its quotas only together with an error
    rcases ExpectationSet.check_of_isWithin hWithin e with ⟨hAfter, hSet, -⟩ | ⟨x, -, hErr⟩
    · rw [hSet]
      exact .inl hAfter
    · -- the failure is reported first, and the stop after it does not undo it
      rw [hErr]
      refine .inr ?_
      exact Report.passed_tellAll_of_failed (TestObject.KeepsFailures.recordFailure _ t) [.stop]
  · exact .inr (Report.passed_tellAll_of_failed hFailed _)

/-- Calls on the test from elsewhere keep what holds at any time. -/
theorem sound_outside {w : Watch τ} (h : w.Sound) (m : Move) :
    Sound { w with test := m.outside w.test } where
  not_both := h.not_both
  within_or_failed := h.within_or_failed.imp_right fun hFailed => passed_outside_of_failed hFailed m
  silent_of_open := h.silent_of_open
  closing_once := h.closing_once
  passes_le_one := h.passes_le_one

theorem sound_check {w : Watch τ} (h : w.Sound) (hOpen : w.monitor.isClosed = false) (e : Event) :
    (w.move (.check e)).Sound := by
  obtain ⟨hMonitor, hTest⟩ := check_of_open hOpen e w.test
  have hMove : w.move (.check e) =
      { w with
        monitor := { w.monitor with set := (w.monitor.set.check e).value.set }
        test := Report.tellAll w.test (reportsOf (w.monitor.set.check e).value.result) } := by
    rw [move, hMonitor, hTest]
  rw [hMove]
  -- an over-match fails the test, so the tallies may be too high from then on
  exact
    { not_both := h.not_both
      within_or_failed := within_or_failed_check h.within_or_failed e
      silent_of_open := h.silent_of_open
      closing_once := h.closing_once
      passes_le_one := h.passes_le_one }

/-- On a final check an open monitor says its first word on the end, and its last one. -/
theorem sound_checkFinal {w : Watch τ} (h : w.Sound) (hOpen : w.monitor.isClosed = false) :
    (w.move .checkFinal).Sound := by
  obtain ⟨hExpired, -⟩ := isClosed_eq_false_iff.mp hOpen
  obtain ⟨hClosing, hPasses⟩ := h.silent_of_open hOpen
  obtain ⟨hMonitor, hTest⟩ := checkFinal_of_open hOpen w.test
  have hMove : w.move .checkFinal =
      { monitor := { w.monitor with finalized := true }
        test := Report.tellAll w.test (w.monitor.closing (TestObject.passed w.test))
        closing := w.monitor.closing (TestObject.passed w.test)
        -- the monitor was silent so far, so this is its first pass if it is one
        passes := if (w.monitor.checkFinal w.test).value.result then 1 else 0 } := by
    rw [move, hMonitor, hTest, hClosing, hPasses, reportsOn, if_neg (by simp [hOpen])]
    rfl
  rw [hMove]
  exact
    { not_both := by simp [hExpired]
      within_or_failed :=
        h.within_or_failed.imp_right fun hFailed => Report.passed_tellAll_of_failed hFailed _
      silent_of_open := by simp [isClosed]
      closing_once := isClosing_closing _ _
      passes_le_one := by
        dsimp only
        split <;> omega }

theorem sound_expire {w : Watch τ} (h : w.Sound) (hOpen : w.monitor.isClosed = false)
    (reason : String) : (w.move (.expire reason)).Sound := by
  obtain ⟨-, hFinalized⟩ := isClosed_eq_false_iff.mp hOpen
  obtain ⟨hClosing, hPasses⟩ := h.silent_of_open hOpen
  have hMove : w.move (.expire reason) =
      { monitor := { w.monitor with expired := true }
        test := Report.tellAll w.test [.fail reason, .stop]
        closing := [.fail reason, .stop]
        passes := 0 } := by
    rw [move, expire_of_open hOpen, hClosing, hPasses, reportsOn, if_neg (by simp [hOpen])]
    rfl
  rw [hMove]
  exact
    { not_both := by simp [hFinalized]
      within_or_failed :=
        h.within_or_failed.imp_right fun hFailed => Report.passed_tellAll_of_failed hFailed _
      silent_of_open := by simp [isClosed]
      closing_once := .inr (.inr (.inr ⟨reason, rfl⟩))
      passes_le_one := Nat.zero_le 1 }

/-- Every move keeps what holds at any time. -/
theorem sound_move {w : Watch τ} (h : w.Sound) (m : Move) : (w.move m).Sound := by
  -- to a monitor that has closed, every move is one from elsewhere
  cases hClosed : w.monitor.isClosed with
  | true =>
    rw [move_of_closed hClosed]
    exact sound_outside h m
  | false =>
    cases m with
    | check e => exact sound_check h hClosed e
    | checkFinal => exact sound_checkFinal h hClosed
    | expire reason => exact sound_expire h hClosed reason
    | setPassed b => exact sound_outside h (.setPassed b)
    | stop => exact sound_outside h .stop
    | recordFailure reason => exact sound_outside h (.recordFailure reason)

theorem sound_run {w : Watch τ} (h : w.Sound) (moves : List Move) : (w.run moves).Sound := by
  induction moves generalizing w with
  | nil => exact h
  | cons m moves ih =>
    rw [run_cons]
    exact ih (sound_move h m)

end Watch

/-! ## The account -/

/-- What a check answers and does to the test: nothing if the monitor has closed, no more than the
answer of the set if there is one, and a failure and a stop on an event too many. -/
theorem check_answer (m : Monitor) (e : Event) (t : τ) :
    (m.isClosed = true ∧ (m.check e t).value.result = false ∧ (m.check e t).value.test = t) ∨
    (m.isClosed = false ∧ ∃ triggered, (m.set.check e).value.result = .ok triggered ∧
      (m.check e t).value.result = triggered ∧ (m.check e t).value.test = t) ∨
    (m.isClosed = false ∧ ∃ c, (m.set.check e).value.result = .error (.overMatch c) ∧
      (m.check e t).value.result = false ∧ (m.check e t).value.test =
        TestObject.stop (TestObject.recordFailure (Error.overMatch c).message t).value) := by
  cases hClosed : m.isClosed with
  | true => exact .inl ⟨rfl, by simp [check, hClosed]⟩
  | false =>
    refine .inr ?_
    rcases m.set.check_ok_or_overMatch e with ⟨triggered, hOk⟩ | ⟨c, hErr⟩
    · exact .inl ⟨rfl, triggered, hOk, by simp [check, hClosed, hOk]⟩
    · exact .inr ⟨rfl, c, hErr, by simp [check, hClosed, hErr]⟩

/--
**A monitor closes once.** For every set with nothing seen, every test that
keeps failures and any calls on the monitor and on the test, in any order:

1. the monitor is never both expired and finalized;
2. once it is one of them, calls on it change nothing about it and are never
   answered with `true`, and the test hears only what comes from elsewhere;
3. what a call on the monitor does to the test is to make the reports that
   `reportsOn` lists;
4. at the end of the stream and the end of time, however often they are
   announced, the monitor has reported nothing in all, or a pass, or that
   expectations are not met, or a failure because time has run out and a stop;
5. at most one final check is answered with `true`, and when it is, the test
   has not failed and every tally lies within its quota;
6. a check fails and then stops the test and is answered with `false` if an
   event is one too many, and does nothing to the test in any other case.
-/
theorem closes_once [TestObject.KeepsFailures τ] {s : ExpectationSet}
    (hs : ∀ x ∈ s.expectations, x.seen = 0) (t : τ) (moves : List Move) :
    let w := (Watch.start s t).run moves
    ¬ (w.monitor.expired = true ∧ w.monitor.finalized = true) ∧
    (w.monitor.expired = true ∨ w.monitor.finalized = true → ∀ more, let later := w.run more
      later.monitor = w.monitor ∧
      later.test = more.foldl Move.outside w.test ∧
      (∀ e, (later.monitor.check e later.test).value.result = false) ∧
      (later.monitor.checkFinal later.test).value.result = false) ∧
    (∀ move, (w.move move).test = move.outside
      (Report.tellAll w.test (w.monitor.reportsOn (TestObject.passed w.test) move))) ∧
    IsClosing w.closing ∧
    w.passes ≤ 1 ∧
    ((w.monitor.checkFinal w.test).value.result = true →
      TestObject.passed w.test = true ∧ ∀ x ∈ w.monitor.set.expectations,
        x.quota.min.toNat ≤ x.seen ∧ ∀ m ∈ x.quota.max, x.seen ≤ m.toNat) ∧
    ∀ e, let answer := (w.monitor.check e w.test).value
      (w.monitor.isClosed = true ∧ answer.result = false ∧ answer.test = w.test) ∨
      (w.monitor.isClosed = false ∧ ∃ triggered,
        (w.monitor.set.check e).value.result = .ok triggered ∧
        answer.result = triggered ∧ answer.test = w.test) ∨
      (w.monitor.isClosed = false ∧ ∃ c,
        (w.monitor.set.check e).value.result = .error (.overMatch c) ∧
        answer.result = false ∧ answer.test =
          TestObject.stop (TestObject.recordFailure (Error.overMatch c).message w.test).value) := by
  intro w
  have hSound : w.Sound := Watch.sound_run (Watch.sound_start hs t) moves
  refine ⟨hSound.not_both, ?_, w.test_move, hSound.closing_once, hSound.passes_le_one,
    Watch.seen_of_checkFinal hSound, fun e => w.monitor.check_answer e w.test⟩
  -- what is left is that a closed monitor stays as it is
  intro hEnds more later
  have hClosed : w.monitor.isClosed = true := by
    rw [isClosed, Bool.or_eq_true]
    exact hEnds
  have hLater : later = { w with test := more.foldl Move.outside w.test } :=
    Watch.run_of_closed hClosed more
  rw [hLater]
  refine ⟨rfl, rfl, fun e => ?_, ?_⟩
  · simp [check, hClosed]
  · simp [checkFinal, hClosed]

/-- One `a` and one `b` are as they should be, and a pass from elsewhere does no harm. With a second
`a` the test has failed, whatever is said from elsewhere. -/
theorem twoLetters_closes :
    let s := ExpectationSet.twoLetters
    let w := (Watch.start s ({ name := "letters" } : TestRun)).run
      [.check (.ofText "a"), .setPassed true, .check (.ofText "b")]
    let w' := (Watch.start s ({} : CallRecorder)).run
      [.check (.ofText "a"), .check (.ofText "a"), .setPassed true, .checkFinal, .expire "late"]
    (∀ x ∈ s.expectations, x.seen = 0) ∧
    (∀ x ∈ w.monitor.set.expectations,
      x.quota.min.toNat ≤ x.seen ∧ ∀ m ∈ x.quota.max, x.seen ≤ m.toNat) ∧
    IsClosing w'.closing ∧ (w'.monitor.checkFinal w'.test).value.result = false ∧
    w'.test.calls = [.setPassed false, .stop, .setPassed true] := by
  intro s w w'
  have hFresh : ∀ x ∈ s.expectations, x.seen = 0 := by decide
  obtain ⟨-, -, -, -, -, hPass, -⟩ := closes_once hFresh ({ name := "letters" } : TestRun)
    [.check (.ofText "a"), .setPassed true, .check (.ofText "b")]
  obtain ⟨-, hEnded, -, hClosing, -, -, -⟩ := closes_once hFresh ({} : CallRecorder)
    [.check (.ofText "a"), .check (.ofText "a"), .setPassed true, .checkFinal, .expire "late"]
  refine ⟨hFresh, (hPass (by decide +kernel)).2, hClosing, ?_, by decide +kernel⟩
  obtain ⟨-, -, -, hFinal⟩ := hEnded (.inr (by decide +kernel)) []
  exact hFinal

end StreamVerdict.Monitor
