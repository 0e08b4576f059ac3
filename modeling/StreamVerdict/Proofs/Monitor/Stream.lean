import StreamVerdict.Monitor
import StreamVerdict.Proofs.Dispatcher.Play
import StreamVerdict.Proofs.ExpectationSet.Run

/-!
# Monitors over whole streams

An open monitor passes every delivered event on to its set, on whatever
connection it came, and nothing that the test has heard changes what it does.
Each answer that is an error fails the test and stops it. The end of the
stream is another matter: the monitor looks at the test first and is silent if
the test has failed.

Main results:

* `onArrival_value` / `onStreamEnd_value` — what a monitor does and reports;
* `nextAll_set` — its set is the set after a run of checks;
* `reasons_transcript` / `stop_mem_transcript` — what it reports while the
  stream lasts;
* `complaints_eq_nil_iff` — when it has nothing to complain of.
-/

namespace StreamVerdict.Monitor

variable {τ : Type} [TestObject τ]

/-! ## One arrival -/

/-- What is reported of an answer of the set. -/
def reportsOf : Except Error Bool → List Report
  | .ok _ => []
  | .error err => [.fail err.message, .stop]

/-- An open monitor after an arrival. -/
def next (m : Monitor) : Arrival → Monitor
  | .connect _ => m
  | .deliver _ e => { m with set := (m.set.check e).value.set }

/-- What an open monitor reports on an arrival. -/
def reports (m : Monitor) : Arrival → List Report
  | .connect _ => []
  | .deliver _ e => reportsOf (m.set.check e).value.result

theorem onArrival_value {m : Monitor} (h : m.isClosed = false) (a : Arrival) (t : τ) :
    (EventSink.onArrival a m t).value = (m.next a, Report.tellAll t (m.reports a)) := by
  cases a with
  | connect c => rfl
  | deliver c e =>
    show (((m.check e t).value.monitor, (m.check e t).value.test) : Monitor × τ) = _
    simp only [check, h, reports, next]
    cases hr : (m.set.check e).value.result <;> simp [hr, reportsOf, Report.tell]

@[simp] theorem isClosed_next (m : Monitor) (a : Arrival) : (m.next a).isClosed = m.isClosed := by
  cases a <;> rfl

/-! ## Whole streams -/

/-- An open monitor after arrivals. -/
def nextAll (m : Monitor) (as : List Arrival) : Monitor :=
  as.foldl next m

/-- What an open monitor reports on arrivals. -/
def transcript (m : Monitor) : List Arrival → List Report
  | [] => []
  | a :: as => m.reports a ++ (m.next a).transcript as

/-- What the set answers to the events of a stream. -/
def answers (m : Monitor) (as : List Arrival) : List (Except Error Bool) :=
  (m.set.checkAll (Arrival.events as)).2

theorem nextAll_set (m : Monitor) (as : List Arrival) :
    (m.nextAll as).set = (m.set.checkAll (Arrival.events as)).1 := by
  induction as generalizing m with
  | nil => rfl
  | cons a as ih =>
    rw [nextAll, List.foldl_cons, ← nextAll, ih]
    cases a <;> rfl

/-- What a monitor reports while the stream lasts: a failure and a stop for every event too
many. -/
theorem transcript_eq (m : Monitor) (as : List Arrival) :
    m.transcript as = (ExpectationSet.overMatches (m.answers as)).flatMap fun c =>
      [.fail (Error.overMatch c).message, .stop] := by
  induction as generalizing m with
  | nil => rfl
  | cons a as ih =>
    rw [transcript, ih]
    cases a with
    | connect c => rfl
    | deliver c e =>
      -- the first answer is the one to this event, the others are those of the set after it
      have hAnswers : m.answers (.deliver c e :: as) =
          (m.set.check e).value.result :: (m.next (.deliver c e)).answers as := rfl
      rw [hAnswers]
      rcases m.set.check_ok_or_overMatch e with ⟨b, hb⟩ | ⟨x, hx⟩
      · simp [reports, reportsOf, hb, ExpectationSet.overMatches]
      · simp [reports, reportsOf, hx, ExpectationSet.overMatches]

theorem reasons_transcript (m : Monitor) (as : List Arrival) :
    Report.reasons (m.transcript as) =
      (ExpectationSet.overMatches (m.answers as)).map fun c => (Error.overMatch c).message := by
  rw [transcript_eq, Report.reasons_flatMap, List.map_eq_flatMap]
  rfl

theorem stop_mem_transcript (m : Monitor) (as : List Arrival) :
    Report.stop ∈ m.transcript as ↔ ExpectationSet.overMatches (m.answers as) ≠ [] := by
  rw [transcript_eq, List.mem_flatMap, List.ne_nil_iff_length_pos, List.length_pos_iff_exists_mem]
  simp

/-! ## The end of the stream -/

/-- What a monitor reports at the end of the stream, given whether the test still passes. -/
def closing (m : Monitor) (passed : Bool) : List Report :=
  if passed then
    match m.set.unmet with
    | [] => [.pass]
    | xs => [.fail (Error.underMatch (xs.map (·.miscount))).message]
  else []

/-- At the end of the stream the monitor looks at the test before it reports. -/
theorem onStreamEnd_value {m : Monitor} (h : m.isClosed = false) (t : τ) :
    (EventSink.onStreamEnd m t).value =
      ({ m with finalized := true }, Report.tellAll t (m.closing (TestObject.passed t))) := by
  show (((m.checkFinal t).value.monitor, (m.checkFinal t).value.test) : Monitor × τ) = _
  unfold checkFinal closing
  cases hp : TestObject.passed t with
  | false => simp [h]
  | true =>
    cases hu : m.set.unmet with
    | nil => simp [h, ExpectationSet.checkFinal, hu, Report.tell]
    | cons x xs => simp [h, ExpectationSet.checkFinal, hu, Report.tell]

theorem stop_notMem_closing (m : Monitor) (passed : Bool) : Report.stop ∉ m.closing passed := by
  unfold closing
  split
  · split <;> simp
  · simp

theorem reasons_closing (m : Monitor) (passed : Bool) :
    Report.reasons (m.closing passed) =
      if passed = true ∧ m.set.unmet ≠ [] then
        [(Error.underMatch (m.set.unmet.map (·.miscount))).message]
      else [] := by
  unfold closing
  cases passed with
  | false => rfl
  | true =>
    cases m.set.unmet with
    | nil => rfl
    | cons x xs => rfl

/-- A monitor that looks at a test and does not fail it passes it. -/
theorem pass_mem_closing {m : Monitor} (h : Report.reasons (m.closing true) = []) :
    Report.pass ∈ m.closing true := by
  unfold closing at h ⊢
  cases hu : m.set.unmet with
  | nil => simp
  | cons x xs => simp [hu] at h

/-! ## The account of a stream -/

/-- The reasons for which a monitor fails a test on a stream: every event too many, or else the
expectations that are not met, together. -/
def complaints (m : Monitor) (as : List Arrival) : List String :=
  let overMatches := ExpectationSet.overMatches (m.answers as)
  let unmet := (m.nextAll as).set.unmet
  (overMatches.map fun c => (Error.overMatch c).message) ++
    if overMatches = [] ∧ unmet ≠ [] then
      [(Error.underMatch (unmet.map (·.miscount))).message]
    else []

theorem ne_empty_of_mem_complaints {m : Monitor} {as : List Arrival} {reason : String}
    (h : reason ∈ m.complaints as) : reason ≠ "" := by
  rcases List.mem_append.mp h with hOver | hUnder
  · obtain ⟨c, -, rfl⟩ := List.mem_map.mp hOver
    exact Error.message_ne_empty _
  · obtain ⟨-, hReason⟩ := List.mem_ite_nil_right.mp hUnder
    rw [List.mem_singleton.mp hReason]
    exact Error.message_ne_empty _

/-- A monitor looks at the test when the stream ends. If it has only itself to blame for what the
test has heard, it reports its complaints and nothing else. -/
theorem reasons_transcript_closing (m : Monitor) (as : List Arrival) {passed : Bool}
    (h : passed = true ↔ Report.reasons (m.transcript as) = []) :
    Report.reasons (m.transcript as) ++ Report.reasons ((m.nextAll as).closing passed) =
      m.complaints as := by
  rw [reasons_transcript, List.map_eq_nil_iff] at h
  rw [reasons_transcript, reasons_closing, complaints]
  simp only [h]

/-- A monitor that starts with nothing seen is content exactly if the number of events that each
expectation is meant by is in its quota. -/
theorem complaints_eq_nil_iff {m : Monitor} (hs : ∀ x ∈ m.set.expectations, x.seen = 0)
    (as : List Arrival) :
    m.complaints as = [] ↔
      ∀ x ∈ m.set.expectations,
        x.quota.contains ((Arrival.events as).countP x.pattern.accepts) = true := by
  rw [ExpectationSet.quotas_kept_iff hs,
    ← ExpectationSet.overMatches_eq_nil_iff (ExpectationSet.isWithin_of_seen_zero hs)]
  show m.complaints as = [] ↔ ExpectationSet.overMatches (m.answers as) = [] ∧ _
  unfold complaints
  rw [List.append_eq_nil_iff, List.map_eq_nil_iff]
  refine and_congr_right fun ho => ?_
  -- no event was too many, so the tallies have kept up
  have hWithin : (m.set.after (Arrival.events as)).IsWithin :=
    (ExpectationSet.overMatches_eq_nil_iff (ExpectationSet.isWithin_of_seen_zero hs) _).mp ho
  rw [nextAll_set, (ExpectationSet.checkAll_of_within hWithin).1]
  simp [ho]

end StreamVerdict.Monitor
