import StreamVerdict.Proofs.Controller.Calls
import StreamVerdict.Proofs.KeyMap
import StreamVerdict.Proofs.Verdict

/-!
# Phases

A phase goes through its checks in order and carries out those that are
admitted. To see which ones that are, the world is watched: it keeps a list of
visits, one for each check that is carried out in it, with what the check was
given and what came of it. Watching changes nothing, so the visits are those
of the phase without it.

Everything else that a phase does can be read off its visits: the checks as
they are afterwards, the report, who is shown what, the log, and how often a
stop is asked for. And the visits depend on nothing but the checks that are
admitted, so those that are skipped have no influence on anything but their
own number.

Main definitions:

* `Visit`, `Watched` — what is done to a check, and a world that keeps a list
  of it;
* `Capabilities.tour` — the visits of a phase, and the world after them;
* `Controller.Accounts` — what follows from the visits.

Main results:

* `Controller.advanceAll_accounts` — any checks, by induction;
* `Controller.advanceAll_watched` — watching changes nothing;
* `Controller.phase_carries_out_admitted` — a whole phase.
-/

namespace StreamVerdict

/-! ## Showing a check -/

namespace Listener

variable {κ : Type}

/-- What somebody is told who is shown a check. -/
def notice? (l : Listener) (check : Check κ) : Option CheckNotice :=
  match l.listening with
  | .log => none
  | .tell listener => some ⟨listener, check.name, check.status⟩

/-- What is written to the log if a check is shown to it. -/
def records (l : Listener) (check : Check κ) : List LogRecord :=
  match l.listening with
  | .log => check.outcomeRecord?.toList
  | .tell _ => []

end Listener

/-- The listeners that are shown a check, in order. -/
def Controller.shown {κ : Type} (c : Controller κ) (check : Check κ) : List Listener :=
  c.listeners.filter (·.accepts check.status)

theorem Check.showAll_eq {κ : Type} (check : Check κ) (ls : List Listener) :
    check.showAll ls = ⟨(ls.filter (·.accepts check.status)).filterMap (·.notice? check),
      (ls.filter (·.accepts check.status)).flatMap (·.records check)⟩ := by
  -- one listener
  have hShow (l : Listener) : check.showTo l = if l.accepts check.status then
      ⟨l.notice? check, l.records check⟩ else ⟨none, []⟩ := by
    unfold showTo Listener.notice? Listener.records
    cases l.accepts check.status with
    | false => rfl
    | true => cases l.listening <;> rfl
  induction ls with
  | nil => rfl
  | cons l ls ih =>
    -- the listeners are told in turn
    have hCons : check.showAll (l :: ls) =
        ⟨(check.showTo l).value.toList ++ (check.showAll ls).value,
          (check.showTo l).records ++ (check.showAll ls).records⟩ := by
      unfold showAll
      rw [List.mapM_cons]
      cases h : (check.showTo l).value <;> simp [Bind.bind, Pure.pure, h]
    rw [hCons, hShow, ih]
    cases hl : l.accepts check.status with
    | false => simp [hl]
    | true => cases hn : l.notice? check <;> simp [hl, hn]

/-! ## Visits -/

/-- What is done to a check that is carried out: how it was, the check it was given, and the verdict
and the body that came of it, or the error. -/
structure Visit (κ : Type) where
  check : Check κ
  related : Option (Check κ)
  verdict : Verdict
  body : κ
  error : Option Error

namespace Visit

variable {κ : Type}

/-- The check after the visit. If it could not be carried out, it has failed for that reason. -/
def after (v : Visit κ) : Check κ where
  info := v.check.info
  verdict := match v.error with
    | none => v.verdict
    | some e => v.verdict.failCheck (Error.evaluationFailed v.check.name e.message).message
  body := v.body

/-- What is written to the log if the check could not be carried out. -/
def warnings (v : Visit κ) : List LogRecord :=
  v.error.toList.map fun e => .warn "failed to evaluate condition check"
    [("condition", v.check.name), ("error", e.message)]

/-- What the visit means for a report. -/
theorem after_of_error {v : Visit κ} {e : Error} (h : v.error = some e) :
    v.after.status = .failed ∧ v.after.verdict.reasons.getLast? =
      some (Error.evaluationFailed v.check.name e.message).message := by
  have hne := (Error.evaluationFailed v.check.name e.message).message_ne_empty
  simp [after, Check.status, h, Verdict.failCheck, hne]

end Visit

variable {κ ω : Type} [Examiner κ ω]

/-- The visit to a check in a world. -/
def Check.visit (check : Check κ) (related : Option (Check κ)) (world : ω) : Visit κ :=
  let found := Examiner.examine check related world
  ⟨check, related, found.verdict, found.body, found.error⟩

theorem Check.carryOut_eq (check : Check κ) (related : Option (Check κ)) (world : ω) :
    check.carryOut related world =
      ⟨((check.visit related world).after, (Examiner.examine check related world).world),
        (check.visit related world).warnings⟩ := by
  unfold carryOut visit Visit.after Visit.warnings
  dsimp only
  cases (Examiner.examine check related world).error <;> rfl

namespace Capabilities

/-- Those of some checks that are admitted. -/
def admitted (c : Capabilities) (jobs : List (Check κ × Option (Check κ))) :
    List (Check κ × Option (Check κ)) :=
  jobs.filter fun job => c.admits job.1.info

/-- The visits to those of some checks that are admitted, in turn, and the world after them. -/
def tour (c : Capabilities) : List (Check κ × Option (Check κ)) → ω → List (Visit κ) × ω
  | [], world => ([], world)
  | (check, related) :: jobs, world =>
    if c.admits check.info then
      let rest := c.tour jobs (Examiner.examine check related world).world
      (check.visit related world :: rest.1, rest.2)
    else c.tour jobs world

theorem admits_iff (c : Capabilities) (info : CheckInfo) :
    c.admits info = true ↔ info.enabled = true ∧
      ∀ name value, info.requirements.get? name = some value → c.get? name = some value := by
  unfold admits satisfies
  rw [Bool.and_eq_true, List.all_eq_true]
  refine and_congr_right fun _ => ?_
  simp only [Prod.forall, KeyMap.mem_entries_iff, beq_iff_eq]

/-- Each check that is admitted is visited once, in order. -/
theorem map_visits_tour (c : Capabilities) (jobs : List (Check κ × Option (Check κ))) (world : ω) :
    (c.tour jobs world).1.map (fun v => (v.check, v.related)) = c.admitted jobs := by
  induction jobs generalizing world with
  | nil => rfl
  | cons job jobs ih =>
    unfold tour admitted
    cases hJob : c.admits job.1.info with
    | false =>
      -- a skipped check is left out on both sides
      rw [List.filter_cons_of_neg (by simp [hJob])]
      exact ih world
    | true =>
      rw [List.filter_cons_of_pos (by simp [hJob])]
      exact congrArg (job :: ·) (ih _)

/-- The checks that are not admitted have no part in a tour. -/
theorem tour_admitted (c : Capabilities) (jobs : List (Check κ × Option (Check κ))) (world : ω) :
    c.tour (c.admitted jobs) world = c.tour jobs world := by
  induction jobs generalizing world with
  | nil => rfl
  | cons job jobs ih =>
    unfold admitted at ih ⊢
    cases hJob : c.admits job.1.info with
    | false =>
      -- a skipped check leaves the world to the next one
      rw [List.filter_cons_of_neg (by simp [hJob]), ih]
      simp [tour, hJob]
    | true =>
      rw [List.filter_cons_of_pos (by simp [hJob])]
      simp [tour, hJob, ih]

end Capabilities

namespace Controller

/-! ## One turn -/

theorem advance_of_skipped {c : Controller κ} {check : Check κ}
    (h : c.capabilities.admits check.info = false) (related : Option (Check κ))
    (p : Progress ω) : c.advance check related p =
      ⟨(check, { p with report := { p.report with skipped := p.report.skipped + 1 } }), []⟩ := by
  unfold advance
  rw [h]
  rfl

theorem advance_of_admitted {c : Controller κ} {check : Check κ}
    (h : c.capabilities.admits check.info = true) (related : Option (Check κ)) (p : Progress ω) :
    let v := check.visit related p.world
    c.advance check related p =
      ⟨(v.after,
        { world := (Examiner.examine check related p.world).world
          report := { p.report with
            evaluated := p.report.evaluated + 1, verdict := p.report.verdict.merge v.after.verdict }
          notices := p.notices ++ (c.shown v.after).filterMap (·.notice? v.after)
          stops := if c.hasStop && v.after.verdict.isFailed then p.stops + 1 else p.stops }),
        v.warnings ++ (c.shown v.after).flatMap (·.records v.after)⟩ := by
  intro v
  unfold advance
  rw [h, check.carryOut_eq]
  simp only [Check.showAll_eq]
  simp [Bind.bind, Pure.pure, shown, v]

theorem advanceAll_cons (c : Controller κ) (job : Check κ × Option (Check κ))
    (jobs : List (Check κ × Option (Check κ))) (p : Progress ω) :
    let first := c.advance job.1 job.2 p
    let rest := c.advanceAll jobs first.value.2
    c.advanceAll (job :: jobs) p =
      ⟨(first.value.1 :: rest.value.1, rest.value.2), first.records ++ rest.records⟩ := by
  simp [advanceAll, Bind.bind, Pure.pure]

/-! ## What follows from the visits -/

/-- What some checks being taken in order comes to, given the visits. -/
structure Accounts (c : Controller κ) (jobs : List (Check κ × Option (Check κ))) (p : Progress ω)
    (visits : List (Visit κ)) (r : Logged (List (Check κ) × Progress ω)) : Prop where
  visited_eq : r.value.1.filter (fun check => c.capabilities.admits check.info) =
    visits.map (·.after)
  evaluated_eq : r.value.2.report.evaluated = p.report.evaluated + visits.length
  skipped_eq : r.value.2.report.skipped =
    p.report.skipped + jobs.countP fun job => !c.capabilities.admits job.1.info
  verdict_eq : r.value.2.report.verdict =
    (visits.map (·.after.verdict)).foldl Verdict.merge p.report.verdict
  notices_eq : r.value.2.notices =
    p.notices ++ visits.flatMap fun v => (c.shown v.after).filterMap (·.notice? v.after)
  stops_eq : r.value.2.stops =
    p.stops + if c.hasStop then visits.countP (·.after.verdict.isFailed) else 0
  records_eq : r.records =
    visits.flatMap fun v => v.warnings ++ (c.shown v.after).flatMap (·.records v.after)

/-- The accounts of the visits are right, and the world is the one that the visits leave. By
induction on the checks: a check that is skipped adds to no account but its own. -/
theorem advanceAll_accounts (c : Controller κ) (jobs : List (Check κ × Option (Check κ)))
    (p : Progress ω) :
    c.Accounts jobs p (c.capabilities.tour jobs p.world).1 (c.advanceAll jobs p) ∧
      (c.advanceAll jobs p).value.2.world = (c.capabilities.tour jobs p.world).2 := by
  induction jobs generalizing p with
  | nil => exact ⟨by constructor <;> simp [advanceAll, Capabilities.tour], rfl⟩
  | cons job jobs ih =>
    obtain ⟨check, related⟩ := job
    rw [advanceAll_cons]
    obtain ⟨acc, hWorld⟩ := ih (c.advance check related p).value.2
    cases h : c.capabilities.admits check.info with
    | false =>
      -- skipped: there is no visit, and the count of skipped checks goes up
      have hTour : c.capabilities.tour ((check, related) :: jobs) p.world =
          c.capabilities.tour jobs p.world := by simp [Capabilities.tour, h]
      rw [advance_of_skipped h] at acc hWorld ⊢
      rw [hTour]
      refine ⟨?_, hWorld⟩
      exact
        { visited_eq := by
            rw [List.filter_cons_of_neg (by simp [h])]
            exact acc.visited_eq
          evaluated_eq := acc.evaluated_eq
          skipped_eq := by
            rw [List.countP_cons_of_pos (by simp [h])]
            exact acc.skipped_eq.trans (by dsimp only; omega)
          verdict_eq := acc.verdict_eq
          notices_eq := acc.notices_eq
          stops_eq := acc.stops_eq
          records_eq := acc.records_eq }
    | true =>
      let v := check.visit related p.world
      rw [advance_of_admitted h] at acc hWorld ⊢
      -- carried out: the first visit is its own, and all other counts begin after it
      have hTour : c.capabilities.tour ((check, related) :: jobs) p.world =
          let rest := c.capabilities.tour jobs (Examiner.examine check related p.world).world
          (v :: rest.1, rest.2) := by simp [Capabilities.tour, h, v]
      rw [hTour]
      refine ⟨?_, hWorld⟩
      exact
        { visited_eq := by
            rw [List.filter_cons_of_pos (by exact h)]
            exact congrArg (v.after :: ·) acc.visited_eq
          evaluated_eq := acc.evaluated_eq.trans (by simp only [List.length_cons]; omega)
          skipped_eq := by
            rw [List.countP_cons_of_neg (by simp [h])]
            exact acc.skipped_eq
          verdict_eq := acc.verdict_eq
          notices_eq := acc.notices_eq.trans (by rw [List.flatMap_cons, ← List.append_assoc])
          stops_eq := by
            refine acc.stops_eq.trans ?_
            rw [List.countP_cons]
            cases c.hasStop <;> cases v.after.verdict.isFailed <;> grind
          records_eq := congrArg _ acc.records_eq }

end Controller

/-! ## Watching -/

/-- A world in which it is written down what is done to checks. -/
structure Watched (κ ω : Type) where
  world : ω
  visits : List (Visit κ) := []

instance : Examiner κ (Watched κ ω) where
  examine check related watched :=
    let found := Examiner.examine check related watched.world
    { verdict := found.verdict
      body := found.body
      world := ⟨found.world, watched.visits ++ [check.visit related watched.world]⟩
      error := found.error }

omit [Examiner κ ω] in
/-- The progress in the world that is watched. -/
def Progress.unwatched (p : Progress (Watched κ ω)) : Progress ω :=
  { p with world := p.world.world }

/-- What is written down on a tour is the tour. -/
theorem Capabilities.tour_watched (c : Capabilities) (jobs : List (Check κ × Option (Check κ)))
    (watched : Watched κ ω) :
    let plain := c.tour jobs watched.world
    c.tour jobs watched = (plain.1, ⟨plain.2, watched.visits ++ plain.1⟩) := by
  induction jobs generalizing watched with
  | nil => simp [tour]
  | cons job jobs ih =>
    obtain ⟨check, related⟩ := job
    unfold tour
    cases c.admits check.info with
    -- skipped: nothing is written down
    | false => exact ih watched
    | true =>
      -- carried out: its visit is written down before those of the rest
      simp only [ite_true]
      rw [ih, List.append_cons]
      rfl

namespace Controller

/-- Watching changes nothing about one check. -/
theorem advance_watched (c : Controller κ) (check : Check κ) (related : Option (Check κ))
    (p : Progress (Watched κ ω)) :
    let watched := c.advance check related p
    c.advance check related p.unwatched =
      ⟨(watched.value.1, watched.value.2.unwatched), watched.records⟩ := by
  cases h : c.capabilities.admits check.info with
  | false => rw [advance_of_skipped h, advance_of_skipped h]; rfl
  | true => rw [advance_of_admitted h, advance_of_admitted h]; rfl

/-- Watching changes nothing. -/
theorem advanceAll_watched (c : Controller κ) (jobs : List (Check κ × Option (Check κ)))
    (p : Progress (Watched κ ω)) :
    let watched := c.advanceAll jobs p
    c.advanceAll jobs p.unwatched =
      ⟨(watched.value.1, watched.value.2.unwatched), watched.records⟩ := by
  induction jobs generalizing p with
  | nil => rfl
  | cons job jobs ih =>
    rw [advanceAll_cons, advanceAll_cons, advance_watched, ih]

end Controller

/-! ## Phases -/

/-- The two phases. -/
inductive Phase where
  | pre
  | post
  deriving DecidableEq

namespace Controller

section

omit [Examiner κ ω]

/-- The checks of a phase. -/
def checks (c : Controller κ) : Phase → List (Check κ)
  | .pre => c.pre
  | .post => c.post.map (·.check)

/-- The checks of a phase, each with the one that it is given. -/
def jobs (c : Controller κ) : Phase → List (Check κ × Option (Check κ))
  | .pre => c.pre.map fun check => (check, none)
  | .post => c.post.map fun p => (p.check, c.relatedCheck p)

theorem map_jobs (c : Controller κ) (phase : Phase) :
    (c.jobs phase).map (·.1) = c.checks phase := by
  cases phase <;> simp [jobs, checks, Function.comp_def]

end

/-- Goes through a phase. -/
def evaluate (c : Controller κ) (world : ω) : Phase → Logged (Controller κ × Progress ω)
  | .pre => c.evaluatePre world
  | .post => c.evaluatePost world

/-- In a phase its checks are taken in order. -/
theorem evaluate_eq (c : Controller κ) (world : ω) (phase : Phase) :
    let taken := c.advanceAll (c.jobs phase) { world }
    let result := c.evaluate world phase
    result.value.1.checks phase = taken.value.1 ∧ result.value.2 = taken.value.2 ∧
      result.records = taken.records := by
  cases phase with
  | pre => exact ⟨rfl, rfl, List.append_nil _⟩
  | post =>
    refine ⟨List.ext_getElem? fun place => ?_, rfl, List.append_nil _⟩
    rw [getElem?_advanceAll]
    simp only [checks, evaluate, jobs, List.getElem?_map, getElem?_evaluatePost, Option.map_map]
    rfl

theorem evaluate_watched (c : Controller κ) (world : ω) (phase : Phase) :
    let watched := c.evaluate ({ world } : Watched κ ω) phase
    c.evaluate world phase =
      ⟨(watched.value.1, watched.value.2.unwatched), watched.records⟩ := by
  -- the two phases go through different checks in the same way
  have h : c.advanceAll (c.jobs phase) { world } = _ :=
    c.advanceAll_watched (c.jobs phase) { world := ({ world } : Watched κ ω) }
  cases phase with
  | pre =>
    show (c.advanceAll (c.jobs .pre) { world } >>= _) = _
    rw [h]
    rfl
  | post =>
    show (c.advanceAll (c.jobs .post) { world } >>= _) = _
    rw [h]
    rfl

/-- The visits of a phase, as they are written down if the world is watched. -/
def visits (c : Controller κ) (world : ω) (phase : Phase) : List (Visit κ) :=
  (c.evaluate ({ world } : Watched κ ω) phase).value.2.world.visits

theorem visits_eq_tour (c : Controller κ) (world : ω) (phase : Phase) :
    c.visits world phase = (c.capabilities.tour (c.jobs phase) world).1 := by
  obtain ⟨-, hProgress, -⟩ := c.evaluate_eq ({ world } : Watched κ ω) phase
  rw [visits, hProgress, (c.advanceAll_accounts _ _).2, Capabilities.tour_watched]
  rfl

theorem evaluate_accounts (c : Controller κ) (world : ω) (phase : Phase) :
    let result := c.evaluate world phase
    c.Accounts (c.jobs phase) { world } (c.visits world phase)
      ⟨(result.value.1.checks phase, result.value.2), result.records⟩ := by
  intro result
  obtain ⟨hChecks, hProgress, hRecords⟩ := c.evaluate_eq world phase
  rw [visits_eq_tour, hChecks, hProgress, hRecords]
  exact (c.advanceAll_accounts _ _).1

/-- The checks that are admitted are visited, once each and in order. -/
theorem map_visits (c : Controller κ) (world : ω) (phase : Phase) :
    (c.visits world phase).map (fun v => (v.check, v.related)) =
      c.capabilities.admitted (c.jobs phase) := by
  rw [visits_eq_tour]
  exact c.capabilities.map_visits_tour _ _

theorem info_evaluate (c : Controller κ) (world : ω) (phase : Phase) :
    ((c.evaluate world phase).value.1.checks phase).map (·.info) =
      (c.checks phase).map (·.info) := by
  cases phase with
  | pre => exact c.info_evaluatePre world
  | post =>
    simpa [checks, evaluate, Function.comp_def] using
      congrArg (List.map Prod.fst) (c.info_evaluatePost world)

/-- A check that is skipped stays as it is. -/
theorem getElem?_evaluate_of_skipped {c : Controller κ} {phase : Phase} {place : Nat}
    {check : Check κ} (hCheck : (c.checks phase)[place]? = some check)
    (hAdmits : c.capabilities.admits check.info = false) (world : ω) :
    ((c.evaluate world phase).value.1.checks phase)[place]? = some check := by
  rw [← c.map_jobs phase, List.getElem?_map] at hCheck
  obtain ⟨job, hJob, rfl⟩ := Option.map_eq_some_iff.mp hCheck
  rw [(c.evaluate_eq world phase).1, getElem?_advanceAll, hJob]
  simp [turn, hAdmits]

/-- Every check of a phase is either carried out or skipped. -/
theorem evaluated_add_skipped (c : Controller κ) (world : ω) (phase : Phase) :
    let report := (c.evaluate world phase).value.2.report
    report.evaluated + report.skipped = (c.checks phase).length := by
  intro report
  have acc := c.evaluate_accounts world phase
  -- every job is one or the other, and there are as many jobs as checks
  have hEvaluated : report.evaluated =
      (c.jobs phase).countP fun job => c.capabilities.admits job.1.info := by
    have hLength := congrArg List.length (c.map_visits world phase)
    rw [List.length_map, Capabilities.admitted, ← List.countP_eq_length_filter] at hLength
    exact acc.evaluated_eq.trans (by rw [Nat.zero_add, hLength])
  have hSkipped : report.skipped =
      (c.jobs phase).countP fun job => !c.capabilities.admits job.1.info :=
    acc.skipped_eq.trans (Nat.zero_add _)
  rw [hEvaluated, hSkipped, ← c.map_jobs phase, List.length_map,
    List.length_eq_countP_add_countP fun job => c.capabilities.admits job.1.info]
  simp

/-- Checks that are not admitted have no influence on a phase but on the number of those that are
skipped. -/
theorem evaluate_congr {c d : Controller κ} (hCapabilities : d.capabilities = c.capabilities)
    (hListeners : d.listeners = c.listeners) (hStop : d.hasStop = c.hasStop) {phase : Phase}
    (hJobs : c.capabilities.admitted (d.jobs phase) = c.capabilities.admitted (c.jobs phase))
    (world : ω) :
    let result := c.evaluate world phase
    let other := d.evaluate world phase
    d.visits world phase = c.visits world phase ∧ other.records = result.records ∧
      { other.value.2 with report.skipped := 0 } = { result.value.2 with report.skipped := 0 } := by
  intro result other
  -- checks that are skipped leave the tour as it is
  have hTour : d.capabilities.tour (d.jobs phase) world =
      c.capabilities.tour (c.jobs phase) world := by
    rw [hCapabilities, ← Capabilities.tour_admitted, hJobs, Capabilities.tour_admitted]
  have hVisits : d.visits world phase = c.visits world phase := by
    rw [visits_eq_tour, visits_eq_tour, hTour]
  have hShown : d.shown = c.shown := by
    funext check
    rw [shown, shown, hListeners]
  have hWorld : other.value.2.world = result.value.2.world := by
    rw [(d.evaluate_eq world phase).2.1, (c.evaluate_eq world phase).2.1,
      (d.advanceAll_accounts _ _).2, (c.advanceAll_accounts _ _).2]
    exact congrArg Prod.snd hTour
  -- both results are accounted for by the same visits
  have hc := c.evaluate_accounts world phase
  have hd := d.evaluate_accounts world phase
  rw [hVisits] at hd
  refine ⟨hVisits, ?_, ?_⟩
  · exact hd.records_eq.trans (hShown ▸ hc.records_eq.symm)
  · rw [Progress.mk.injEq, PhaseReport.mk.injEq]
    refine ⟨hWorld, ⟨hd.evaluated_eq.trans hc.evaluated_eq.symm, rfl,
      hd.verdict_eq.trans hc.verdict_eq.symm⟩, ?_, ?_⟩
    · exact hd.notices_eq.trans (hShown ▸ hc.notices_eq.symm)
    · exact hd.stops_eq.trans (hStop ▸ hc.stops_eq.symm)

/--
**A phase carries out the checks that are admitted.** For every controller in
every world, with any checks and listeners in it, and whatever comes of carrying
a check out:

1. the visits that are written down if the world is watched are those of the
   phase itself, as watching changes nothing;
2. exactly the checks that are enabled and find the value they require of every
   capability are visited, once each and in the order in which they were
   registered, whatever came of the visits before;
3. afterwards these are as the visits leave them, and all others as they were; a
   check that could not be carried out has failed, with that as its last reason;
4. the report counts the visits and the checks that were skipped, and has the
   verdicts after the visits, merged in order: failed if one of them is,
   inconclusive if all of them are, with the reasons of the failures;
5. after a visit the check is shown once to each listener that asked for its
   status, in the order of the listeners, and a stop is asked for once if the
   check has failed;
6. with other checks, or none, in the place of those that are skipped, nothing
   is different but their number.
-/
theorem phase_carries_out_admitted (c : Controller κ) (world : ω) (phase : Phase) :
    let result := c.evaluate world phase
    let progress := result.value.2
    let before := c.checks phase
    let after := result.value.1.checks phase
    let admits := c.capabilities.admits
    let watched := c.evaluate ({ world } : Watched κ ω) phase
    let visits := c.visits world phase
    result = ⟨(watched.value.1, watched.value.2.unwatched), watched.records⟩ ∧
    -- the visits
    (∀ info, admits info = true ↔ info.enabled = true ∧ ∀ name value,
      info.requirements.get? name = some value → c.capabilities.get? name = some value) ∧
    visits.map (fun v => (v.check, v.related)) =
      (c.jobs phase).filter (fun job => admits job.1.info) ∧
    -- the checks afterwards
    after.map (·.info) = before.map (·.info) ∧
    after.filter (fun check => admits check.info) = visits.map (·.after) ∧
    (∀ (place : Nat) check, before[place]? = some check → admits check.info = false →
      after[place]? = some check) ∧
    (∀ v ∈ visits, ∀ e, v.error = some e → v.after.status = .failed ∧
      v.after.verdict.reasons.getLast? =
        some (Error.evaluationFailed v.check.name e.message).message) ∧
    -- the report
    progress.report.evaluated = visits.length ∧
    progress.report.evaluated + progress.report.skipped = before.length ∧
    progress.report.verdict = (visits.map (·.after.verdict)).foldl Verdict.merge {} ∧
    (progress.report.verdict.status = .failed ↔ ∃ v ∈ visits, v.after.status = .failed) ∧
    (progress.report.verdict.status = .inconclusive ↔
      ∀ v ∈ visits, v.after.status = .inconclusive) ∧
    progress.report.verdict.reasons = visits.flatMap (fun v =>
      if v.after.status = .failed then v.after.verdict.reasons else []) ∧
    -- listeners and stops
    progress.notices = visits.flatMap (fun v =>
      (c.listeners.filter (·.accepts v.after.status)).filterMap (·.notice? v.after)) ∧
    result.records = visits.flatMap (fun v =>
      v.warnings ++ (c.listeners.filter (·.accepts v.after.status)).flatMap (·.records v.after)) ∧
    progress.stops =
      (if c.hasStop then visits.countP (fun v => v.after.status = .failed) else 0) ∧
    -- no influence of the checks that are skipped
    ∀ d : Controller κ, d.capabilities = c.capabilities → d.listeners = c.listeners →
      d.hasStop = c.hasStop →
      (d.jobs phase).filter (fun job => admits job.1.info) =
        (c.jobs phase).filter (fun job => admits job.1.info) →
      let other := d.evaluate world phase
      d.visits world phase = visits ∧ other.records = result.records ∧
        { other.value.2 with report.skipped := 0 } = { progress with report.skipped := 0 } := by
  intro result progress before after admits watched visits
  have acc := c.evaluate_accounts world phase
  have hReport : progress.report.verdict = (visits.map (·.after.verdict)).foldl Verdict.merge {} :=
    acc.verdict_eq
  refine ⟨c.evaluate_watched world phase, c.capabilities.admits_iff, c.map_visits world phase,
    c.info_evaluate world phase, acc.visited_eq,
    fun _ _ hCheck hAdmits => getElem?_evaluate_of_skipped hCheck hAdmits world,
    fun v _ e he => Visit.after_of_error he, acc.evaluated_eq.trans (Nat.zero_add _),
    c.evaluated_add_skipped world phase, hReport, ?_, ?_, ?_, acc.notices_eq, acc.records_eq,
    ?_, ?_⟩
  · -- the verdict of the report has failed, or is inconclusive, as the merged ones are
    rw [hReport, Verdict.status_foldl_merge_eq_failed_iff]
    simp [Check.status]
  · rw [hReport, Verdict.status_foldl_merge_eq_inconclusive_iff]
    simp [Check.status]
  · -- only failed checks leave reasons
    rw [hReport, Verdict.reasons_foldl_merge, List.flatMap_map]
    rfl
  · exact acc.stops_eq.trans (Nat.zero_add _)
  · -- another controller with the same checks to carry out
    exact fun d hCapabilities hListeners hStop hJobs =>
      evaluate_congr hCapabilities hListeners hStop hJobs world

end Controller

end StreamVerdict
