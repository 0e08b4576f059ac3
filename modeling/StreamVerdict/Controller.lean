import StreamVerdict.Check.Basic

/-!
# Controllers

A controller carries out checks in two phases, before a test and after it, in the order in which
they were registered. A check after the test may be paired with one before it; the pair is found
by name when the later check is registered. Listeners are shown every check that was carried out,
if its status is one that they asked for.

Main definitions:

* `Controller.registerPre`, `Controller.registerPost`: registration;
* `Controller.evaluatePre`, `Controller.evaluatePost`: the phases.
-/

namespace StreamVerdict

/-- What is done with a check that a listener is shown. -/
inductive Listening where
  /-- It is written to the log. -/
  | log
  /-- Somebody of this name is told. -/
  | tell (listener : String)
  deriving DecidableEq

/-- A listener, and the status it asked for; none stands for all. -/
structure Listener where
  listening : Listening
  filter : Option Status
  deriving DecidableEq

/-- Whether a listener is shown checks of a status. -/
def Listener.accepts (l : Listener) (s : Status) : Bool :=
  l.filter.all (· == s)

/-- A summary of one phase. -/
structure PhaseReport where
  /-- How many checks were carried out. -/
  evaluated : Nat := 0
  /-- How many were skipped. -/
  skipped : Nat := 0
  /-- The verdicts of those that were carried out, merged. -/
  verdict : Verdict := {}
  deriving DecidableEq

/-- Somebody is told of a check. -/
structure CheckNotice where
  listener : String
  check : String
  status : Status
  deriving DecidableEq

/-- A check after the test, with the place of the one before the test that it is paired with. -/
structure PostCheck (κ : Type) where
  check : Check κ
  related : Option Nat

/-- Checks in two phases. -/
structure Controller (κ : Type) where
  capabilities : Capabilities := {}
  pre : List (Check κ) := []
  post : List (PostCheck κ) := []
  /-- From the start, failures and inconclusive checks are written to the log. -/
  listeners : List Listener := [⟨.log, some .failed⟩, ⟨.log, some .inconclusive⟩]
  /-- Whether a failed check asks for a stop. -/
  hasStop : Bool := false

/-- How far a phase has come. -/
structure Progress (ω : Type) where
  world : ω
  report : PhaseReport := {}
  notices : List CheckNotice := []
  /-- How often a stop was asked for. -/
  stops : Nat := 0

/-! ## One check -/

namespace Check

variable {κ : Type}

/-- What is written to the log about a check: nothing if it has passed. -/
def outcomeRecord? (c : Check κ) : Option LogRecord :=
  match c.status with
  | .inconclusive => some (.warn c.describe)
  | .failed => some (if c.info.passExpected then .error c.describe else .warn c.describe)
  | .passed => none

/-- Shows a check to a listener. -/
def showTo (c : Check κ) (l : Listener) : Logged (Option CheckNotice) :=
  if !l.accepts c.status then pure none
  else match l.listening with
    | .log => ⟨none, c.outcomeRecord?.toList⟩
    | .tell listener => pure (some ⟨listener, c.name, c.status⟩)

/-- Shows a check to all listeners in turn. -/
def showAll (c : Check κ) (ls : List Listener) : Logged (List CheckNotice) := do
  let told ← ls.mapM c.showTo
  return told.filterMap id

variable {ω : Type} [Examiner κ ω]

/-- The error of a check that could not be carried out. -/
def failure (c : Check κ) (e : Error) : Error :=
  .evaluationFailed c.name e.message

/-- Carries out a check. One that cannot be carried out has failed. -/
def carryOut (c : Check κ) (related : Option (Check κ)) (world : ω) : Logged (Check κ × ω) :=
  let found := Examiner.examine c related world
  let c := { c with verdict := found.verdict, body := found.body }
  match found.error with
  | none => pure (c, found.world)
  | some e =>
    ⟨({ c with verdict := c.verdict.failCheck (c.failure e).message }, found.world),
      [.warn "failed to evaluate condition check"
        [("condition", c.name), ("error", e.message)]]⟩

end Check

/-! ## Registration and phases -/

namespace Controller

variable {κ ω : Type}

/-- Registers a check before the test. No two of them may have one name. -/
def registerPre (c : Controller κ) (check : Check κ) : Except Error (Controller κ) :=
  if c.pre.any (·.name == check.name) then .error (.duplicateCondition check.name)
  else .ok { c with pre := c.pre ++ [check] }

/-- Registers a check after the test, paired with the one before it that has the name given. An
empty name is none. -/
def registerPost (c : Controller κ) (check : Check κ) (preName : Option String) :
    Logged (Except Error (Controller κ)) :=
  -- the name is looked up now; the place that it gives is kept for good
  match preName.filter (· ≠ "") with
  | none => pure (.ok { c with post := c.post ++ [⟨check, none⟩] })
  | some name =>
    match c.pre.findIdx? (·.name == name) with
    | some i => pure (.ok { c with post := c.post ++ [⟨check, some i⟩] })
    | none =>
      ⟨.error (.unresolvedPreCondition name),
        [.error "no pre condition found matching name" [("pre", name)]]⟩

/-- Registers a listener after those that are registered. -/
def registerListener (c : Controller κ) (l : Listener) : Controller κ :=
  { c with listeners := c.listeners ++ [l] }

variable [Examiner κ ω]

/-- Takes one check of a phase: carries it out and shows it around, or skips it. -/
def advance (c : Controller κ) (check : Check κ) (related : Option (Check κ)) (p : Progress ω) :
    Logged (Check κ × Progress ω) := do
  if !c.capabilities.admits check.info then
    return (check, { p with report := { p.report with skipped := p.report.skipped + 1 } })
  else
    let (check, world) ← check.carryOut related p.world
    -- listeners are told what became of the check before a stop is asked for
    let told ← check.showAll c.listeners
    let report := { p.report with evaluated := p.report.evaluated + 1,
                                  verdict := p.report.verdict.merge check.verdict }
    let stops := if c.hasStop && check.verdict.isFailed then p.stops + 1 else p.stops
    return (check, { world, report, notices := p.notices ++ told, stops })

/-- Takes the checks of a phase in order, each with the one that it is paired with. -/
def advanceAll (c : Controller κ) : List (Check κ × Option (Check κ)) → Progress ω →
    Logged (List (Check κ) × Progress ω)
  | [], p => pure ([], p)
  | (check, related) :: rest, p => do
    let (check, p) ← c.advance check related p
    let (checks, p) ← c.advanceAll rest p
    return (check :: checks, p)

/-- The check that a later one is paired with, as it is now. -/
def relatedCheck (c : Controller κ) (p : PostCheck κ) : Option (Check κ) :=
  p.related.bind fun i => c.pre[i]?

/-- Carries out the checks before the test. -/
def evaluatePre (c : Controller κ) (world : ω) : Logged (Controller κ × Progress ω) := do
  let (pre, p) ← c.advanceAll (c.pre.map fun check => (check, none)) { world }
  return ({ c with pre }, p)

/-- Carries out the checks after the test. -/
def evaluatePost (c : Controller κ) (world : ω) : Logged (Controller κ × Progress ω) := do
  let (checks, p) ← c.advanceAll (c.post.map fun p => (p.check, c.relatedCheck p)) { world }
  -- the checks come back in order, so each takes the place that it had
  let post := c.post.zipWith (fun p check => { p with check }) checks
  return ({ c with post }, p)

end Controller

end StreamVerdict
