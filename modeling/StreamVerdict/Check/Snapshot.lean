import StreamVerdict.Check.Basic

/-!
# Snapshots of resources

A pair of checks that finds leaks. The first one takes a snapshot of the resources that every
instance of the system holds before the test. The second one takes another snapshot afterwards
and fails for everything that has appeared or disappeared.
-/

namespace StreamVerdict

/-- The resources that each instance holds. -/
abbrev Snapshot := KeyMap TextSet

namespace Snapshot

/-- The complaints about an instance that is in both snapshots: first for what it does not hold
any more, then for what it did not hold before. -/
def instanceComplaints (name : String) (before after : TextSet) : List String :=
  ((before.keys.filter (!after.contains ·)).map fun r =>
      s!"failed to find [{r}] on instance [{name}] in post-test check") ++
    (after.keys.filter (!before.contains ·)).map fun r =>
      s!"failed to find [{r}] on instance [{name}] in pre-test check"

/-- The complaints about one instance of the earlier snapshot. -/
def baselineComplaints (current : Snapshot) (name : String) (before : TextSet) : List String :=
  match current.get? name with
  | none => [s!"instance [{name}] in pre-test check not found in post-test check"]
  | some after => instanceComplaints name before after

/-- All differences between two snapshots, instance by instance, with the instances that are only
in the later one at the end. -/
def complaints (baseline current : Snapshot) : List String :=
  (baseline.entries.flatMap fun (name, before) => baselineComplaints current name before) ++
    (current.keys.filter (!baseline.contains ·)).map fun name =>
      s!"instance [{name}] in post-test check not found in pre-test check"

/-- A verdict after the comparison of two snapshots. -/
def judge (v : Verdict) (baseline current : Snapshot) : Verdict :=
  ((complaints baseline current).foldl Verdict.failCheck v).passCheck

/-- Worlds in which a snapshot can be taken, or the attempt fails. -/
class Probe (ω : Type) where
  /-- Takes a snapshot. -/
  capture : ω → Except Error Snapshot × ω

/-- The two checks of a pair, with the last snapshot that each has taken. -/
inductive Body where
  | baseline (captured : Option Snapshot)
  | comparison (captured : Option Snapshot)

/-- The snapshot of an earlier check, if it is one that takes a baseline. -/
def Body.baseline? : Body → Option Snapshot
  | .baseline captured => captured
  | .comparison _ => none

/-- The last snapshot taken. -/
def Body.captured? : Body → Option Snapshot
  | .baseline captured => captured
  | .comparison captured => captured

variable {ω : Type} [Probe ω]

/-- Takes the baseline. Whatever is held before the test is taken to be needed, so the check
passes even where the snapshot then fails. -/
def examineBaseline (v : Verdict) (captured : Option Snapshot) (world : ω) :
    Check.Finding Body ω :=
  match Probe.capture world with
  | (.ok current, world) => ⟨v.passCheck, .baseline (some current), world, none⟩
  | (.error e, world) => ⟨v.passCheck, .baseline captured, world, some e⟩

/-- Takes a snapshot and compares it with the baseline, if there is one. -/
def examineComparison (v : Verdict) (captured baseline : Option Snapshot) (world : ω) :
    Check.Finding Body ω :=
  match baseline with
  | none => ⟨v.failCheck "no pre-test snapshot provided", .comparison captured, world, none⟩
  | some baseline =>
    match Probe.capture world with
    | (.ok current, world) => ⟨judge v baseline current, .comparison (some current), world, none⟩
    | (.error e, world) => ⟨v, .comparison captured, world, some e⟩

/-- Carries out a check of a pair. -/
def examine (v : Verdict) (body : Body) (baseline : Option Snapshot) (world : ω) :
    Check.Finding Body ω :=
  match body with
  | .baseline captured => examineBaseline v captured world
  | .comparison captured => examineComparison v captured baseline world

instance : Examiner Body ω where
  examine c related world :=
    examine c.verdict c.body (related.bind fun r => r.body.baseline?) world

end Snapshot

end StreamVerdict
