import StreamVerdict.Check.Snapshot

/-!
# Rehearsals

To try out a controller, checks are carried out on a stage: its resources are set by hand, and
besides the checks that take snapshots there are checks that play a script.
-/

namespace StreamVerdict.Rehearsal

/-- What a scripted check does when it is carried out. -/
inductive Move where
  /-- It cannot be carried out. -/
  | error (e : Error)
  | pass
  | fail (reason : String)
  | merge (v : Verdict)
  /-- It leaves its verdict as it is. -/
  | idle

/-- The verdict after a move. -/
def Move.apply (v : Verdict) : Move → Verdict
  | pass => v.passCheck
  | fail reason => v.failCheck reason
  | merge w => v.merge w
  | error _ | idle => v

/-- The reason why a move cannot be made. -/
def Move.error? : Move → Option Error
  | error e => some e
  | _ => none

/-- Checks that take snapshots, and checks that have moves left to play. -/
inductive Body where
  | snapshot (b : Snapshot.Body)
  | script (moves : List Move)

/-- The snapshot that a check took last. -/
def Body.captured? : Body → Option Snapshot
  | .snapshot b => b.captured?
  | .script _ => none

/-- What a scripted check saw when it was carried out: the check that it is paired with, and the
status of that one. -/
structure Sighting where
  check : String
  related : Option (String × Status)

/-- The world of a rehearsal: the resources, or why they cannot be looked at, and what scripted
checks saw. -/
structure Stage where
  held : Snapshot := .empty
  fault : Option Error := none
  sightings : List Sighting := []

namespace Stage

/-- Sets the resources that an instance holds. -/
def hold (s : Stage) (name : String) (resources : List String) : Stage :=
  { s with held := s.held.insert name (TextSet.ofTexts resources) }

/-- Takes an instance away. -/
def drop (s : Stage) (name : String) : Stage :=
  { s with held := s.held.erase name }

instance : Snapshot.Probe Stage where
  capture s := (match s.fault with | some e => .error e | none => .ok s.held, s)

end Stage

instance : Examiner Body Stage where
  examine c related stage :=
    match c.body with
    | .snapshot b =>
      let baseline : Option Snapshot := related.bind fun r =>
        match r.body with
        | .snapshot b => b.baseline?
        | .script _ => none
      let found := Snapshot.examine c.verdict b baseline stage
      ⟨found.verdict, .snapshot found.body, found.world, found.error⟩
    | .script moves =>
      let move := moves.headD .idle
      let sighting : Sighting := ⟨c.name, related.map fun r => (r.name, r.status)⟩
      ⟨move.apply c.verdict, .script (moves.drop 1),
        { stage with sightings := stage.sightings ++ [sighting] }, move.error?⟩

end StreamVerdict.Rehearsal
