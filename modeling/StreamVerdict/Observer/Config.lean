import StreamVerdict.Connection
import StreamVerdict.Observer.Requirements

/-!
# Configured observers

An observer subscribes to the events of one name. Its configuration says which of them it counts,
how many it expects, and how it judges them.
-/

namespace StreamVerdict.Observer

/-- How an observer judges the events that it counts. -/
inductive Kind where
  /-- Every event must satisfy the same requirements. -/
  | headerMatch
  /-- The events must satisfy the requirements of a list, one after the other. -/
  | orderedHeaderMatch
  /-- A callback decides. -/
  | callback
  deriving DecidableEq

/-- What a callback observer holds before the first event. -/
inductive Start where
  | pass
  | fail
  deriving DecidableEq

/-- What happens when the count reaches its minimum. -/
inductive Action where
  | none
  | stop
  deriving DecidableEq

/-- Requirements as they are configured. -/
inductive RequirementsConfig where
  | ordered (clauses : List ClauseConfig)
  | single (clause : ClauseConfig)
  deriving DecidableEq

/-- A configured observer. -/
structure Config where
  name : Option String := none
  event : String
  conditions : ClauseConfig := {}
  count : Option Quota.Written := none
  /-- The connections to observe, with commas between them. -/
  id : String := "0"
  kind : Kind := .headerMatch
  requirements : Option RequirementsConfig := none
  callback : Option String := none
  start : Start := .pass
  action : Action := .none
  /-- Whether the hook is raised only when the count reaches its minimum. -/
  triggerOnCount : Bool := false
  deriving DecidableEq

/-- The connections to observe. -/
def Config.connections (c : Config) : List ConnectionId :=
  ConnectionId.readList c.id

end StreamVerdict.Observer
