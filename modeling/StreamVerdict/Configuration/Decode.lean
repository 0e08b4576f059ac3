import StreamVerdict.Plan
import StreamVerdict.Tree.Decode

/-!
# Configurations from trees

Every configured thing has its reading here, named `ofTree?`. The names of the fields, what is
meant where one is left out, and the order in which alternatives are tried are the format of a
configuration. `Configuration/Encode` writes the same format.
-/

namespace StreamVerdict

open StreamVerdict.Tree

/-! ## Expectations -/

/-- A quota: a number or a text. -/
def Quota.Written.ofTree? : Tree → Option Quota.Written :=
  either? (fun t => t.word?.map .number) (fun t => t.text?.map .text)

/-- Positive clauses: a text or a map. -/
def MatchClause.ofTree? : Tree → Option MatchClause :=
  either? (fun t => t.text?.map .text) (fun t => t.textMap?.map .fields)

/-- The full form of an expectation. -/
def Expectation.Fields.ofTree? (s : Style) (t : Tree) : Option Expectation.Fields := do
  match ← fields? s ["name", "match", "nomatch", "count", "optional"] t with
  | [name, positive, negative, count, optional] =>
    let name ← orElse? none (orNull? text?) name
    let positive ← orElse? (.fields .empty) MatchClause.ofTree? positive
    let negative ← orElse? .empty textMap? negative
    let count ← orElse? none (orNull? Quota.Written.ofTree?) count
    let isOptional ← orElse? false bool? optional
    some { name, positive, negative, count, isOptional }
  | _ => none

/-- An expectation: a text or the full form. -/
def Expectation.Config.ofTree? (s : Style) : Tree → Option Expectation.Config :=
  either? (fun t => t.text?.map .short)
    (fun t => (Expectation.Fields.ofTree? s.inner t).map .full)

/-- A set of expectations. -/
def ExpectationSet.Config.ofTree? (s : Style) (t : Tree) : Option ExpectationSet.Config := do
  match ← fields? s ["conditions", "trigger-on-any", "trigger-on-all"] t with
  | [some expectations, onAny, onAll] =>
    let expectations ← list? (Expectation.Config.ofTree? s) expectations
    let onAny ← orElse? false bool? onAny
    let onAll ← orElse? true bool? onAll
    some { expectations, onAny, onAll }
  | _ => none

/-- Clauses for fields. -/
def ClauseConfig.ofTree? (s : Style) (t : Tree) : Option ClauseConfig := do
  match ← fields? s ["match", "nomatch"] t with
  | [positive, negative] =>
    let positive ← orElse? .empty textMap? positive
    let negative ← orElse? .empty textMap? negative
    some { positive, negative }
  | _ => none

/-! ## Observers -/

namespace Observer

/-- Requirements: a list of clauses or one of them. -/
def RequirementsConfig.ofTree? (s : Style) : Tree → Option RequirementsConfig :=
  either? (fun t => (list? (ClauseConfig.ofTree? s.inner) t).map .ordered)
    (fun t => (ClauseConfig.ofTree? s.inner t).map .single)

/-- The names of the ways to judge events. -/
def Kind.choices : List (String × Kind) :=
  [("headermatch", .headerMatch), ("orderedheadermatch", .orderedHeaderMatch),
    ("callback", .callback)]

/-- The names of what is held before the first event. -/
def Start.choices : List (String × Start) :=
  [("pass", .pass), ("fail", .fail)]

/-- The names of what happens at the minimum. -/
def Action.choices : List (String × Action) :=
  [("none", .none), ("stop", .stop)]

/-- An observer. -/
def Config.ofTree? (s : Style) (t : Tree) : Option Config := do
  match ← fields? s ["name", "event", "conditions", "count", "id", "type", "requirements",
      "callback", "start", "action", "trigger-on-count"] t with
  | [name, some event, conditions, count, id, kind, requirements, callback, start, action,
      triggerOnCount] =>
    let name ← orElse? none (orNull? text?) name
    let event ← event.text?
    let conditions ← orElse? {} (ClauseConfig.ofTree? s) conditions
    let count ← orElse? none (orNull? Quota.Written.ofTree?) count
    let id ← orElse? "0" text? id
    let kind ← orElse? .headerMatch (choice? s Kind.choices) kind
    let requirements ← orElse? none (orNull? (RequirementsConfig.ofTree? s)) requirements
    let callback ← orElse? none (orNull? text?) callback
    let start ← orElse? .pass (choice? s Start.choices) start
    let action ← orElse? .none (choice? s Action.choices) action
    let triggerOnCount ← orElse? false bool? triggerOnCount
    some { name, event, conditions, count, id, kind, requirements, callback, start, action,
           triggerOnCount }
  | _ => none

end Observer

/-! ## Checks and plans -/

/-- Capabilities are a map. -/
def Capabilities.ofTree? (t : Tree) : Option Capabilities :=
  t.textMap?.map fun options => { options }

/-- The identity of a check. -/
def CheckInfo.ofTree? (s : Style) (t : Tree) : Option CheckInfo := do
  match ← fields? s ["name", "enabled", "pass-expected", "requires"] t with
  | [some name, enabled, passExpected, requirements] =>
    let name ← name.text?
    let enabled ← orElse? true bool? enabled
    let passExpected ← orElse? true bool? passExpected
    let requirements ← orElse? .empty textMap? requirements
    some { name, enabled, passExpected, requirements }
  | _ => none

/-- The names of the statuses. -/
def Status.choices : List (String × Status) :=
  [("Inconclusive", .inconclusive), ("Passed", .passed), ("Failed", .failed)]

/-- A verdict. -/
def Verdict.ofTree? (s : Style) (t : Tree) : Option Verdict := do
  match ← fields? s ["status", "reasons"] t with
  | [some status, some reasons] =>
    let status ← choice? s Status.choices status
    let reasons ← list? text? reasons
    some { status, reasons }
  | _ => none

/-- The time that a test may take. -/
def Timing.ofTree? (s : Style) (t : Tree) : Option Timing := do
  match ← fields? s ["reactor-timeout-secs"] t with
  | [some seconds] =>
    let seconds ← seconds.word?
    some { seconds }
  | _ => none

/-- A plan. -/
def Plan.ofTree? (s : Style) (t : Tree) : Option Plan := do
  match ← fields? s ["conditions", "observers", "capabilities", "timing"] t with
  | [conditions, observers, capabilities, timing] =>
    let conditions ← orElse? none (orNull? (ExpectationSet.Config.ofTree? s)) conditions
    let observers ← orElse? [] (list? (Observer.Config.ofTree? s)) observers
    let capabilities ← orElse? {} Capabilities.ofTree? capabilities
    let timing ← orElse? {} (Timing.ofTree? s) timing
    some { conditions, observers, capabilities, timing }
  | _ => none

end StreamVerdict
