import StreamVerdict.Check.Rehearsal
import StreamVerdict.Configuration.Text
import StreamVerdict.Controller
import StreamVerdict.Inspect
import StreamVerdict.Proofs.ExpectationSet.OneEvent
import StreamVerdict.Proofs.ExpectationSet.Stretch
import StreamVerdict.Proofs.ExpectationSet.Trigger
import StreamVerdict.Proofs.ExpectationSet.Answer
import StreamVerdict.Proofs.Verdict
import StreamVerdict.Proofs.Verdict.Merging
import StreamVerdict.Proofs.Report
import StreamVerdict.Proofs.Dispatcher.Play
import StreamVerdict.Proofs.Dispatcher.Session
import StreamVerdict.Proofs.Dispatcher.Delivery
import StreamVerdict.Proofs.Traversal
import StreamVerdict.Proofs.Monitor.Stream
import StreamVerdict.Proofs.Monitor.Closing
import StreamVerdict.Proofs.Observer.Judgement
import StreamVerdict.Proofs.Observer.Stream
import StreamVerdict.Proofs.Plan.Panel
import StreamVerdict.Proofs.Observer.Built
import StreamVerdict.Proofs.Observer.Life
import StreamVerdict.Proofs.Observer.Deeds
import StreamVerdict.Proofs.Observer.Subscription
import StreamVerdict.Proofs.Plan.Built
import StreamVerdict.Proofs.Plan.Account
import StreamVerdict.Proofs.Plan.Verdict
import StreamVerdict.Proofs.Plan.Order
import StreamVerdict.Proofs.ErrorKind
import StreamVerdict.Proofs.Text.Numeral
import StreamVerdict.Proofs.Text.LowerCase
import StreamVerdict.Proofs.Event.Lookup
import StreamVerdict.Proofs.Quota.Grammar
import StreamVerdict.Proofs.Quota.Canonical
import StreamVerdict.Proofs.Plan.Offence
import StreamVerdict.Proofs.KeyMap
import StreamVerdict.Proofs.Regex.Search
import StreamVerdict.Proofs.Regex.Ordered
import StreamVerdict.Proofs.Regex.Parenthesis
import StreamVerdict.Proofs.Regex.Bracket
import StreamVerdict.Proofs.Regex.Group
import StreamVerdict.Proofs.Regex.Anchor
import StreamVerdict.Proofs.Regex.Escaped
import StreamVerdict.Proofs.Pattern.FieldNames
import StreamVerdict.Proofs.Requirements.Violation
import StreamVerdict.Proofs.Check.Difference
import StreamVerdict.Proofs.Check.Discrepancy
import StreamVerdict.Proofs.Controller.Calls
import StreamVerdict.Proofs.Controller.Phase
import StreamVerdict.Proofs.Controller.Pairing
import StreamVerdict.Proofs.Controller.Leak
import StreamVerdict.Proofs.Tree.Alike
import StreamVerdict.Proofs.Tree.Reading
import StreamVerdict.Proofs.Configuration.Format
import StreamVerdict.Proofs.Expectation.Spelling
import StreamVerdict.Proofs.Text.Characters
import StreamVerdict.Proofs.Json.RoundTrip
import StreamVerdict.Proofs.Toml.Quoted
import StreamVerdict.Proofs.Toml.Key
import StreamVerdict.Proofs.Toml.Table
import StreamVerdict.Proofs.Toml.Value
import StreamVerdict.Proofs.Toml.Sections
import StreamVerdict.Proofs.Toml.Document
import StreamVerdict.Proofs.Configuration.RoundTrip
