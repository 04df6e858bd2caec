import Dialogue.Condition
import Dialogue.Load
import Dialogue.Session
import Dialogue.Settings
import Dialogue.Template
import Dialogue.Trace
import Dialogue.Document.Basic
import Dialogue.Document.Read
import Dialogue.Document.Record
import Dialogue.Document.Word
import Dialogue.Environment
import Dialogue.Flow.Basic
import Dialogue.Flow.Node
import Dialogue.Flow.Reach
import Dialogue.Json.Print
import Dialogue.Json.Read
import Dialogue.Lint.Finding
import Dialogue.Lint.Report
import Dialogue.Number.Binary
import Dialogue.Number.Decimal
import Dialogue.Number.Shortest
import Dialogue.Run.Config
import Dialogue.Run.Conversation
import Dialogue.Run.Log
import Dialogue.Run.Output
import Dialogue.Run.Service
import Dialogue.Run.Step
import Dialogue.Run.Summary
import Dialogue.Run.Walk
import Dialogue.Shape.Flow
import Dialogue.Shape.Node
import Dialogue.Shape.Run
import Dialogue.Text.Blank
import Dialogue.Text.Case
import Dialogue.Text.Quoted
import Dialogue.Text.Ranges
import Dialogue.Text.Word
import Dialogue.Value.Basic
import Dialogue.Value.Dictionary
import Dialogue.Variables.Path
import Dialogue.Variables.Store
import Dialogue.Yaml.Cursor
import Dialogue.Yaml.Layout
import Dialogue.Yaml.Node
import Dialogue.Yaml.Print
import Dialogue.Yaml.Read
import Dialogue.Yaml.Scalar
import Dialogue.Yaml.Token
import Dialogue.Proofs.Condition.FailedCall
import Dialogue.Proofs.Condition.Grammar
import Dialogue.Proofs.Condition.Quoting
import Dialogue.Proofs.Condition.Reading
import Dialogue.Proofs.Condition.Truncated
import Dialogue.Proofs.Document.Equality
import Dialogue.Proofs.Document.Nesting
import Dialogue.Proofs.Document.Range
import Dialogue.Proofs.Document.Readers
import Dialogue.Proofs.Document.Reread
import Dialogue.Proofs.Flow.Answer
import Dialogue.Proofs.Flow.Reach
import Dialogue.Proofs.Flow.Trigger
import Dialogue.Proofs.Json.Decimal
import Dialogue.Proofs.Json.Echo
import Dialogue.Proofs.Json.Leaf
import Dialogue.Proofs.Json.Number
import Dialogue.Proofs.Json.Pretty
import Dialogue.Proofs.Json.Printable
import Dialogue.Proofs.Json.Scaling
import Dialogue.Proofs.Json.Text
import Dialogue.Proofs.Lint.Dangling
import Dialogue.Proofs.Lint.DroppedAnswer
import Dialogue.Proofs.Lint.Findings
import Dialogue.Proofs.Lint.Reachability
import Dialogue.Proofs.Lint.SilentKeywords
import Dialogue.Proofs.Lint.Unreachable
import Dialogue.Proofs.Load.Reload
import Dialogue.Proofs.Number.Rounding
import Dialogue.Proofs.Number.Shortest
import Dialogue.Proofs.Run.Accounts
import Dialogue.Proofs.Run.Budget
import Dialogue.Proofs.Run.Ending
import Dialogue.Proofs.Run.Frame
import Dialogue.Proofs.Run.Lateness
import Dialogue.Proofs.Run.Live
import Dialogue.Proofs.Run.Lockstep
import Dialogue.Proofs.Run.Pruning
import Dialogue.Proofs.Run.Readback
import Dialogue.Proofs.Run.Records
import Dialogue.Proofs.Run.Reordering
import Dialogue.Proofs.Run.Requests
import Dialogue.Proofs.Run.Responses
import Dialogue.Proofs.Run.Resumption
import Dialogue.Proofs.Run.Settings
import Dialogue.Proofs.Run.Steering
import Dialogue.Proofs.Run.Step
import Dialogue.Proofs.Run.Trail
import Dialogue.Proofs.Run.Visits
import Dialogue.Proofs.Run.WellFormed
import Dialogue.Proofs.Settings.Override
import Dialogue.Proofs.Shape.Acceptance
import Dialogue.Proofs.Shape.Flow
import Dialogue.Proofs.Shape.Node
import Dialogue.Proofs.Shape.Range
import Dialogue.Proofs.Shape.RoundTrip
import Dialogue.Proofs.Shape.Run
import Dialogue.Proofs.Template.Cut
import Dialogue.Proofs.Template.Value
import Dialogue.Proofs.Text.Case
import Dialogue.Proofs.Text.Name
import Dialogue.Proofs.Text.Trim
import Dialogue.Proofs.Trace.Books
import Dialogue.Proofs.Value.WellFormed
import Dialogue.Proofs.Variables.Lookup
import Dialogue.Proofs.Variables.Navigation
import Dialogue.Proofs.Variables.Path
import Dialogue.Proofs.Variables.Write
import Dialogue.Proofs.Yaml.Range
