import LiveForm.CharSet
import LiveForm.Control
import LiveForm.Decode.Basic
import LiveForm.Decode.Fault
import LiveForm.Diagnostic
import LiveForm.Double.Basic
import LiveForm.Double.Layout
import LiveForm.Double.Numeral
import LiveForm.Double.Rounding
import LiveForm.Double.Scaling
import LiveForm.Double.Shortest
import LiveForm.Form.Action
import LiveForm.Form.Basic
import LiveForm.Form.Compile
import LiveForm.Form.Event
import LiveForm.Form.Message
import LiveForm.Form.Propagation
import LiveForm.Form.Snapshot
import LiveForm.Form.Submission
import LiveForm.Host.Action
import LiveForm.Host.Basic
import LiveForm.Inspection.Basic
import LiveForm.Inspection.Host
import LiveForm.Json.Basic
import LiveForm.Json.Parser
import LiveForm.Json.Printer
import LiveForm.Observer
import LiveForm.Pattern.Basic
import LiveForm.Pattern.ByteRow
import LiveForm.Pattern.ClassParser
import LiveForm.Pattern.Cursor
import LiveForm.Pattern.Match
import LiveForm.Pattern.Memo
import LiveForm.Pattern.Node
import LiveForm.Pattern.Opening
import LiveForm.Pattern.Parser
import LiveForm.Pattern.Regex
import LiveForm.Pattern.Size
import LiveForm.Pattern.Syntax
import LiveForm.Pattern.Tally
import LiveForm.Pattern.Tidy
import LiveForm.Pattern.WordTree
import LiveForm.Rule.Basic
import LiveForm.Rule.Kind
import LiveForm.Schema.Basic
import LiveForm.Schema.Codec
import LiveForm.Schema.Cycle
import LiveForm.Schema.Error
import LiveForm.Schema.FieldType
import LiveForm.Schema.Loader
import LiveForm.Schema.Structure
import LiveForm.Settings.Basic
import LiveForm.Settings.Document
import LiveForm.Settings.Environment
import LiveForm.Text.Blank
import LiveForm.Text.Quoted
import LiveForm.Toml.Basic
import LiveForm.Toml.Parser
import LiveForm.Toml.Quoted
import LiveForm.Toml.Scalar
import LiveForm.Unicode.Age
import LiveForm.Unicode.BreakClass
import LiveForm.Unicode.CaseFold
import LiveForm.Unicode.Category
import LiveForm.Unicode.GraphemeBreak
import LiveForm.Unicode.Lookup
import LiveForm.Unicode.Property
import LiveForm.Unicode.Recent
import LiveForm.Unicode.Script
import LiveForm.Unicode.SentenceBreak
import LiveForm.Unicode.WordBreak
import LiveForm.Value
import LiveForm.Proofs.Form.Consistency
import LiveForm.Proofs.Form.Spreading
import LiveForm.Proofs.Form.Cascade
import LiveForm.Proofs.Form.Settling
import LiveForm.Proofs.Form.Run
import LiveForm.Proofs.Form.Compile
import LiveForm.Proofs.Form.Reached
import LiveForm.Proofs.Rule.Constraint
import LiveForm.Proofs.Form.Submission
import LiveForm.Proofs.Form.Gating
import LiveForm.Proofs.Schema.Cycle
import LiveForm.Proofs.Schema.Verdict
import LiveForm.Proofs.Schema.Vetted
import LiveForm.Proofs.Form.Unfolding
import LiveForm.Proofs.Form.Reentrancy
import LiveForm.Proofs.Form.Subscribing
import LiveForm.Proofs.Form.Calling
import LiveForm.Proofs.Form.Delivering
import LiveForm.Proofs.Form.Explaining
import LiveForm.Proofs.Form.Rechecking
import LiveForm.Proofs.Form.Ending
import LiveForm.Proofs.Form.Fitting
import LiveForm.Proofs.Form.Operating
import LiveForm.Proofs.Form.Detaching
import LiveForm.Proofs.Host.Replaying
import LiveForm.Proofs.Form.Branching
import LiveForm.Proofs.Form.Commuting
import LiveForm.Proofs.Form.Standing
import LiveForm.Proofs.Form.Recompiling
import LiveForm.Proofs.Form.Reordering
import LiveForm.Proofs.Decode
import LiveForm.Proofs.Schema.Encoding
import LiveForm.Proofs.Schema.Retouching
import LiveForm.Proofs.Form.Attempting
import LiveForm.Proofs.Form.Viewing
import LiveForm.Proofs.Form.Releasing
import LiveForm.Proofs.Schema.FirstCycle
import LiveForm.Proofs.Rule.Violation
import LiveForm.Proofs.Form.Starting
import LiveForm.Proofs.Form.Marking
import LiveForm.Proofs.Form.Wording
import LiveForm.Proofs.Text.Trimming
import LiveForm.Proofs.Settings.Overriding
import LiveForm.Proofs.Form.Encoding
import LiveForm.Proofs.Double.Rounding
import LiveForm.Proofs.Double.Shortest
import LiveForm.Proofs.Double.Numeral
import LiveForm.Proofs.Double.Scaling
import LiveForm.Proofs.Rule.Typing
