import TreeMacros.Datum
import TreeMacros.Datum.Json
import TreeMacros.Datum.Text
import TreeMacros.Decimal.Binary
import TreeMacros.Decimal.Reader
import TreeMacros.Decimal.Scanner
import TreeMacros.Decimal.Shortest
import TreeMacros.Definition
import TreeMacros.Evaluation
import TreeMacros.Evaluation.Builtin
import TreeMacros.Evaluation.Coercion
import TreeMacros.Evaluation.Counter
import TreeMacros.Evaluation.Form
import TreeMacros.Evaluation.Member
import TreeMacros.Evaluation.Operation
import TreeMacros.Evaluation.Running
import TreeMacros.Evaluation.Template
import TreeMacros.Executor
import TreeMacros.Executor.Remote
import TreeMacros.Executor.Subprocess
import TreeMacros.Executor.Worker
import TreeMacros.Expander
import TreeMacros.Fault
import TreeMacros.Fields
import TreeMacros.Json
import TreeMacros.Json.Number
import TreeMacros.Json.Printer
import TreeMacros.Json.Quoted
import TreeMacros.Json.Reader
import TreeMacros.Main
import TreeMacros.Node
import TreeMacros.Node.Number
import TreeMacros.Node.Printer
import TreeMacros.Operator
import TreeMacros.Operator.Grouping
import TreeMacros.Pattern
import TreeMacros.Pattern.Bindings
import TreeMacros.Pattern.Call
import TreeMacros.Pattern.Expression
import TreeMacros.Pattern.Quantifier
import TreeMacros.Pattern.TypeName
import TreeMacros.Registry
import TreeMacros.Registry.Indexed
import TreeMacros.Runner
import TreeMacros.Settings
import TreeMacros.Span
import TreeMacros.Store
import TreeMacros.Text.Blank
import TreeMacros.Text.Boundaries
import TreeMacros.Text.Bytes
import TreeMacros.Text.Case
import TreeMacros.Text.CaseRuns
import TreeMacros.Text.Cased
import TreeMacros.Text.Debug
import TreeMacros.Text.Natural
import TreeMacros.Text.Search
import TreeMacros.Text.Unprintable
import TreeMacros.Toml
import TreeMacros.Toml.Reader
import TreeMacros.Toml.Scalar
import TreeMacros.Value
import TreeMacros.Value.Text
import TreeMacros.Wire.Datum
import TreeMacros.Wire.Exchange
import TreeMacros.Wire.Node
import TreeMacros.Wire.Struct
import TreeMacros.Proofs.Datum.Json
import TreeMacros.Proofs.Decimal.Bits
import TreeMacros.Proofs.Decimal.Counting
import TreeMacros.Proofs.Decimal.Grammar
import TreeMacros.Proofs.Decimal.Prefix
import TreeMacros.Proofs.Decimal.Rounding
import TreeMacros.Proofs.Decimal.Scanner
import TreeMacros.Proofs.Decimal.Signed
import TreeMacros.Proofs.Decimal.Sum
import TreeMacros.Proofs.Decimal.Truncation
import TreeMacros.Proofs.Decimal.Units
import TreeMacros.Proofs.Decimal.Whole
import TreeMacros.Proofs.Evaluation.Calling
import TreeMacros.Proofs.Evaluation.Counter
import TreeMacros.Proofs.Evaluation.DepthLimit
import TreeMacros.Proofs.Evaluation.Isolation
import TreeMacros.Proofs.Evaluation.Likeness
import TreeMacros.Proofs.Evaluation.Likeness.Agreement
import TreeMacros.Proofs.Evaluation.Likeness.Coercion
import TreeMacros.Proofs.Evaluation.Likeness.Form
import TreeMacros.Proofs.Evaluation.Likeness.Function
import TreeMacros.Proofs.Evaluation.Likeness.Level
import TreeMacros.Proofs.Evaluation.Likeness.Strict
import TreeMacros.Proofs.Evaluation.Mutation
import TreeMacros.Proofs.Evaluation.Naming
import TreeMacros.Proofs.Evaluation.Parameters
import TreeMacros.Proofs.Evaluation.Range
import TreeMacros.Proofs.Evaluation.Rebuilding
import TreeMacros.Proofs.Evaluation.Relocation
import TreeMacros.Proofs.Evaluation.Relocation.Form
import TreeMacros.Proofs.Evaluation.Relocation.Function
import TreeMacros.Proofs.Evaluation.Relocation.Level
import TreeMacros.Proofs.Evaluation.Showing
import TreeMacros.Proofs.Evaluation.Slicing
import TreeMacros.Proofs.Evaluation.Template
import TreeMacros.Proofs.Evaluation.Termination
import TreeMacros.Proofs.Executor.Interleaving
import TreeMacros.Proofs.Executor.Output
import TreeMacros.Proofs.Executor.Remote
import TreeMacros.Proofs.Executor.Subprocess
import TreeMacros.Proofs.Expansion.Blame
import TreeMacros.Proofs.Expansion.Counting
import TreeMacros.Proofs.Expansion.Exhaustion
import TreeMacros.Proofs.Expansion.Likeness
import TreeMacros.Proofs.Expansion.Limit
import TreeMacros.Proofs.Expansion.Location
import TreeMacros.Proofs.Expansion.Pacing
import TreeMacros.Proofs.Expansion.Unchanged
import TreeMacros.Proofs.Expansion.Walk
import TreeMacros.Proofs.Json.Lexer
import TreeMacros.Proofs.Json.Plain
import TreeMacros.Proofs.Json.Quoted
import TreeMacros.Proofs.Json.Reader
import TreeMacros.Proofs.Node.Decidable
import TreeMacros.Proofs.Node.Likeness
import TreeMacros.Proofs.Node.Parts
import TreeMacros.Proofs.Operator.Balance
import TreeMacros.Proofs.Operator.Cover
import TreeMacros.Proofs.Operator.Dangling
import TreeMacros.Proofs.Operator.Forest
import TreeMacros.Proofs.Operator.Precedence
import TreeMacros.Proofs.Operator.Tree
import TreeMacros.Proofs.Pattern.Captures
import TreeMacros.Proofs.Pattern.Choice
import TreeMacros.Proofs.Pattern.Hooks
import TreeMacros.Proofs.Pattern.Regular
import TreeMacros.Proofs.Pattern.TypeForm
import TreeMacros.Proofs.Pattern.Ungrouped
import TreeMacros.Proofs.Registry.History
import TreeMacros.Proofs.Registry.Records
import TreeMacros.Proofs.Registry.RoundTrip
import TreeMacros.Proofs.Store.Above
import TreeMacros.Proofs.Store.Frames
import TreeMacros.Proofs.Store.References
import TreeMacros.Proofs.Value.Cycle
import TreeMacros.Proofs.Value.Text
import TreeMacros.Proofs.Wire.Exchange
import TreeMacros.Proofs.Wire.Node
import TreeMacros.Proofs.Wire.RoundTrip
