import TypeForm.Ascending
import TypeForm.CommandLine.Arguments
import TypeForm.CommandLine.Disk
import TypeForm.CommandLine.Display
import TypeForm.CommandLine.Host
import TypeForm.CommandLine.Run
import TypeForm.CompileError
import TypeForm.Condition.Basic
import TypeForm.Condition.Evaluation
import TypeForm.Condition.Source
import TypeForm.Config
import TypeForm.Config.File
import TypeForm.Data.Basic
import TypeForm.Data.Description
import TypeForm.Diagnostic
import TypeForm.Form
import TypeForm.Json.Basic
import TypeForm.Json.Reader
import TypeForm.Json.Record
import TypeForm.Json.Writer
import TypeForm.Keyword.Basic
import TypeForm.Keyword.Contract
import TypeForm.Keyword.Type
import TypeForm.Main
import TypeForm.Number.Binary64
import TypeForm.Number.Decimal
import TypeForm.Number.Shortest
import TypeForm.Pointer
import TypeForm.Proofs.Json.Literal
import TypeForm.Proofs.Keyword.Conformance
import TypeForm.Proofs.Keyword.Type
import TypeForm.Proofs.Number.Exact
import TypeForm.Proofs.Number.Range
import TypeForm.Proofs.Number.Rounding
import TypeForm.Proofs.Report.Additions
import TypeForm.Proofs.Report.Counts
import TypeForm.Proofs.Session.Acceptance
import TypeForm.Proofs.Session.Compilation
import TypeForm.Proofs.Session.Node
import TypeForm.Proofs.Session.Run
import TypeForm.Proofs.Session.Validation
import TypeForm.Proofs.Source.Condition
import TypeForm.Proofs.Source.Determinacy
import TypeForm.Proofs.Source.Layout
import TypeForm.Proofs.Source.Token
import TypeForm.Proofs.Source.Validator
import TypeForm.Proofs.Time.Grammar
import TypeForm.Record
import TypeForm.Report
import TypeForm.Scope
import TypeForm.Session
import TypeForm.Tag
import TypeForm.Text.Quoted
import TypeForm.Text.Segments
import TypeForm.Text.Unprintable
import TypeForm.Time.Calendar
import TypeForm.Time.Moment
import TypeForm.Time.Stamp
import TypeForm.Toml.Basic
import TypeForm.Toml.Reader
import TypeForm.Toml.Writer
import TypeForm.Validator
import TypeForm.Validator.Source
import TypeForm.Proofs.Session.Settings
import TypeForm.Proofs.CommandLine.Assessment
import TypeForm.Proofs.CommandLine.Validation
import TypeForm.Proofs.CommandLine.Verdict
import TypeForm.Proofs.CommandLine.Comparison
import TypeForm.Proofs.Scope.Registration
import TypeForm.Proofs.Scope.Names
import TypeForm.Proofs.Data.Pointer
import TypeForm.Proofs.Session.Location
import TypeForm.Proofs.Condition.Names
import TypeForm.Proofs.Session.Refusal
import TypeForm.Proofs.Session.Naming
import TypeForm.Proofs.Source.Scoping
import TypeForm.Proofs.Condition.Folding
import TypeForm.Proofs.Data.Escaping
import TypeForm.Proofs.Source.Access
import TypeForm.Proofs.Data.Position
import TypeForm.Proofs.Session.Integer
import TypeForm.Proofs.Condition.Domain
import TypeForm.Proofs.Condition.Extension
import TypeForm.Proofs.Time.Calendar
import TypeForm.Proofs.Time.Offset
import TypeForm.Proofs.Keyword.Gates
import TypeForm.Proofs.Session.Decoded
import TypeForm.Proofs.Json.Number
import TypeForm.Proofs.Ascending
import TypeForm.Proofs.CommandLine.Disk
import TypeForm.Proofs.Config.File
import TypeForm.Proofs.Json.Depth
import TypeForm.Proofs.Json.Record
import TypeForm.Proofs.Report.Text
import TypeForm.Proofs.Text.Quoted
import TypeForm.Proofs.Data.Description
import TypeForm.Proofs.Condition.Flat
import TypeForm.Proofs.Condition.Laws
