import QualityGate.Command.Arguments
import QualityGate.Command.Execution
import QualityGate.Config.Basic
import QualityGate.Config.Starter
import QualityGate.Config.Validation
import QualityGate.Digest.Algorithm
import QualityGate.Digest.Sha2
import QualityGate.Disk.Basic
import QualityGate.Disk.Operations
import QualityGate.Glob
import QualityGate.Host.Basic
import QualityGate.Json.Basic
import QualityGate.Json.Decode
import QualityGate.Json.Parser
import QualityGate.Json.Printer
import QualityGate.Locale
import QualityGate.Main
import QualityGate.Manifest.Artifact
import QualityGate.Manifest.Basic
import QualityGate.Manifest.Drift
import QualityGate.Manifest.Reason
import QualityGate.Manifest.Validation
import QualityGate.Output.Ink
import QualityGate.Output.Run
import QualityGate.Output.Scan
import QualityGate.Output.Scope
import QualityGate.Output.Unit
import QualityGate.Path
import QualityGate.Port.Basic
import QualityGate.Process.Launch
import QualityGate.Project.Directory
import QualityGate.Project.Memory
import QualityGate.Proofs.Config.Building
import QualityGate.Proofs.Config.References
import QualityGate.Proofs.Config.Validation
import QualityGate.Proofs.Digest.Form
import QualityGate.Proofs.Disk.Writing
import QualityGate.Proofs.Glob.Expression
import QualityGate.Proofs.Glob.Meaning
import QualityGate.Proofs.Glob.Tokens
import QualityGate.Proofs.Json.Reading
import QualityGate.Proofs.Json.RoundTrip
import QualityGate.Proofs.Json.Spelling
import QualityGate.Proofs.Lookup
import QualityGate.Proofs.Manifest.Artifact
import QualityGate.Proofs.Manifest.Fences
import QualityGate.Proofs.Manifest.Freshness
import QualityGate.Proofs.Manifest.Lines
import QualityGate.Proofs.Manifest.Preimage
import QualityGate.Proofs.Manifest.Reasons
import QualityGate.Proofs.Manifest.Reliability
import QualityGate.Proofs.Manifest.Restamping
import QualityGate.Proofs.Manifest.RoundTrip
import QualityGate.Proofs.Manifest.Soundness
import QualityGate.Proofs.Manifest.Stamping
import QualityGate.Proofs.Manifest.Storage
import QualityGate.Proofs.Path.Canonical
import QualityGate.Proofs.Path.Normal
import QualityGate.Proofs.Path.Order
import QualityGate.Proofs.Project.Directory
import QualityGate.Proofs.Project.FileNames
import QualityGate.Proofs.Project.Memory
import QualityGate.Proofs.Regex.Choice
import QualityGate.Proofs.Regex.Language
import QualityGate.Proofs.Regex.Preference
import QualityGate.Proofs.Regex.Reading
import QualityGate.Proofs.Results
import QualityGate.Proofs.Rule.Agreement
import QualityGate.Proofs.Rule.Claims
import QualityGate.Proofs.Rule.Literal
import QualityGate.Proofs.Rule.Narrowing
import QualityGate.Proofs.Rule.Order
import QualityGate.Proofs.Rule.Permutation
import QualityGate.Proofs.Rule.Planning
import QualityGate.Proofs.Rule.Scanning
import QualityGate.Proofs.Rule.Splice
import QualityGate.Proofs.Rule.Terms
import QualityGate.Proofs.Rule.Unseen
import QualityGate.Proofs.Run.Account
import QualityGate.Proofs.Run.Attribution
import QualityGate.Proofs.Run.Course
import QualityGate.Proofs.Run.Gate
import QualityGate.Proofs.Run.Invariant
import QualityGate.Proofs.Run.Marker
import QualityGate.Proofs.Run.Narrowing
import QualityGate.Proofs.Run.Passage
import QualityGate.Proofs.Run.Prefix
import QualityGate.Proofs.Run.Recording
import QualityGate.Proofs.Run.RoundTrip
import QualityGate.Proofs.Run.Saving
import QualityGate.Proofs.Run.Unison
import QualityGate.Proofs.Scope.Baseline
import QualityGate.Proofs.Scope.Decision
import QualityGate.Proofs.Scope.Preview
import QualityGate.Proofs.Scope.Selection
import QualityGate.Proofs.Scope.Subtrees
import QualityGate.Proofs.Source.Characters
import QualityGate.Proofs.Source.Grammar
import QualityGate.Proofs.Source.Hidden
import QualityGate.Proofs.Source.Lines
import QualityGate.Proofs.Source.Maximal
import QualityGate.Proofs.Source.Runs
import QualityGate.Proofs.Source.Stretches
import QualityGate.Proofs.Source.Sweep
import QualityGate.Proofs.Source.Views
import QualityGate.Proofs.Text.Boundary
import QualityGate.Proofs.Text.Digits
import QualityGate.Proofs.Text.Order
import QualityGate.Proofs.Text.Pieces
import QualityGate.Proofs.Text.Trim
import QualityGate.Proofs.Text.Utf8
import QualityGate.Proofs.Time.Calendar
import QualityGate.Proofs.Time.Days
import QualityGate.Proofs.Time.Denotation
import QualityGate.Proofs.Time.Order
import QualityGate.Proofs.Time.Rfc3339
import QualityGate.Proofs.Unit.Expiry
import QualityGate.Proofs.Unit.Generation
import QualityGate.Proofs.Unit.Interruption
import QualityGate.Proofs.Unit.Isolation
import QualityGate.Proofs.Unit.OneTree
import QualityGate.Proofs.Unit.Operations
import QualityGate.Proofs.Unit.Regeneration
import QualityGate.Proofs.Unit.Store
import QualityGate.Proofs.Unit.View
import QualityGate.Regex.Expr
import QualityGate.Regex.Matching
import QualityGate.Regex.Parser
import QualityGate.Regex.Program
import QualityGate.Regex.Replacement
import QualityGate.Regex.Search
import QualityGate.Repository.Basic
import QualityGate.Repository.Changes
import QualityGate.Repository.Ignore
import QualityGate.Repository.Revision
import QualityGate.Rule.Check
import QualityGate.Rule.Fix
import QualityGate.Rule.Matcher
import QualityGate.Rule.Scan
import QualityGate.Rule.Spec
import QualityGate.Rule.Violation
import QualityGate.Run.Outcome
import QualityGate.Run.Pipeline
import QualityGate.Run.Report
import QualityGate.Scope.Decision
import QualityGate.Scope.Probe
import QualityGate.Scope.Selection
import QualityGate.Shell.Arithmetic
import QualityGate.Shell.BuiltIn
import QualityGate.Shell.Evaluation
import QualityGate.Shell.Expansion
import QualityGate.Shell.Format
import QualityGate.Shell.Launch
import QualityGate.Shell.Lexer
import QualityGate.Shell.Parser
import QualityGate.Shell.Program.Basic
import QualityGate.Shell.Program.Condition
import QualityGate.Shell.Program.Files
import QualityGate.Shell.Program.Lines
import QualityGate.Shell.Program.Patterns
import QualityGate.Shell.Programs
import QualityGate.Shell.Redirection
import QualityGate.Shell.Signal
import QualityGate.Shell.State
import QualityGate.Shell.Syntax
import QualityGate.Source.Kind
import QualityGate.Source.Masked
import QualityGate.Source.Region
import QualityGate.Stage.Basic
import QualityGate.Stage.Suite
import QualityGate.Text.Blank
import QualityGate.Text.Hexadecimal
import QualityGate.Text.Lines
import QualityGate.Text.Order
import QualityGate.Text.Utf8
import QualityGate.Time.Calendar
import QualityGate.Time.Instant
import QualityGate.Time.Rfc3339
import QualityGate.Toml.Parser
import QualityGate.Toml.Scalar
import QualityGate.Toml.Table
import QualityGate.Toml.Text
import QualityGate.Unicode.Binary
import QualityGate.Unicode.Casing
import QualityGate.Unicode.Category
import QualityGate.Unicode.CharSet
import QualityGate.Unicode.Property
import QualityGate.Unicode.Script
import QualityGate.Unit.Basic
import QualityGate.Unit.Status
import QualityGate.Unit.Verifier
import QualityGate.Wildcard
