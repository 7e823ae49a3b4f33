import Attestation.AttributeChecker
import Attestation.Check
import Attestation.Collector
import Attestation.Command.Arguments
import Attestation.Config
import Attestation.Date
import Attestation.Disclosed
import Attestation.Event
import Attestation.Event.Directive
import Attestation.Event.Filter
import Attestation.Event.Pattern
import Attestation.FileTree
import Attestation.Json.Document
import Attestation.Json.Numeral
import Attestation.Json.Reading
import Attestation.Json.Token
import Attestation.Json.Tree
import Attestation.Keyed
import Attestation.Main
import Attestation.Number.Binary64
import Attestation.Observer
import Attestation.Outcome
import Attestation.Program
import Attestation.Proofs.AttributeChecker
import Attestation.Proofs.AttributeChecker.Comparison
import Attestation.Proofs.AttributeChecker.DateWindow
import Attestation.Proofs.Collector.Delivery
import Attestation.Proofs.Collector.Runs
import Attestation.Proofs.Command.Arguments
import Attestation.Proofs.Config.Omission
import Attestation.Proofs.Config.Reading
import Attestation.Proofs.Config.Saving
import Attestation.Proofs.Config.Sections
import Attestation.Proofs.Date.Calendar
import Attestation.Proofs.Date.Text
import Attestation.Proofs.FileTree
import Attestation.Proofs.Json.Building
import Attestation.Proofs.Json.Grammar
import Attestation.Proofs.Json.Layout
import Attestation.Proofs.Json.Lexing
import Attestation.Proofs.Json.Numerals
import Attestation.Proofs.Json.Omission
import Attestation.Proofs.Json.Printing
import Attestation.Proofs.Json.Reading
import Attestation.Proofs.Json.Scanning
import Attestation.Proofs.Keyed
import Attestation.Proofs.Observer.Decoration
import Attestation.Proofs.Observer.Notices
import Attestation.Proofs.Observer.Trace
import Attestation.Proofs.Omission
import Attestation.Proofs.Program
import Attestation.Proofs.Report.Confluence
import Attestation.Proofs.Report.History
import Attestation.Proofs.Report.Refusal
import Attestation.Proofs.Report.Sealing
import Attestation.Proofs.Report.Signals
import Attestation.Proofs.Submission.Omission
import Attestation.Proofs.Submission.Supplied
import Attestation.Proofs.Submission.Writing
import Attestation.Proofs.Summary.Entries
import Attestation.Proofs.Summary.Explanation
import Attestation.Proofs.Summary.Lines
import Attestation.Proofs.Text.ByteOrder
import Attestation.Proofs.Text.Lines
import Attestation.Proofs.Toml.Document
import Attestation.Proofs.Toml.Layout
import Attestation.Proofs.Toml.Quoted
import Attestation.Proofs.Toml.Scalar
import Attestation.Proofs.Toml.Values
import Attestation.Proofs.Value.Records
import Attestation.Proofs.Value.Text
import Attestation.Proofs.Value.Writing
import Attestation.Proofs.Verifier.Acceptance
import Attestation.Proofs.Verifier.Confidentiality
import Attestation.Proofs.Verifier.Gathering
import Attestation.Proofs.Verifier.Recording
import Attestation.Proofs.Verifier.Registration
import Attestation.Proofs.Verifier.Runs
import Attestation.Proofs.Verifier.Sealing
import Attestation.Proofs.Verifier.Sources
import Attestation.Proofs.Verifier.Tightening
import Attestation.Proofs.View.Members
import Attestation.Proofs.View.Reading
import Attestation.Proofs.View.WireForm
import Attestation.Proofs.View.Writing
import Attestation.Report
import Attestation.Report.Sealed
import Attestation.Requirements
import Attestation.Submission
import Attestation.Summary
import Attestation.Text
import Attestation.Text.Alphanumeric
import Attestation.Text.Invisible
import Attestation.Toml.Document
import Attestation.Toml.Layout
import Attestation.Toml.Quoted
import Attestation.Toml.Reading
import Attestation.Toml.Scalar
import Attestation.Toml.Text
import Attestation.Toml.Tree
import Attestation.Value
import Attestation.Value.Document
import Attestation.Verdict
import Attestation.Verifier
import Attestation.View
import Attestation.View.Reading
