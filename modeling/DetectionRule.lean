import DetectionRule.CommandLine.Colour
import DetectionRule.CommandLine.Command
import DetectionRule.CommandLine.Environment
import DetectionRule.CommandLine.Failure
import DetectionRule.CommandLine.Log
import DetectionRule.CommandLine.Report
import DetectionRule.CommandLine.Run
import DetectionRule.CommandLine.Settings
import DetectionRule.CommandLine.SettingsFile
import DetectionRule.Condition.Argument
import DetectionRule.Condition.Attributes
import DetectionRule.Condition.Basic
import DetectionRule.Json.Basic
import DetectionRule.Json.Printer
import DetectionRule.Main
import DetectionRule.Markup
import DetectionRule.Proofs.Condition.Grammar
import DetectionRule.Proofs.Text.Cutting
import DetectionRule.Rule.Checks
import DetectionRule.Rule.Document
import DetectionRule.Rule.Draft
import DetectionRule.Rule.Finding
import DetectionRule.Rule.Header
import DetectionRule.Rule.Store
import DetectionRule.Session
import DetectionRule.Text.Blank
import DetectionRule.Text.CodePoint
import DetectionRule.Text.Decimal
import DetectionRule.Text.DefaultIgnorable
import DetectionRule.Text.GraphemeExtend
import DetectionRule.Text.Pieces
import DetectionRule.Text.Printable
import DetectionRule.Text.Quoted
import DetectionRule.Vocabulary.Basic
import DetectionRule.Vocabulary.Reader
import DetectionRule.Proofs.Condition.WellFormed
import DetectionRule.Proofs.Rule.Invariant
import DetectionRule.Proofs.Rule.History
import DetectionRule.Proofs.Rule.Token
import DetectionRule.Proofs.Rule.Decoding
import DetectionRule.Proofs.Text.Escaping
import DetectionRule.Proofs.Rule.Finding
import DetectionRule.Proofs.Rule.Modes
import DetectionRule.Proofs.Rule.MarkupFindings
import DetectionRule.Proofs.Condition.Printing
import DetectionRule.Proofs.Rule.Rebuilding
import DetectionRule.Proofs.Rule.Provenance
import DetectionRule.Proofs.CommandLine.Arguments
import DetectionRule.Proofs.CommandLine.Outcome
import DetectionRule.Proofs.Json.Lexer
import DetectionRule.Proofs.Json.Reader
import DetectionRule.Proofs.Json.Members
import DetectionRule.Proofs.CommandLine.Document
import DetectionRule.Proofs.CommandLine.Agreement
import DetectionRule.Proofs.CommandLine.Output
import DetectionRule.Proofs.Json.Pointer
import DetectionRule.Proofs.Rule.Location
import DetectionRule.Proofs.Rule.DraftText
import DetectionRule.Proofs.Session.Idle
import DetectionRule.Proofs.CommandLine.Values
import DetectionRule.Proofs.CommandLine.FileLines
import DetectionRule.Proofs.CommandLine.Settings
import DetectionRule.Proofs.CommandLine.Precedence
import DetectionRule.Proofs.Condition.Writes
import DetectionRule.Proofs.Condition.Merging
import DetectionRule.Proofs.Condition.Patches
import DetectionRule.Proofs.Condition.Spacing
import DetectionRule.Proofs.Rule.Adding
import DetectionRule.Proofs.Rule.Place
import DetectionRule.Proofs.Rule.Exactness
import DetectionRule.Proofs.Rule.Moving
import DetectionRule.Proofs.Text.Numerals
import DetectionRule.Proofs.CommandLine.Variables
import DetectionRule.Proofs.Rule.Misplaced
import DetectionRule.Proofs.Text.Entities
