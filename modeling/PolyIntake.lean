import PolyIntake.Command
import PolyIntake.CommandLine
import PolyIntake.CommandLine.Switches
import PolyIntake.CommandLine.Usage
import PolyIntake.Cursor
import PolyIntake.Decimal
import PolyIntake.Decimal.Shortest
import PolyIntake.Integer
import PolyIntake.Json.Parser
import PolyIntake.Json.Printer
import PolyIntake.Line
import PolyIntake.Log
import PolyIntake.Main
import PolyIntake.Outcome
import PolyIntake.Path
import PolyIntake.Poly
import PolyIntake.Poly.Parser
import PolyIntake.Poly.Printer
import PolyIntake.Poly.Sum
import PolyIntake.Report
import PolyIntake.Report.Table
import PolyIntake.Session
import PolyIntake.Session.Reporting
import PolyIntake.Settings
import PolyIntake.Settings.Environment
import PolyIntake.Settings.Loading
import PolyIntake.Source
import PolyIntake.Text.Cells
import PolyIntake.Text.Letter
import PolyIntake.Text.Printable
import PolyIntake.Text.Quoted
import PolyIntake.Text.Similar
import PolyIntake.Text.Utf8
import PolyIntake.Text.Wrap
import PolyIntake.Toml.Number
import PolyIntake.Toml.Parser
import PolyIntake.Toml.Quoted
import PolyIntake.Toml.Table
import PolyIntake.Value
import PolyIntake.Value.Checked
import PolyIntake.Value.Display
import PolyIntake.Proofs.Sums
import PolyIntake.Proofs.Canonical
import PolyIntake.Proofs.Meaning
import PolyIntake.Proofs.NormalForm
import PolyIntake.Proofs.Numerals
import PolyIntake.Proofs.Descent
import PolyIntake.Proofs.Grammar
import PolyIntake.Proofs.Parsing
import PolyIntake.Proofs.Numbers
import PolyIntake.Proofs.Printing
import PolyIntake.Proofs.Values
import PolyIntake.Proofs.RoundTrip
import PolyIntake.Proofs.Prefixes
import PolyIntake.Proofs.Refusals
import PolyIntake.Proofs.Events
import PolyIntake.Proofs.Recognition
import PolyIntake.Proofs.Reading
import PolyIntake.Proofs.Tallies
import PolyIntake.Proofs.Runs
import PolyIntake.Proofs.Failures
import PolyIntake.Proofs.Checks
import PolyIntake.Proofs.Isolation
import PolyIntake.Proofs.Leaves
import PolyIntake.Proofs.Merging
import PolyIntake.Proofs.Variables
import PolyIntake.Proofs.Precedence
import PolyIntake.Proofs.GivenSwitches
import PolyIntake.Proofs.Responses
import PolyIntake.Proofs.SumLoop
import PolyIntake.Proofs.Laws
import PolyIntake.Proofs.Commands
import PolyIntake.Proofs.Rereading
import PolyIntake.Proofs.Literals
import PolyIntake.Proofs.LexicalChecks
import PolyIntake.Proofs.DistinctTexts
import PolyIntake.Proofs.Complaints
import PolyIntake.Proofs.Locality
import PolyIntake.Proofs.Exactness
import PolyIntake.Proofs.Sizes
import PolyIntake.Proofs.Magnitudes
import PolyIntake.Proofs.RunLogs
import PolyIntake.Proofs.JoinedLines
import PolyIntake.Proofs.SkippedLines
import PolyIntake.Proofs.Documents
import PolyIntake.Proofs.OutcomeDocuments
import PolyIntake.Proofs.Selection
import PolyIntake.Proofs.Turns
import PolyIntake.Proofs.Decoding
import PolyIntake.Proofs.TomlGrammar
import PolyIntake.Proofs.TomlCharacters
import PolyIntake.Proofs.TomlLexemes
import PolyIntake.Proofs.TomlReading
import PolyIntake.Proofs.TomlNumerals
import PolyIntake.Proofs.TomlQuotes
import PolyIntake.Proofs.TomlAcceptance
import PolyIntake.Proofs.DamagedFiles
