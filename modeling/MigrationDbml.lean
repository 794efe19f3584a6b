import MigrationDbml.Text.Basic
import MigrationDbml.Text.Utf8
import MigrationDbml.Text.Slice
import MigrationDbml.Text.Alphanumeric
import MigrationDbml.Text.ControlSequence
import MigrationDbml.Json.Basic
import MigrationDbml.Span
import MigrationDbml.Literal
import MigrationDbml.Params
import MigrationDbml.ColumnType
import MigrationDbml.Statement
import MigrationDbml.Warning
import MigrationDbml.Line.Segment
import MigrationDbml.Line.Basic
import MigrationDbml.Dbml.Quoted
import MigrationDbml.Dbml.Column
import MigrationDbml.Dbml.Emission
import MigrationDbml.Source
import MigrationDbml.Log.Event
import MigrationDbml.Log.Pattern.Atom
import MigrationDbml.Log.Pattern.Brackets
import MigrationDbml.Log.Pattern.Basic
import MigrationDbml.Log.FieldFilter
import MigrationDbml.Log.Directive
import MigrationDbml.Log.Filter
import MigrationDbml.Conversion
import MigrationDbml.Command.Arguments
import MigrationDbml.Command.Help
import MigrationDbml.Command.SystemError
import MigrationDbml.Command.Failure
import MigrationDbml.Command.Report
import MigrationDbml.Command.Surroundings
import MigrationDbml.Command.Session
import MigrationDbml.Command.System
import MigrationDbml.Command.Directory.Outside
import MigrationDbml.Command.Directory.Basic
import MigrationDbml.Command.Directory.Pipes
import MigrationDbml.Main
import MigrationDbml.Proofs.Cuts
import MigrationDbml.Proofs.Segments
import MigrationDbml.Proofs.Lines
import MigrationDbml.Proofs.Refusals
import MigrationDbml.Proofs.Literals
import MigrationDbml.Proofs.Machine
import MigrationDbml.Proofs.RoundTrip
import MigrationDbml.Proofs.Emissions
import MigrationDbml.Proofs.Conversions
import MigrationDbml.Proofs.LineEnds
import MigrationDbml.Proofs.Loops
import MigrationDbml.Proofs.Contents
import MigrationDbml.Proofs.Diagnostics
import MigrationDbml.Proofs.Columns
import MigrationDbml.Proofs.Insertions
import MigrationDbml.Proofs.Directories
import MigrationDbml.Proofs.Runs
import MigrationDbml.Proofs.Options
import MigrationDbml.Proofs.JsonReading
import MigrationDbml.Proofs.Reports
import MigrationDbml.Proofs.QuotedReading
import MigrationDbml.Proofs.LeadMachine
import MigrationDbml.Proofs.LongestMatch
import MigrationDbml.Proofs.Decomposition
import MigrationDbml.Proofs.Rearrangements
import MigrationDbml.Proofs.Writes
import MigrationDbml.Proofs.Joins
import MigrationDbml.Proofs.Objects
import MigrationDbml.Proofs.WarningLines
import MigrationDbml.Proofs.Logs
import MigrationDbml.Proofs.ByteSlices
import MigrationDbml.Proofs.Replacements
import MigrationDbml.Proofs.CheckedSegments
import MigrationDbml.Proofs.CheckedConversion
