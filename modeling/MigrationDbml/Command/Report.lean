import MigrationDbml.Text.ControlSequence
import MigrationDbml.Conversion
import MigrationDbml.Command.Arguments
import MigrationDbml.Command.Failure

/-!
# Reports

How a run tells its warnings, its summary and its failure, in each of three
modes: lines for people, one JSON document, or fields with tabs between them. In
JSON the warnings are part of the summary. A quiet run tells no warnings and
leaves out the summary for people.
-/

namespace MigrationDbml.Command

/-- How a run reports. -/
structure Style where
  mode : Mode
  quiet : Bool
  color : Bool
deriving DecidableEq

/-- A text for the error stream. -/
inductive Notice where
  | line (t : Text)
  | diagnostic (d : Diagnostic)
  | refusal (cause : Refusal)
  /-- A line was not taken, in words. -/
  | crash (reason : Text)
deriving DecidableEq

/-- Why arguments are refused, in words. -/
def Refusal.text : Refusal → Text
  | unknownArgument arg => "error: unexpected argument '".toList ++ arg ++ ['\'']
  | unexpectedValue flag => "error: unexpected value in '".toList ++ flag ++ ['\'']
  | invalidValue value => "error: invalid value '".toList ++ value ++ ['\'']
  | conflict flag => "error: the argument '".toList ++ flag ++ "' cannot be used here".toList

/-- The lines of a notice. -/
def Notice.text : Notice → Text
  | line t => t
  | diagnostic d => d.text
  | refusal cause => cause.text
  | crash reason => reason

namespace Style

/-- A label in bold and in the colour of the given code, when colours are on. -/
def label (s : Style) (code : Text) (t : Text) : Text :=
  if s.color then ControlSequence.styled [code, ['1']] t else t

/-- A warning as a line, if it is told. -/
def warning? (s : Style) (w : Warning) : Option Text :=
  if s.quiet then none
  else match s.mode with
    | .human => some (s.label "33".toList "warning:".toList ++ ' ' :: w.text)
    | .plain => some ("warning\t".toList ++ Text.ofNat w.line ++ '\t' :: w.kind.text)
    | .json => none

/-- A finished conversion as an object, its members in the order of their names. -/
def report (source target : Text) (c : Conversion) : Json :=
  .obj [("lines_emitted".toList, .num c.linesEmitted), ("lines_read".toList, .num c.linesRead),
    ("source".toList, .str source), ("target".toList, .str target),
    ("warnings".toList, .arr (c.warnings.map Warning.toSortedJson))]

/-- The summary of a finished conversion, if it is told. -/
def summary? (s : Style) (source target : Text) (c : Conversion) : Option Text :=
  match s.mode with
  | .human =>
    if s.quiet then none
    else some (s.label "32".toList "ok".toList ++ " wrote ".toList ++ Text.ofNat c.linesEmitted
      ++ " DBML lines to ".toList ++ target ++ " (".toList ++ Text.ofNat c.warnings.length
      ++ " warnings)".toList)
  | .json => some (report source target c).pretty
  | .plain =>
    some (['\t'].intercalate [target, Text.ofNat c.linesRead, Text.ofNat c.linesEmitted,
      Text.ofNat c.warnings.length])

/-- A failure as a notice. -/
def failure (s : Style) (f : Failure) : Notice :=
  match s.mode with
  | .human =>
    match f with
    | .malformed path cause source => .diagnostic (Diagnostic.ofMalformed path source cause)
    | f => .line (s.label "31".toList "error:".toList ++ ' ' :: f.message)
  | .json => .line f.toJson.compact
  | .plain => .line ("error\t".toList ++ f.message)

end Style

end MigrationDbml.Command
