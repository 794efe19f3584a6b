import MigrationDbml.Dbml.Emission
import MigrationDbml.Log.Event
import MigrationDbml.Source

/-!
# Conversions

`convert` turns a source into DBML. It reads the physical lines in order, and the
first malformed one refuses the source. Otherwise each line is emitted under its
number, and the lines and warnings are joined in order.

`events` is what the log is told on the way: each line that was read, the
warnings it raised, and at the end the counts. `transcribe` gives both at once.
-/

namespace MigrationDbml

open Dbml Log

/-- A physical line and what was read on it. -/
structure Reading where
  source : PhysicalLine
  line : Line
deriving DecidableEq

namespace Reading

/-- What the line becomes, under its number in the source. -/
def emission (r : Reading) : Emission := Emission.ofLine r.source.number r.source.text r.line

/-- What the log is told about the line. -/
def events (r : Reading) : List Event :=
  .classified r.source.number r.line.statement r.line.params.size
    :: r.emission.warnings.map fun w => .warned w.line w.kind

end Reading

/-- The DBML for a source, and what there is to report about it. -/
structure Conversion where
  linesRead : Nat
  lines : List Text
  warnings : List Warning
deriving DecidableEq

namespace Conversion

/-- The text written to the target: every line with a line feed after it. -/
def dbml (c : Conversion) : Text := c.lines.flatMap (· ++ ['\n'])

/-- The number of lines in `dbml`. -/
def linesEmitted (c : Conversion) : Nat := c.lines.length

/-- The conversion of a source on which `rs` was read. -/
def ofReadings (linesRead : Nat) (rs : List Reading) : Conversion where
  linesRead := linesRead
  lines := rs.flatMap fun r => r.emission.lines
  warnings := rs.flatMap fun r => r.emission.warnings

end Conversion

namespace Source

/-- The lines of a source that stand before the first malformed one, and that one. -/
def read : List PhysicalLine → List Reading × Option Malformed
  | [] => ([], none)
  | p :: ps =>
    match p.parse with
    | .error m => ([], some m)
    | .ok l =>
      let r := read ps
      (⟨p, l⟩ :: r.1, r.2)

end Source

open Source

/-- How a conversion ends, and what the log is told until then. -/
structure Transcript where
  events : List Event
  result : Except Malformed Conversion

/-- Converts a source and takes down the events. -/
def transcribe (source : Text) : Transcript :=
  match read (physicalLines source) with
  | (rs, some m) => ⟨rs.flatMap Reading.events, .error m⟩
  | (rs, none) =>
    let c := Conversion.ofReadings (lineCount source) rs
    ⟨rs.flatMap Reading.events ++ [.finished c.linesRead c.linesEmitted c.warnings.length], .ok c⟩

/-- Converts a source. Spans are relative to it. -/
def convert (source : Text) : Except Malformed Conversion := (transcribe source).result

/-- What the log is told during a conversion. -/
def events (source : Text) : List Event := (transcribe source).events

end MigrationDbml
