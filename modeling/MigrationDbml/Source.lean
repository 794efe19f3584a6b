import MigrationDbml.Line.Basic

/-!
# Sources

A source is cut into physical lines at its line feeds. Lines are numbered from 1,
a byte order mark at the start of the source belongs to no line, and a carriage
return at the end of a line is not part of its text. Each line keeps the byte
offset at which it starts, so that what is found on it can be placed in the source.

The piece after a last line feed is a physical line too, but it is not counted
when it is empty (`Source.lineCount`).
-/

namespace MigrationDbml

/-- A line of a source as written, without its line end. -/
structure PhysicalLine where
  number : Nat
  offset : Nat
  text : Text
deriving DecidableEq

namespace Source

/-- The byte order mark. -/
def mark : Char := '\uFEFF'

/-- The source after its byte order mark, if it has one. -/
def body (source : Text) : Text := if source.head? = some mark then source.tail else source

/-- The number of bytes before `body`. -/
def bodyOffset (source : Text) : Nat := if source.head? = some mark then mark.utf8Size else 0

/-- The text without a carriage return at its end, if it has one. -/
def dropReturn (t : Text) : Text := if t.getLast? = some '\r' then t.dropLast else t

/-- Numbers the pieces between line feeds, the first of which starts at `offset`. -/
def place (number offset : Nat) : List Text → List PhysicalLine
  | [] => []
  | p :: ps =>
    ⟨number, offset, dropReturn p⟩ :: place (number + 1) (offset + Text.byteLength p + 1) ps

/-- The physical lines of a source. There is always a first one. -/
def physicalLines (source : Text) : List PhysicalLine :=
  place 1 (bodyOffset source) ((body source).splitOn '\n')

/-- The number of lines in a source, an empty one at its end not counted. -/
def lineCount (source : Text) : Nat :=
  source.count '\n' + if source.getLast?.all (· = '\n') then 0 else 1

end Source

/-- Reads a physical line. Spans are relative to the source. -/
def PhysicalLine.parse (p : PhysicalLine) : Except Malformed Line :=
  (Line.parse p.number p.text).mapError (·.shift p.offset)

end MigrationDbml
