import MigrationDbml.Params
import MigrationDbml.Statement
import MigrationDbml.Line.Segment

/-!
# Lines

A line of a migration: a head word, a name and parameters. `Line.parse` reads
one from the text of a physical line. A parameter written twice keeps its place
and takes the later values, and the first malformed segment refuses the line.
-/

namespace MigrationDbml

/-- A line that has been read. -/
structure Line where
  head : Text
  name : Text
  params : Params
deriving DecidableEq

namespace Line

/-- A line without parameters. -/
def ofLead (l : Lead) : Line := ⟨l.head, l.name, ∅⟩

/-- The line with `values` written under `name`. -/
def withParam (l : Line) (name : Text) (values : List Text) : Line :=
  { l with params := l.params.insert name values }

/-- The kind of the line. -/
def statement (l : Line) : Statement := Statement.ofHead l.head

/-- Adds the parameters of the segments to a line, the first of which starts at `offset`. -/
def addSegments (number : Nat) : Nat → List Text → Line → Except Malformed Line
  | _, [], l => .ok l
  | offset, s :: ss, l =>
    match Param.parse number s with
    | .error m => .error (m.shift offset)
    | .ok p => addSegments number (offset + Text.byteLength s + 1) ss (l.withParam p.name p.values)

/-- The pieces between the commas of a text. There is always a first one. -/
def segments (t : Text) : List Text := t.splitOn ','

/-- Reads the text of the line with the given number. Spans are relative to the text. -/
def parse (number : Nat) (t : Text) : Except Malformed Line :=
  let first := (segments t).headD []
  addSegments number (Text.byteLength first + 1) (segments t).tail (ofLead (Lead.ofText first))

/-- An object of the head, the name and the parameters. -/
def toJson (l : Line) : Json :=
  .obj [("head".toList, .str l.head), ("name".toList, .str l.name),
    ("params".toList, l.params.toJson)]

end Line

end MigrationDbml
