import MigrationDbml.Dbml.Column
import MigrationDbml.Warning

/-!
# What a line becomes

`Emission.ofLine` gives the lines of DBML that one line of a migration becomes,
and the warnings it raises. A table opens, and its `id` parameter may add a
column; a table closes; a column becomes one line; nothing else leaves a trace.

A line with no faithful form is emitted as well as possible, with a comment that
cites the source, and raises a warning.
-/

namespace MigrationDbml.Dbml

/-- Lines of DBML, without line ends, and the warnings raised with them. -/
structure Emission where
  lines : List Text
  warnings : List Warning
deriving DecidableEq

/-- The end of a comment that refers to the source. -/
def reference (number : Nat) (sourceLine : Text) : Text :=
  " Please check the original source: [".toList ++ Text.ofNat number ++ [']', ' '] ++ sourceLine

namespace Emission

/-- Nothing. -/
def empty : Emission := ⟨[], []⟩

/-- Whether no line is emitted. -/
def isEmpty (e : Emission) : Bool := e.lines.isEmpty

/-- The line that opens a table. -/
def opening (name : Text) : Text := "Table \"".toList ++ name ++ ['"', ' ', '\x7b']

/-- The column that the values of an `id` parameter give a table. -/
def ofId (number : Nat) (sourceLine : Text) (values : List Text) : Emission :=
  if values.head? = some ":integer".toList then ⟨["  id unsigned [pk, increment]".toList], []⟩
  else if 1 < values.length then
    ⟨["  id varchar(40) [pk] // Unsupported feature.".toList ++ reference number sourceLine],
     [⟨number, .unsupportedId, sourceLine⟩]⟩
  else empty

/-- A table that opens, and its `id` column if it states one. -/
def ofTable (number : Nat) (sourceLine : Text) (l : Line) : Emission :=
  let id := ((l.params.get? "id".toList).map (ofId number sourceLine)).getD empty
  ⟨opening l.name :: id.lines, id.warnings⟩

/-- A column of a type that DBML does not have. -/
def ofUnknownColumn (number : Nat) (sourceLine : Text) (keyword : Text) (l : Line) : Emission :=
  ⟨[' ' :: ' ' :: l.name ++ " undefined // Unsupported type <".toList ++ keyword
      ++ ['>', '.'] ++ reference number sourceLine],
   [⟨number, .unsupportedType keyword, sourceLine⟩]⟩

/-- What a line becomes. Its number and text serve only to cite it. -/
def ofLine (number : Nat) (sourceLine : Text) (l : Line) : Emission :=
  match l.statement with
  | .openTable => ofTable number sourceLine l
  | .closeTable => ⟨[['\x7d']], []⟩
  | .column keyword =>
    match ColumnType.ofKeyword? keyword with
    | some type => ⟨[(Column.ofLine type l).text], []⟩
    | none => ofUnknownColumn number sourceLine keyword l
  | .unrecognized => empty

end Emission

end MigrationDbml.Dbml
