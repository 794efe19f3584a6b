import MigrationDbml.ColumnType

/-!
# Statements

What the head of a line introduces: a table, its end, a column, or nothing that
is converted. A column's head is `t.` and one or more ASCII letters, digits or
underscores.

* `Statement.ofHead_keyword`: the keyword of a column type makes a column of that type.
-/

namespace MigrationDbml

/-- The kind of a line. -/
inductive Statement where
  | openTable
  | closeTable
  | column (keyword : Text)
  | unrecognized
deriving DecidableEq

namespace Statement

/-- The letters, digits and underscore a column's keyword may have after its dot. -/
def isKeywordChar (c : Char) : Bool := c.isAlphanum || c == '_'

/-- Whether a head has the form of a column's keyword. -/
def isColumnKeyword : Text → Bool
  | 't' :: '.' :: rest => !rest.isEmpty && rest.all isKeywordChar
  | _ => false

/-- The kind of line a head introduces. -/
def ofHead (head : Text) : Statement :=
  if head = "create_table".toList then openTable
  else if head = "end".toList then closeTable
  else if isColumnKeyword head then column head
  else unrecognized

/-- The column type of a column whose keyword is known. -/
def columnType? : Statement → Option ColumnType
  | column keyword => ColumnType.ofKeyword? keyword
  | _ => none

/-- How a statement is named in the log. -/
def text : Statement → Text
  | openTable => "create_table".toList
  | closeTable => "end".toList
  | column keyword => "column(".toList ++ keyword ++ [')']
  | unrecognized => "unrecognized".toList

theorem ofHead_keyword (t : ColumnType) : ofHead t.keyword = column t.keyword := by
  cases t <;> decide

end Statement

end MigrationDbml
