import MigrationDbml.Text.Basic

/-!
# Column types

The DBML types a column can have, and the keywords of a migration that stand
for them.

* `ColumnType.ofKeyword?_keyword`: each type is found under its keyword.
-/

namespace MigrationDbml

/-- A DBML column type. -/
inductive ColumnType where
  | integer
  | varchar
  | text
  | datetime
  | date
  | boolean
  | blob
deriving DecidableEq

namespace ColumnType

/-- The migration keyword that stands for a type. -/
def keyword : ColumnType → Text
  | integer => "t.integer".toList
  | varchar => "t.string".toList
  | text => "t.text".toList
  | datetime => "t.datetime".toList
  | date => "t.date".toList
  | boolean => "t.boolean".toList
  | blob => "t.binary".toList

/-- The spelling of a type in DBML. -/
def name : ColumnType → Text
  | integer => "integer".toList
  | varchar => "varchar".toList
  | text => "text".toList
  | datetime => "datetime".toList
  | date => "date".toList
  | boolean => "boolean".toList
  | blob => "blob".toList

/-- Every type once. -/
def all : List ColumnType := [integer, varchar, text, datetime, date, boolean, blob]

/-- The type a keyword stands for. -/
def ofKeyword? (k : Text) : Option ColumnType := all.find? fun t => t.keyword == k

/-- Whether a literal default of this type is written in quotes. -/
def quotesDefaults (t : ColumnType) : Bool := t == varchar

theorem ofKeyword?_keyword (t : ColumnType) : ofKeyword? t.keyword = some t := by
  cases t <;> decide

end ColumnType

end MigrationDbml
