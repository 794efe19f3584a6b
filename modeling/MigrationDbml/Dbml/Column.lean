import MigrationDbml.Line.Basic
import MigrationDbml.Dbml.Quoted

/-!
# Columns in DBML

A column of a known type, as DBML states it: name, type, limit and settings. The
settings stand in brackets in a fixed order, whatever the order of the
parameters: the note, `not null`, the default.

A parameter without values counts as absent.
-/

namespace MigrationDbml.Dbml

/-- The default of a column. -/
inductive Default where
  /-- An expression for the database to evaluate, in backticks. -/
  | expression (t : Text)
  /-- A text, in quotes. -/
  | quoted (t : Text)
  /-- A value as the source has it. -/
  | verbatim (t : Text)
deriving DecidableEq

namespace Default

/-- The default that values give a column: `-> { "e" }` is an expression, and of anything else the
first value counts. -/
def ofValues? (type : ColumnType) : List Text → Option Default
  | [] => none
  | ['-', '>'] :: _ :: e :: _ => some (expression e)
  | first :: _ => some (if type.quotesDefaults then quoted first else verbatim first)

/-- The default as DBML writes it. -/
def text : Default → Text
  | expression t => '\x60' :: t ++ ['\x60']
  | quoted t => Dbml.quoted t
  | verbatim t => t

end Default

/-- A column of a known type. -/
structure Column where
  name : Text
  type : ColumnType
  limit : Option Text
  note : Option Text
  notNull : Bool
  default : Option Default
deriving DecidableEq

namespace Column

/-- The column that a line states. -/
def ofLine (type : ColumnType) (l : Line) : Column where
  name := l.name
  type := type
  limit := l.params.first? "limit".toList
  note := l.params.first? "comment".toList
  notNull := l.params.first? "null".toList = some "false".toList
  default := (l.params.get? "default".toList).bind (Default.ofValues? type)

/-- The settings of a column, in their fixed order. -/
def settings (c : Column) : List Text :=
  (c.note.map fun t => "note: ".toList ++ Dbml.quoted t).toList
    ++ (if c.notNull then ["not null".toList] else [])
    ++ (c.default.map fun d => "default: ".toList ++ d.text).toList

/-- The limit of a column in parentheses, if it has one. -/
def limitText (c : Column) : Text := (c.limit.map fun t => '(' :: t ++ [')']).getD []

/-- The settings of a column in brackets, if it has any. -/
def settingsText (c : Column) : Text :=
  if c.settings = [] then []
  else ' ' :: '[' :: [',', ' '].intercalate c.settings ++ [']']

/-- The column as a line of DBML. -/
def text (c : Column) : Text :=
  ' ' :: ' ' :: c.name ++ ' ' :: c.type.name ++ c.limitText ++ c.settingsText

end Column

end MigrationDbml.Dbml
