import MigrationDbml.Text.Basic

/-!
# Quoted texts in DBML

A text in DBML stands in single quotes, with a backslash before each single
quote inside it. No other character is escaped.
-/

namespace MigrationDbml.Dbml

/-- The text with a backslash before each single quote. -/
def escape (t : Text) : Text := t.flatMap fun c => if c = '\'' then ['\\', c] else [c]

/-- The text as a DBML literal. -/
def quoted (t : Text) : Text := '\'' :: escape t ++ ['\'']

end MigrationDbml.Dbml
