import MigrationDbml.Json.Basic

/-!
# Warnings

A warning says that a line has no faithful form in DBML and was converted as
well as it could be. It cites the line's number and text.
-/

namespace MigrationDbml

/-- What could not be converted faithfully. -/
inductive WarningKind where
  /-- A table's `id` parameter with more than one value. -/
  | unsupportedId
  /-- A column keyword that stands for no type. -/
  | unsupportedType (keyword : Text)
deriving DecidableEq

/-- A line that was not converted faithfully. -/
structure Warning where
  line : Nat
  kind : WarningKind
  sourceLine : Text
deriving DecidableEq

/-- The kind in words. -/
def WarningKind.text : WarningKind → Text
  | unsupportedId => "unsupported id feature".toList
  | unsupportedType keyword => "unsupported type <".toList ++ keyword ++ ['>']

/-- The word for a kind in JSON. -/
def WarningKind.tag : WarningKind → Text
  | unsupportedId => "unsupported_id_feature".toList
  | unsupportedType _ => "unsupported_type".toList

/-- The keyword a kind is about, if it is about one. -/
def WarningKind.keyword? : WarningKind → Option Text
  | unsupportedId => none
  | unsupportedType keyword => some keyword

namespace Warning

/-- The warning in one line: number, kind and the source line without blanks around it. -/
def text (w : Warning) : Text :=
  "line ".toList ++ Text.ofNat w.line ++ ": ".toList ++ w.kind.text ++ ": ".toList
    ++ Text.trim w.sourceLine

/-- The member for the keyword, if there is one. -/
def keywordMember (w : Warning) : List (Text × Json) :=
  (w.kind.keyword?.map fun k => ("keyword".toList, Json.str k)).toList

/-- An object of the line number, the kind, its keyword and the source line, in this order. -/
def toJson (w : Warning) : Json :=
  .obj ([("line".toList, .num w.line), ("kind".toList, .str w.kind.tag)] ++ w.keywordMember
    ++ [("source_line".toList, .str w.sourceLine)])

/-- The object with its members in the order of their names, as a report lists it. -/
def toSortedJson (w : Warning) : Json :=
  .obj (w.keywordMember ++ [("kind".toList, .str w.kind.tag), ("line".toList, .num w.line),
    ("source_line".toList, .str w.sourceLine)])

end Warning

end MigrationDbml
