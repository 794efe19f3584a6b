import MigrationDbml.Text.Basic

/-!
# JSON values and their texts

The JSON that reports are made of: strings, natural numbers, arrays and objects
whose members keep their order. `compact` writes a value without blanks,
`pretty` with one member or item a line, indented by two spaces a level.

A string escapes the quote, the backslash and the characters below U+0020, and
writes every other character as it is.
-/

namespace MigrationDbml

/-- A JSON value without fractions, negative numbers, booleans and null. -/
inductive Json where
  | str (t : Text)
  | num (n : Nat)
  | arr (items : List Json)
  | obj (members : List (Text × Json))

namespace Json

/-- How a character is written inside a string. -/
def escape (c : Char) : Text :=
  if c = '"' then ['\\', '"']
  else if c = '\\' then ['\\', '\\']
  else if c = '\x08' then ['\\', 'b']
  else if c = '\x0c' then ['\\', 'f']
  else if c = '\n' then ['\\', 'n']
  else if c = '\r' then ['\\', 'r']
  else if c = '\t' then ['\\', 't']
  else if c.toNat < 0x20 then
    ['\\', 'u', '0', '0', Nat.digitChar (c.toNat / 16), Nat.digitChar (c.toNat % 16)]
  else [c]

/-- A text as a JSON string, quotes included. -/
def quoted (t : Text) : Text := '"' :: t.flatMap escape ++ ['"']

mutual

/-- The text of a value without any blanks. -/
def compact : Json → Text
  | str t => quoted t
  | num n => Text.ofNat n
  | arr items => '[' :: compactItems items ++ [']']
  | obj members => '\x7b' :: compactMembers members ++ ['\x7d']

/-- The items of an array, with commas between them. -/
def compactItems : List Json → Text
  | [] => []
  | [v] => compact v
  | v :: vs => compact v ++ ',' :: compactItems vs

/-- The members of an object, with commas between them. -/
def compactMembers : List (Text × Json) → Text
  | [] => []
  | [m] => quoted m.1 ++ ':' :: compact m.2
  | m :: ms => quoted m.1 ++ ':' :: compact m.2 ++ ',' :: compactMembers ms

end

/-- A line break and the indent of the given level. -/
def newline (level : Nat) : Text := '\n' :: List.replicate (2 * level) ' '

mutual

/-- The text of a value that stands at the given level, one item or member a line. -/
def prettyAt (level : Nat) : Json → Text
  | str t => quoted t
  | num n => Text.ofNat n
  | arr [] => ['[', ']']
  | arr (v :: vs) => '[' :: prettyItems (level + 1) (v :: vs) ++ newline level ++ [']']
  | obj [] => ['\x7b', '\x7d']
  | obj (m :: ms) => '\x7b' :: prettyMembers (level + 1) (m :: ms) ++ newline level ++ ['\x7d']

/-- The items of an array, each on a line of the given level. -/
def prettyItems (level : Nat) : List Json → Text
  | [] => []
  | [v] => newline level ++ prettyAt level v
  | v :: vs => newline level ++ prettyAt level v ++ ',' :: prettyItems level vs

/-- The members of an object, each on a line of the given level. -/
def prettyMembers (level : Nat) : List (Text × Json) → Text
  | [] => []
  | [m] => newline level ++ quoted m.1 ++ ':' :: ' ' :: prettyAt level m.2
  | m :: ms =>
    newline level ++ quoted m.1 ++ ':' :: ' ' :: prettyAt level m.2 ++ ',' ::
      prettyMembers level ms

end

/-- The text of a value, one item or member a line. -/
def pretty (v : Json) : Text := prettyAt 0 v

end Json

end MigrationDbml
