import MigrationDbml.Literal
import MigrationDbml.Span

/-!
# Segments

The commas of a line cut it into segments, also where they stand in quotes. The
first one is the `Lead`: a head word and a name. Each later one is a `Param`: a
name, a colon and values. Both skip leading blanks.

A parameter's name starts with any character that is not blank and runs up to a
blank or a colon. Only blanks may stand between it and the colon; another
character there makes the segment malformed. Without a colon there are no values.
-/

namespace MigrationDbml

/-- The first segment of a line. -/
structure Lead where
  head : Text
  name : Text
deriving DecidableEq

/-- Reads a first segment: its first word, and the value of the literal after it, if any. -/
def Lead.ofText (t : Text) : Lead :=
  let t := Text.trimStart t
  let name := (Literal.scan (Text.afterWord t)).head?.map Literal.value
  ⟨Text.word t, name.getD []⟩

/-- A later segment of a line. -/
structure Param where
  name : Text
  values : List Text
deriving DecidableEq

namespace Param

/-- Whether a character continues a parameter's name. -/
def isNameChar (c : Char) : Bool := !Text.isBlank c && c != ':'

/-- Whether a literal counts as a value. One without its closing quote has to hold something. -/
def counts (l : Literal) : Bool := l.closed || !l.value.isEmpty

/-- The values written in a text. -/
def valuesOf (t : Text) : List Text := ((Literal.scan t).filter counts).map Literal.value

/-- Reads a later segment of the line with the given number. -/
def parse (line : Nat) (t : Text) : Except Malformed Param :=
  match Text.trimStart t with
  | [] => .ok ⟨[], []⟩
  | c :: r =>
    let name := c :: r.takeWhile isNameChar
    match Text.trimStart (r.dropWhile isNameChar) with
    | [] => .ok ⟨name, []⟩
    | found :: rest =>
      if found = ':' then .ok ⟨name, valuesOf rest⟩
      else
        let start := Text.byteLength t - Text.byteLength (found :: rest)
        .error ⟨line, name, found, ⟨start, start + found.utf8Size⟩⟩

end Param

end MigrationDbml
