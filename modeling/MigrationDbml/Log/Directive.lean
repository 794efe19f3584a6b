import MigrationDbml.Log.Event
import MigrationDbml.Log.FieldFilter
import MigrationDbml.Text.Slice

/-!
# Directives

One piece of a log setting: `origin[span{field=value}]=level`, with parts left
out, or a level alone. A directive opens the log for the events it applies to.

The signs that separate the parts are looked for in the piece without the blanks
around it, but the parts are cut out of the whole piece at the same offsets. So a
blank at the end belongs to the last part, and blanks at the start shift every
part to the left.
-/

namespace MigrationDbml.Log

/-- How far the log is open, and for which events. -/
structure Directive where
  /-- What the origin of an event has to start with. -/
  origin : Option Text
  /-- The span in which an event has to happen. -/
  span : Option Text
  field : Option FieldFilter
  openness : Openness
deriving DecidableEq

namespace Directive

/-- The directive that opens the log so far for all events. -/
def forAll (o : Openness) : Directive := ⟨none, none, none, o⟩

/-- Whether a character can start a directive that starts with a word. -/
def startsWord (c : Char) : Bool := c == '-' || c == ':' || c == '_' || Text.isAlphanumeric c

/-- Reads the level at the end of a piece, from a byte on. An empty one opens the log for all. -/
def readLevel? (piece : Text) (start : Nat) : Option Openness :=
  match Text.sliceFrom? start piece with
  | none => none
  | some [] => some (some .trace)
  | some t => Openness.ofWord? t

/-- Reads what follows the closing bracket: nothing or a level. -/
def readEnd? (piece : Text) (origin span : Option Text) (field : Option FieldFilter) (start : Nat) :
    Text → Option Directive
  | [] => some ⟨origin, span, field, some .trace⟩
  | '=' :: _ => (readLevel? piece (start + 1)).map (⟨origin, span, field, ·⟩)
  | _ => none

/-- Reads what follows an opening brace: one field, and the closing bracket. -/
def readField? (piece : Text) (origin span : Option Text) (start : Nat) (t : Text) :
    Option Directive :=
  let field := t.takeWhile (· ≠ '\x7d')
  match t.dropWhile (· ≠ '\x7d') with
  | _ :: ']' :: rest =>
    let stop := start + Text.byteLength field
    if field = [] then none
    else (Text.slice? start stop piece).bind FieldFilter.parse? |>.bind fun f =>
      readEnd? piece origin span (some f) (stop + 2) rest
  | _ => none

/-- Reads what follows an opening bracket: a span, and a field if there is one. -/
def readSpan? (piece : Text) (origin : Option Text) (start : Nat) (t : Text) : Option Directive :=
  let name := t.takeWhile fun c => c ≠ ']' ∧ c ≠ '\x7b'
  let stop := start + Text.byteLength name
  match t.dropWhile fun c => c ≠ ']' ∧ c ≠ '\x7b' with
  | [] => none
  | c :: rest =>
    (Text.slice? start stop piece).bind fun span =>
      if c = ']' then readEnd? piece origin (some span) none (stop + 1) rest
      else readField? piece origin (if span = [] then none else some span) (stop + 1) rest

/-- Reads a piece that starts with a word: a level alone, or an origin. -/
def readWord? (piece t : Text) : Option Directive :=
  let stop := Text.byteLength (t.takeWhile fun c => c ≠ '=' ∧ c ≠ '[')
  match t.dropWhile fun c => c ≠ '=' ∧ c ≠ '[' with
  | [] =>
    match Openness.ofWord? piece with
    | some o => some (forAll o)
    | none => some ⟨some piece, none, none, some .trace⟩
  | c :: rest =>
    (Text.slice? 0 stop piece).bind fun origin =>
      if c = '=' then (readLevel? piece (stop + 1)).map (⟨some origin, none, none, ·⟩)
      else readSpan? piece (some origin) (stop + 1) rest

/-- Reads a piece of a setting. -/
def parse? (piece : Text) : Option Directive :=
  match Text.trim piece with
  | [] => none
  | '[' :: t => readSpan? piece none 1 t
  | c :: t => if startsWord c then readWord? piece (c :: t) else none

/-- Whether a directive has a say about an event. Events happen in no span and show no value. -/
def appliesTo (d : Directive) (e : Event) : Bool :=
  d.span.isNone
    && d.origin.all (List.isPrefixOf · e.origin)
    && d.field.all fun f => !f.valued && e.fieldNames.contains f.name

/-- Whether `d` is at least as specific as `b`: by the length of the origin, then by the field. -/
def isAsSpecificAs (d b : Directive) : Bool :=
  let length (d : Directive) : Nat := d.origin.elim 0 fun o => o.length + 1
  let fieldName (d : Directive) : Text := d.field.elim [] FieldFilter.name
  if length d ≠ length b then decide (length b < length d)
  else if d.field.isSome ≠ b.field.isSome then d.field.isSome
  else !decide (fieldName d < fieldName b)

end Directive

end MigrationDbml.Log
