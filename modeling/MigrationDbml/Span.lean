import MigrationDbml.Text.Basic

/-!
# Spans and malformed parameters

A `Span` is a range of byte offsets into a text. A `Malformed` is the one way a
source can be refused: a parameter name followed by something other than a
colon. Its span is relative to the text that was read, and `shift` moves it
onto a text that starts earlier.

* `Span.shift_shift`, `Malformed.shift_shift`: moving twice is moving by the sum.
-/

namespace MigrationDbml

/-- Byte offsets from `start` up to, but not including, `stop`. -/
structure Span where
  start : Nat
  stop : Nat
deriving DecidableEq

namespace Span

/-- The number of bytes covered, 0 when `stop` lies before `start`. -/
def length (s : Span) : Nat := s.stop - s.start

/-- Whether no byte is covered. -/
def isEmpty (s : Span) : Bool := s.length == 0

/-- The span `offset` bytes further right. -/
def shift (offset : Nat) (s : Span) : Span := ⟨s.start + offset, s.stop + offset⟩

/-- The two offsets with two dots between them. -/
def text (s : Span) : Text := Text.ofNat s.start ++ ['.', '.'] ++ Text.ofNat s.stop

theorem shift_shift (m n : Nat) (s : Span) : (s.shift m).shift n = s.shift (m + n) := by
  simp [shift, Nat.add_assoc]

end Span

/-- A parameter name that is followed by `found` where a colon has to stand. -/
structure Malformed where
  line : Nat
  name : Text
  found : Char
  span : Span
deriving DecidableEq

namespace Malformed

/-- The same finding, in a text that starts `offset` bytes earlier. -/
def shift (offset : Nat) (m : Malformed) : Malformed := { m with span := m.span.shift offset }

/-- The finding in one sentence. -/
def message (m : Malformed) : Text :=
  "malformed parameter '".toList ++ m.name ++ "' on line ".toList ++ Text.ofNat m.line
    ++ ": expected ':', found '".toList ++ [m.found, '\'']

theorem shift_shift (i j : Nat) (m : Malformed) : (m.shift i).shift j = m.shift (i + j) := by
  simp [shift, Span.shift_shift]

end Malformed

end MigrationDbml
