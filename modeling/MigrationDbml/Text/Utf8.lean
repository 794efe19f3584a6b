import MigrationDbml.Text.Basic

/-!
# UTF-8

`encode` writes a text as bytes. `decode` reads any bytes: a maximal run of
bytes that starts a character and cannot finish it stands for one replacement
character, and so does each byte that can start none.

A character under way is a `Pending`: its value so far, how many bytes it still
needs, and the range the next one has to be in. The range excludes overlong
forms, surrogates and values past U+10FFFF at the second byte.

* `encode_append`: texts are written one behind the other.
-/

namespace MigrationDbml

abbrev Bytes := List UInt8

namespace Utf8

/-- The UTF-8 form of a text. -/
def encode (t : Text) : Bytes := t.flatMap String.utf8EncodeChar

theorem encode_cons (c : Char) (t : Text) : encode (c :: t) = String.utf8EncodeChar c ++ encode t :=
  List.flatMap_cons

theorem encode_append (s t : Text) : encode (s ++ t) = encode s ++ encode t := List.flatMap_append

/-- The character that stands for bytes which are no UTF-8. -/
def replacement : Char := '\uFFFD'

/-- A character of which at least one byte is read and at least one is missing. -/
structure Pending where
  value : Nat
  missing : Nat
  low : Nat
  high : Nat

/-- Reads a byte where a character starts: the character it is, or the one it begins. -/
def start (b : Nat) : Text × Option Pending :=
  if b < 0x80 then ([Char.ofNat b], none)
  else if b < 0xC2 then ([replacement], none)
  else if b < 0xE0 then ([], some ⟨b - 0xC0, 1, 0x80, 0xBF⟩)
  else if b = 0xE0 then ([], some ⟨0, 2, 0xA0, 0xBF⟩)
  else if b = 0xED then ([], some ⟨0xD, 2, 0x80, 0x9F⟩)
  else if b < 0xF0 then ([], some ⟨b - 0xE0, 2, 0x80, 0xBF⟩)
  else if b = 0xF0 then ([], some ⟨0, 3, 0x90, 0xBF⟩)
  else if b < 0xF4 then ([], some ⟨b - 0xF0, 3, 0x80, 0xBF⟩)
  else if b = 0xF4 then ([], some ⟨4, 3, 0x80, 0x8F⟩)
  else ([replacement], none)

/-- Reads a byte after `p`: the characters this settles and the one then under way. -/
def step (p : Option Pending) (b : Nat) : Text × Option Pending :=
  match p with
  | none => start b
  | some p =>
    if p.low ≤ b ∧ b ≤ p.high then
      let value := p.value * 0x40 + (b - 0x80)
      if p.missing ≤ 1 then ([Char.ofNat value], none)
      else ([], some ⟨value, p.missing - 1, 0x80, 0xBF⟩)
    else
      let (settled, next) := start b
      (replacement :: settled, next)

/-- Reads all bytes, with `acc` the characters before them in reverse. -/
def decodeFrom (acc : Text) : Option Pending → Bytes → Text
  | none, [] => acc.reverse
  | some _, [] => (replacement :: acc).reverse
  | p, b :: bs =>
    let r := step p b.toNat
    decodeFrom (r.1.reverse ++ acc) r.2 bs

/-- The text that bytes stand for, with a replacement character for each part that is no UTF-8. -/
def decode (bs : Bytes) : Text := decodeFrom [] none bs

end Utf8

end MigrationDbml
