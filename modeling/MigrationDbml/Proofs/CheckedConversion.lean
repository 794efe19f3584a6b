import Mathlib.Algebra.Group.Nat.Defs
import MigrationDbml.Proofs.CheckedSegments
import MigrationDbml.Proofs.Sources

/-!
# Converting checked bytes

The second reader goes on to lines and sources. It keeps a running offset into the line and one into
the source, moves each past a piece and the separator behind it (`advance`), and adds them to the span
of a malformed parameter. An offset that is more than 1 behind the end of its text is a fault of its own.

A running offset and the pieces still to come, each with its separator, make up no more than the text
and one more separator. So every sum on the way is at most one more than the length of the source.

* `addSegments_encode`, `line_encode`: the offset into a line.
* `readPieces_encode`, `convert_encode`: the offset into a source.
* `checked_convert_eq_ok`: no slice, offset or sum of a conversion goes wrong.
-/

namespace MigrationDbml

namespace Checked

open Text Utf8 Source

/-- An offset into a text, which may be 1 behind its end. -/
def within (text : Bytes) (offset : Nat) : Except Fault Nat :=
  if offset ≤ text.length + 1 then .ok offset else .error .outside

/-- Moves an offset into a text past a piece of the text and the separator behind the piece. -/
def advance (top : Nat) (text : Bytes) (offset : Nat) (piece : Bytes) : Except Fault Nat := do
  let length ← add top piece.length 1
  let next ← add top offset length
  within text next

/-- The same finding, in a text that starts `offset` bytes earlier. -/
def shift (top offset : Nat) (m : Malformed) : Except Fault Malformed := do
  let start ← add top m.span.start offset
  let stop ← add top m.span.stop offset
  return { m with span := ⟨start, stop⟩ }

/-- The pieces between separators. There is always a first one. -/
def split (c : Char) (bs : Bytes) : List Bytes := ((decode bs).splitOn c).map encode

/-- The text without a carriage return at its end, if it has one. -/
def dropReturn (bs : Bytes) : Bytes := encode (Source.dropReturn (decode bs))

/-- What follows the byte order mark, if there is one. -/
def afterMark? (bs : Bytes) : Option Bytes :=
  if (decode bs).head? = some mark then some (encode (decode bs).tail) else none

variable {top number offset : Nat} {t source : Text} {m : Malformed}

theorem within_of_le (h : offset ≤ byteLength t + 1) : within (encode t) offset = .ok offset := by
  unfold within
  rw [length_encode, if_pos h]

theorem advance_encode {p : Text} (h : offset + byteLength p + 1 ≤ byteLength t + 1)
    (ht : byteLength t + 1 ≤ top) :
    advance top (encode t) offset (encode p) = .ok (offset + byteLength p + 1) := by
  rw [Nat.add_assoc] at h
  unfold advance
  rw [length_encode, add_of_le (by omega), ok_bind, add_of_le (by omega), ok_bind, within_of_le h,
    Nat.add_assoc]

theorem shift_of_le (hm : m.span.start ≤ m.span.stop) (h : m.span.stop + offset ≤ top) :
    shift top offset m = .ok (m.shift offset) := by
  unfold shift
  rw [add_of_le (by omega), ok_bind, add_of_le h, ok_bind]
  rfl

theorem split_encode (c : Char) (t : Text) : split c (encode t) = (t.splitOn c).map encode := by
  rw [split, decode_encode]

theorem dropReturn_encode (t : Text) : dropReturn (encode t) = encode (Source.dropReturn t) := by
  rw [dropReturn, decode_encode]

theorem byteLength_dropReturn_le (t : Text) : byteLength (Source.dropReturn t) ≤ byteLength t := by
  obtain ⟨r, hr⟩ := exists_dropReturn_append t
  have hlen := congrArg byteLength hr
  rw [byteLength_append] at hlen
  omega

/-! ### Lines -/

/-- The offset of the second segment of a line, or of the end of the line if there is none. -/
def secondOffset (top : Nat) (raw : Bytes) : Except Fault Nat :=
  match find? (· = ',') raw with
  | some i => add top i 1
  | none => return raw.length

/-- Adds the parameters of the segments to a line, the first of which starts at `offset`. -/
def addSegments (top number : Nat) (raw : Bytes) :
    Nat → List Bytes → Line → Except Fault (Except Malformed Line)
  | _, [], l => return .ok l
  | offset, s :: ss, l => do
    match ← param top number s with
    | .error m =>
      let shifted ← shift top offset m
      return .error shifted
    | .ok p =>
      let next ← advance top raw offset s
      addSegments top number raw next ss (l.withParam p.name p.values)

/-- Reads the text of the line with the given number. -/
def line (top number : Nat) (raw : Bytes) : Except Fault (Except Malformed Line) := do
  let segments := split ',' raw
  let first ← lead (segments.headD [])
  let second ← secondOffset top raw
  let offset ← within raw second
  addSegments top number raw offset segments.tail (Line.ofLead first)

/-- What is found on a segment is within it. -/
theorem span_le_of_param (h : Param.parse number t = .error m) :
    m.span.start ≤ m.span.stop ∧ m.span.stop ≤ byteLength t := by
  obtain ⟨b, rfl, rfl⟩ := Param.parse_eq_error_iff.1 h
  have hlen : byteLength b.segment = byteLength b.text + (b.found.utf8Size + byteLength b.rest) := by
    rw [Param.Break.segment, byteLength_append, byteLength_cons]
  simp only [Param.Break.malformed]
  omega

/-- **The offset into a line** and the segments still to come stay within the line. -/
theorem addSegments_encode {ss : List Text} {l : Line} (ht : byteLength t + 1 ≤ top)
    (h : offset + byteLength (ended ',' ss) ≤ byteLength t + 1) :
    addSegments top number (encode t) offset (ss.map encode) l =
      .ok (Line.addSegments number offset ss l) := by
  induction ss generalizing offset l with
  | nil => rfl
  | cons s ss ih =>
    rw [byteLength_ended_cons rfl] at h
    have hparam : param top number (encode s) = .ok (Param.parse number s) :=
      param_encode number (by omega)
    rw [List.map_cons, addSegments, hparam, ok_bind, Line.addSegments]
    cases hp : Param.parse number s with
    | error m =>
      obtain ⟨hm, hstop⟩ := span_le_of_param hp
      simp only
      rw [shift_of_le hm (by omega)]
      rfl
    | ok p =>
      simp only
      rw [advance_encode (by omega) ht, ok_bind, ih (by omega)]

theorem secondOffset_of_one {first : Text} (h : Line.segments t = [first]) :
    secondOffset top (encode t) = .ok (byteLength t) := by
  have htext : t = ended ',' [] ++ first ++ led ',' [] := eq_of_splitOn h
  rw [ended_nil, led_nil, List.nil_append, List.append_nil] at htext
  have hfirst : ',' ∉ first :=
    Line.comma_not_mem_of_mem_segments (t := t) (by rw [h]; exact List.mem_cons_self)
  rw [← htext] at hfirst
  unfold secondOffset
  rw [find?_eq_none (decide_eq_of_not_mem hfirst), length_encode]
  rfl

theorem secondOffset_of_many {first s : Text} {ss : List Text} (h : Line.segments t = first :: s :: ss)
    (ht : byteLength t + 1 ≤ top) : secondOffset top (encode t) = .ok (byteLength first + 1) := by
  have htext : t = ended ',' [] ++ first ++ led ',' (s :: ss) := eq_of_splitOn h
  rw [ended_nil, List.nil_append, led_cons] at htext
  have hfirst : ',' ∉ first :=
    Line.comma_not_mem_of_mem_segments (t := t) (by rw [h]; exact List.mem_cons_self)
  unfold secondOffset
  rw [htext, byteLength_append] at ht
  rw [htext, find?_append_cons (decide_eq_of_not_mem hfirst) (by decide)]
  exact add_of_le (by omega)

/-- **Reading a line does not go wrong**, and gives what the text is read as. -/
theorem line_encode (number : Nat) (ht : byteLength t + 1 ≤ top) :
    line top number (encode t) = .ok (Line.parse number t) := by
  obtain ⟨first, rest, hs⟩ := Line.exists_segments t
  have hsplit : t.splitOn ',' = first :: rest := hs
  have hlen := Line.byteLength_ended_segments t
  rw [hs, byteLength_ended_cons rfl] at hlen
  unfold line Line.parse
  rw [split_encode, hsplit, hs]
  simp only [List.map_cons, List.headD_cons, List.tail_cons, lead_encode, ok_bind]
  cases rest with
  | nil =>
    -- there is no comma, and no segment at the offset
    rw [secondOffset_of_one hs, ok_bind, within_of_le (by omega)]
    rfl
  | cons s ss =>
    rw [secondOffset_of_many hs ht, ok_bind, within_of_le (by omega), ok_bind,
      addSegments_encode ht (by omega)]

/-! ### Sources -/

/-- Reads the pieces of a source, behind what was read on the pieces before them. -/
def readPieces (top : Nat) (source : Bytes) :
    Nat → Nat → List Bytes → List Reading → Except Fault (Except Malformed (List Reading))
  | _, _, [], rs => return .ok rs
  | number, offset, piece :: pieces, rs => do
    let raw := dropReturn piece
    match ← line top number raw with
    | .error m =>
      let shifted ← shift top offset m
      return .error shifted
    | .ok l =>
      let next ← advance top source offset piece
      readPieces top source (number + 1) next pieces (rs ++ [⟨⟨number, offset, decode raw⟩, l⟩])

/-- Converts a source. -/
def convert (top : Nat) (source : Bytes) : Except Fault (Except Malformed Conversion) := do
  let (body, start) := match afterMark? source with
    | some rest => (rest, mark.utf8Size)
    | none => (source, 0)
  let offset ← within source start
  match ← readPieces top source 1 offset (split '\n' body) [] with
  | .error m => return .error m
  | .ok rs => return .ok (Conversion.ofReadings (lineCount (decode source)) rs)

/-- What is read on physical lines, or else the first malformed parameter. -/
def readAll (ps : List PhysicalLine) : Except Malformed (List Reading) :=
  match Source.read ps with
  | (rs, none) => .ok rs
  | (_, some m) => .error m

theorem convert_eq_map_readAll (source : Text) : MigrationDbml.convert source =
    (readAll (physicalLines source)).map (Conversion.ofReadings (lineCount source)) := by
  unfold MigrationDbml.convert transcribe readAll
  generalize Source.read (physicalLines source) = r
  obtain ⟨rs, _ | m⟩ := r
  · rfl
  · rfl

/-- What is found on a line is within it. -/
theorem span_le_of_line (h : Line.parse number t = .error m) :
    m.span.start ≤ m.span.stop ∧ m.span.stop ≤ byteLength t := by
  obtain ⟨before, b, hat, rfl⟩ := Line.parse_eq_error_iff.1 h
  obtain ⟨after, ht⟩ := hat.text_eq
  have hlen := congrArg byteLength ht
  rw [byteLength_append, byteLength_append, byteLength_cons] at hlen
  simp only [Malformed.shift, Span.shift, Param.Break.malformed]
  omega

/-- **The offset into a source** and the pieces still to come stay within the source. -/
theorem readPieces_encode {ps : List Text} {rs : List Reading} (ht : byteLength source + 1 ≤ top)
    (h : offset + byteLength (ended '\n' ps) ≤ byteLength source + 1) :
    readPieces top (encode source) number offset (ps.map encode) rs =
      .ok ((readAll (place number offset ps)).map (rs ++ ·)) := by
  induction ps generalizing number offset rs with
  | nil =>
    rw [List.map_nil, readPieces, place, readAll, Source.read]
    simp only [Except.map, List.append_nil]
    rfl
  | cons p ps ih =>
    rw [byteLength_ended_cons rfl] at h
    have hraw := byteLength_dropReturn_le p
    have hline : line top number (encode (Source.dropReturn p)) =
        .ok (Line.parse number (Source.dropReturn p)) := line_encode number (by omega)
    rw [List.map_cons, readPieces, place, readAll, Source.read, PhysicalLine.parse]
    simp only [dropReturn_encode, hline, ok_bind]
    cases hp : Line.parse number (Source.dropReturn p) with
    | error m =>
      obtain ⟨hm, hstop⟩ := span_le_of_line hp
      simp only [Except.mapError, Except.map]
      rw [shift_of_le hm (by omega)]
      rfl
    | ok l =>
      simp only [Except.mapError]
      rw [advance_encode (by omega) ht, ok_bind, ih (by omega), decode_encode]
      unfold readAll
      generalize Source.read (place (number + 1) (offset + byteLength p + 1) ps) = later
      obtain ⟨rs', _ | m⟩ := later
      · simp only [Except.map, List.append_assoc, List.singleton_append]
      · rfl

theorem afterMark?_encode (source : Text) : (match afterMark? (encode source) with
    | some rest => (rest, mark.utf8Size)
    | none => (encode source, 0)) = (encode (body source), bodyOffset source) := by
  unfold afterMark? body bodyOffset
  rw [decode_encode]
  by_cases h : source.head? = some mark
  · simp only [h, if_true]
  · simp only [h, if_false]

/-- **Converting does not go wrong** with numbers up to one more than the length of the source. -/
theorem convert_encode (ht : byteLength source + 1 ≤ top) :
    convert top (encode source) = .ok (MigrationDbml.convert source) := by
  obtain ⟨w, hsource, hw, -⟩ := exists_body_append source
  have hlen := congrArg byteLength hsource
  have hpieces : byteLength (ended '\n' ((body source).splitOn '\n')) = byteLength (body source) + 1 :=
    byteLength_ended_splitOn rfl (body source)
  rw [byteLength_append, hw] at hlen
  have hread : readPieces top (encode source) 1 (bodyOffset source)
      (((body source).splitOn '\n').map encode) [] =
        .ok ((readAll (physicalLines source)).map ([] ++ ·)) := readPieces_encode ht (by omega)
  unfold convert
  rw [afterMark?_encode]
  simp only [split_encode, decode_encode]
  rw [within_of_le (by omega), ok_bind, hread, ok_bind, convert_eq_map_readAll]
  cases readAll (physicalLines source) with
  | error m => rfl
  | ok rs => rfl

-- behind the last piece, which has 3 bytes, the offset is 4
example : convert 3 (encode "end".toList) = .error .overflow := by decide +kernel

end Checked

open Utf8

/-- **No slice, offset or sum of a conversion goes wrong.** Every slice is of whole characters, every
running offset is at most 1 behind the end of its text, and no sum is above the length of the source
plus 1. So numbers of 64 bits hold them all for every source that is shorter than `2 ^ 63` bytes. -/
theorem checked_convert_eq_ok (source : Text) :
    Checked.convert ((encode source).length + 1) (encode source) = .ok (convert source) ∧
      ((encode source).length < 2 ^ 63 →
        Checked.convert (2 ^ 64 - 1) (encode source) = .ok (convert source)) := by
  rw [Text.length_encode]
  constructor
  · exact Checked.convert_encode (Nat.le_refl _)
  · intro h
    exact Checked.convert_encode (by omega)

/-- A source with a byte order mark, a carriage return, and blanks and a name of several bytes. -/
theorem checked_convert_eq_ok_of_wide :
    let source := "\uFEFFt.string\u2003\"é\",\u3000limit\u00A0:\u3000255\r\nend".toList
    (encode source).length < 2 ^ 63 ∧
      convert source = .ok ⟨2, ["  é varchar(255)".toList, ['\x7d']], []⟩ ∧
      Checked.convert (2 ^ 64 - 1) (encode source) = .ok (convert source) := by
  have hlength : (encode "\uFEFFt.string\u2003\"é\",\u3000limit\u00A0:\u3000255\r\nend".toList).length <
      2 ^ 63 := by decide +kernel
  exact ⟨hlength, by decide +kernel, (checked_convert_eq_ok _).2 hlength⟩

end MigrationDbml
