import MigrationDbml.Proofs.Lines

/-!
# Lines put together from segments

What is read on a line, in terms of the segments that it is put together from. A comma always
ends a segment, also between double quotes.

* `parse_append_comma`: a segment more. It is read last, and its bytes count from behind the comma.
* `Param.parse_blank_append`: blanks in front of a segment only move what is found on it.
* `parse_of_indented`: blanks in front of all segments move what is found by those up to its
  segment.
-/

namespace MigrationDbml

open Text

/-! ## A segment more -/

namespace Line

variable {a s : Text} {number : Nat} {l : Line}

/-- What is put behind a comma is the last segment. -/
theorem segments_append_comma (hs : ',' ∉ s) (a : Text) :
    segments (a ++ ',' :: s) = segments a ++ [s] := by
  rw [segments, List.splitOn_append_cons_self, List.splitOn_eq_singleton hs, ← segments]

theorem BreaksAt.append_comma {before : List Text} {b : Param.Break} (h : BreaksAt a before b)
    (hs : ',' ∉ s) : BreaksAt (a ++ ',' :: s) before b := by
  obtain ⟨⟨after, hsegments⟩, hne, hunbroken⟩ := h
  refine ⟨⟨after ++ [s], ?_⟩, hne, hunbroken⟩
  rw [segments_append_comma hs, hsegments, List.append_assoc, List.cons_append]

/-- A malformed segment behind an accepted line is the first one. -/
theorem breaksAt_append_comma {b : Param.Break} (h : parse number a = .ok l)
    (hs : ',' ∉ b.segment) : BreaksAt (a ++ ',' :: b.segment) (segments a) b := by
  refine ⟨⟨[], segments_append_comma hs a⟩, List.splitOn_ne_nil ',' a, ?_⟩
  intro r hr hb
  exact not_isBroken_of_parse h ⟨r, hr, hb⟩

/-- **One more segment.** A refusal stays as it is. An accepted line takes the parameter of the
segment, over an earlier one of the same name, or is refused with what is found on the segment,
counted from the start of the line. It makes no difference whether the comma stands in quotes. -/
theorem parse_append_comma (hs : ',' ∉ s) (number : Nat) :
    (∀ m, parse number a = .error m → parse number (a ++ ',' :: s) = .error m) ∧
      (∀ l m, parse number a = .ok l → Param.parse number s = .error m →
        parse number (a ++ ',' :: s) =
          .error ⟨m.line, m.name, m.found, m.span.shift (byteLength a + 1)⟩) ∧
      ∀ l p, parse number a = .ok l → Param.parse number s = .ok p →
        parse number (a ++ ',' :: s) = .ok ⟨l.head, l.name, l.params.insert p.name p.values⟩ := by
  refine ⟨?_, ?_, ?_⟩
  · intro m h
    obtain ⟨before, b, hat, rfl⟩ := parse_eq_error_iff.1 h
    exact parse_of_breaksAt (hat.append_comma hs)
  · intro l m h hm
    obtain ⟨b, rfl, rfl⟩ := Param.parse_eq_error_iff.1 hm
    rw [parse_of_breaksAt (breaksAt_append_comma h hs), byteLength_ended_segments]
    rfl
  · intro l p h hp
    obtain ⟨first, rest, ps, hsegments, hps, rfl⟩ := parse_eq_ok_iff.1 h
    refine parse_eq_ok_iff.2 ⟨first, rest ++ [s], ps ++ [p], ?_, ?_, ?_⟩
    · rw [segments_append_comma hs, hsegments, List.cons_append]
    · rw [List.map_append, List.map_append, hps, List.map_singleton, List.map_singleton, hp]
    · rw [withParams, withParams, List.foldl_concat]
      rfl

/-- Commas in quotes, behind a blank of three bytes: the name of the last segment is the end of a
comment, and with another end the line is refused there. -/
theorem parse_append_comma_of_quoted :
    let a := "t.string\u3000\"a\", y\": 1, comment: \"x".toList
    let l : Line := ⟨"t.string".toList, "a".toList,
      ⟨[("y\"".toList, ["1".toList]), ("comment".toList, ["x".toList])], by decide +kernel⟩⟩
    parse 9 a = .ok l ∧
      parse 9 (a ++ ",y\"".toList) = .ok ⟨l.head, l.name, l.params.insert "y\"".toList []⟩ ∧
      parse 9 (a ++ ", two words\"".toList) = .error ⟨9, "two".toList, 'w', ⟨40, 41⟩⟩ ∧
      parse 9 (a ++ ", two words\",".toList) = .error ⟨9, "two".toList, 'w', ⟨40, 41⟩⟩ := by
  intro a l
  have ha : parse 9 a = .ok l := by decide +kernel
  have hy : Param.parse 9 "y\"".toList = .ok ⟨"y\"".toList, []⟩ := by decide +kernel
  have hwords : Param.parse 9 " two words\"".toList = .error ⟨9, "two".toList, 'w', ⟨5, 6⟩⟩ := by
    decide +kernel
  have hok := (parse_append_comma (a := a) (s := "y\"".toList) (by decide) 9).2.2 l _ ha hy
  have herror := (parse_append_comma (a := a) (s := " two words\"".toList) (by decide) 9).2.1 l _ ha hwords
  have hstays := (parse_append_comma (s := []) (by decide) 9).1 _ herror
  rw [List.append_assoc] at hstays
  exact ⟨ha, hok, herror, hstays⟩

end Line

/-! ## Blanks in front of segments -/

variable {w : Text}

theorem Text.comma_not_mem_of_blank (hw : ∀ c ∈ w, isBlank c = true) : ',' ∉ w := by
  intro hc
  have hcomma : isBlank ',' = false := by decide
  rw [hw ',' hc] at hcomma
  cases hcomma

theorem Text.isBlank_of_mem_append {indent : Text} (hw : ∀ c ∈ w, isBlank c = true)
    (hi : ∀ c ∈ indent, isBlank c = true) : ∀ c ∈ w ++ indent, isBlank c = true := by
  intro c hc
  rcases List.mem_append.1 hc with hc | hc
  · exact hw c hc
  · exact hi c hc

theorem Lead.ofText_blank_append (hw : ∀ c ∈ w, isBlank c = true) (t : Text) :
    ofText (w ++ t) = ofText t := by
  unfold ofText
  rw [trimStart_append hw]

namespace Param

/-- The label behind more blanks. -/
def Label.indentBy (w : Text) (hw : ∀ c ∈ w, isBlank c = true) (l : Label) : Label :=
  { l with indent := w ++ l.indent, indent_blank := isBlank_of_mem_append hw l.indent_blank }

/-- The malformed segment behind more blanks. -/
def Break.indentBy (w : Text) (hw : ∀ c ∈ w, isBlank c = true) (b : Break) : Break :=
  { b with toLabel := b.toLabel.indentBy w hw }

/-- The segment in its parts, behind more blanks. -/
def Shape.indentBy (w : Text) (hw : ∀ c ∈ w, isBlank c = true) : Shape → Shape
  | blank t h => blank (w ++ t) (isBlank_of_mem_append hw h)
  | named l => named (l.indentBy w hw)
  | valued l rest => valued (l.indentBy w hw) rest
  | broken b => broken (b.indentBy w hw)

theorem Label.text_indentBy (hw : ∀ c ∈ w, isBlank c = true) (l : Label) :
    (l.indentBy w hw).text = w ++ l.text := by
  simp [Label.text, Label.indentBy]

theorem Break.segment_indentBy (hw : ∀ c ∈ w, isBlank c = true) (b : Break) :
    (b.indentBy w hw).segment = w ++ b.segment := by
  have htext : (b.indentBy w hw).text = w ++ b.text := b.toLabel.text_indentBy hw
  rw [segment, htext, List.append_assoc]
  rfl

theorem Break.malformed_indentBy (hw : ∀ c ∈ w, isBlank c = true) (line : Nat) (b : Break) :
    (b.indentBy w hw).malformed line = (b.malformed line).shift (byteLength w) := by
  have htext : (b.indentBy w hw).text = w ++ b.text := b.toLabel.text_indentBy hw
  have hfound : (b.indentBy w hw).found = b.found := rfl
  have hname : (b.indentBy w hw).name = b.name := rfl
  rw [malformed, htext, hfound, hname, byteLength_append, malformed, Malformed.shift, Span.shift]
  simp only [Malformed.mk.injEq, Span.mk.injEq, true_and]
  omega

theorem Shape.text_indentBy (hw : ∀ c ∈ w, isBlank c = true) (s : Shape) :
    (s.indentBy w hw).text = w ++ s.text := by
  cases s with
  | blank t h => rfl
  | named l => exact l.text_indentBy hw
  | valued l rest =>
    rw [indentBy, text, l.text_indentBy hw, List.append_assoc]
    rfl
  | broken b => exact b.segment_indentBy hw

theorem Shape.result_indentBy (hw : ∀ c ∈ w, isBlank c = true) (line : Nat) (s : Shape) :
    (s.indentBy w hw).result line = (s.result line).mapError (·.shift (byteLength w)) := by
  cases s with
  | blank t h => rfl
  | named l => rfl
  | valued l rest => rfl
  | broken b => exact congrArg Except.error (b.malformed_indentBy hw line)

/-- **Blanks in front of a segment** only move what is found on it. -/
theorem parse_blank_append (hw : ∀ c ∈ w, isBlank c = true) (line : Nat) (s : Text) :
    parse line (w ++ s) = (parse line s).mapError (·.shift (byteLength w)) := by
  obtain ⟨shape, rfl⟩ := exists_shape s
  rw [← shape.text_indentBy hw, parse_shape, parse_shape, shape.result_indentBy hw]

theorem isBroken_of_blank_append (hw : ∀ c ∈ w, isBlank c = true) {s : Text}
    (h : IsBroken (w ++ s)) : IsBroken s := by
  obtain ⟨m, hm⟩ := (isBroken_iff 0).1 h
  rw [parse_blank_append hw] at hm
  cases hs : parse 0 s with
  | error m => exact (isBroken_iff 0).2 ⟨m, hs⟩
  | ok p =>
    rw [hs] at hm
    cases hm

end Param

/-- A segment, and blanks to put in front of it. -/
structure Indented where
  indent : Text
  segment : Text
  indent_blank : ∀ c ∈ indent, isBlank c = true
  comma_not_mem : ',' ∉ segment

namespace Indented

/-- The segment behind its blanks. -/
def text (r : Indented) : Text := r.indent ++ r.segment

theorem comma_not_mem_text (r : Indented) : ',' ∉ r.text :=
  List.not_mem_append (comma_not_mem_of_blank r.indent_blank) r.comma_not_mem

/-- The line of the segments as they are. -/
def plain (rs : List Indented) : Text := [','].intercalate (rs.map segment)

/-- The line of the segments behind their blanks. -/
def indented (rs : List Indented) : Text := [','].intercalate (rs.map text)

theorem segments_intercalate {f : Indented → Text} (hf : ∀ q, ',' ∉ f q) (r : Indented)
    (rs : List Indented) : Line.segments ([','].intercalate ((r :: rs).map f)) = (r :: rs).map f := by
  refine List.splitOn_intercalate ',' ?_ (List.cons_ne_nil _ _)
  intro s hs
  obtain ⟨q, -, rfl⟩ := List.mem_map.1 hs
  exact hf q

theorem segments_plain (r : Indented) (rs : List Indented) :
    Line.segments (plain (r :: rs)) = (r :: rs).map segment :=
  segments_intercalate comma_not_mem r rs

theorem segments_indented (r : Indented) (rs : List Indented) :
    Line.segments (indented (r :: rs)) = (r :: rs).map text :=
  segments_intercalate comma_not_mem_text r rs

theorem byteLength_ended_text (rs : List Indented) :
    byteLength (ended ',' (rs.map text)) =
      byteLength (ended ',' (rs.map segment)) + byteLength (rs.flatMap indent) := by
  induction rs with
  | nil => rfl
  | cons r rs ih =>
    simp only [List.map_cons, ended_cons, List.flatMap_cons, byteLength_append, byteLength_cons, ih,
      text]
    omega

end Indented

namespace Line

open Indented

variable {number : Nat} {r : Indented} {rs : List Indented} {l : Line}

/-- Whether a line is refused at its segment with the index `k`, counted from 0. -/
def RefusedAt (t : Text) (k : Nat) : Prop := ∃ before b, BreaksAt t before b ∧ before.length = k

theorem parse_indented_of_ok (h : parse number (plain (r :: rs)) = .ok l) :
    parse number (indented (r :: rs)) = .ok l := by
  obtain ⟨first, rest, ps, hsegments, hps, hl⟩ := parse_eq_ok_iff.1 h
  rw [segments_plain, List.map_cons, List.cons.injEq] at hsegments
  obtain ⟨rfl, rfl⟩ := hsegments
  refine parse_eq_ok_iff.2 ⟨r.text, rs.map text, ps, segments_indented r rs, ?_, ?_⟩
  · rw [← hps, List.map_map, List.map_map]
    refine List.map_congr_left fun q hq => ?_
    -- what is read on the segment is a parameter, which blanks do not change
    have hmem : Param.parse number q.segment ∈ ps.map Except.ok := by
      rw [← hps]
      exact List.mem_map_of_mem (List.mem_map_of_mem hq)
    obtain ⟨p, -, hp⟩ := List.mem_map.1 hmem
    have hblank := Param.parse_blank_append q.indent_blank number q.segment
    rw [← hp] at hblank
    exact hblank.trans hp
  · rw [text, Lead.ofText_blank_append r.indent_blank]
    exact hl

/-- **Where a line of segments breaks**, it breaks behind blanks as well. -/
theorem breaksAt_indented {before : List Text} {b : Param.Break}
    (h : BreaksAt (plain (r :: rs)) before b) : ∃ earlier q later, r :: rs = earlier ++ q :: later ∧
      before = earlier.map segment ∧
      BreaksAt (indented (r :: rs)) (earlier.map text) (b.indentBy q.indent q.indent_blank) := by
  obtain ⟨⟨after, hsegments⟩, hne, hunbroken⟩ := h
  rw [segments_plain] at hsegments
  obtain ⟨earlier, behind, hrows, rfl, hbehind⟩ := List.map_eq_append_iff.1 hsegments
  obtain ⟨q, later, rfl, hq, rfl⟩ := List.map_eq_cons_iff.1 hbehind
  refine ⟨earlier, q, later, hrows, rfl, ⟨later.map text, ?_⟩, ?_, ?_⟩
  · rw [segments_indented, hrows, List.map_append, List.map_cons, Param.Break.segment_indentBy, ← hq]
    rfl
  · intro hnil
    exact hne (by rw [List.map_eq_nil_iff.1 hnil]; rfl)
  · intro s hs
    rw [← List.map_tail] at hs
    obtain ⟨e, he, rfl⟩ := List.mem_map.1 hs
    have hplain := hunbroken e.segment (by rw [← List.map_tail]; exact List.mem_map_of_mem he)
    intro hb
    exact hplain (Param.isBroken_of_blank_append e.indent_blank hb)

/-- **Indentation of segments does not matter.** Blanks in front of the segments of a line change
nothing about an accepted line. A refused line stays refused, and what is found on it moves by the
blanks up to its segment. -/
theorem parse_of_indented (number : Nat) (r : Indented) (rs : List Indented) :
    (∀ l, parse number (plain (r :: rs)) = .ok l → parse number (indented (r :: rs)) = .ok l) ∧
      ∀ m, parse number (plain (r :: rs)) = .error m → (∃ k, RefusedAt (plain (r :: rs)) k) ∧
        ∀ k, RefusedAt (plain (r :: rs)) k → parse number (indented (r :: rs)) =
          .error ⟨m.line, m.name, m.found,
            m.span.shift (byteLength (((r :: rs).take (k + 1)).flatMap indent))⟩ := by
  refine ⟨fun l h => parse_indented_of_ok h, ?_⟩
  intro m h
  obtain ⟨before, b, hat, -⟩ := parse_eq_error_iff.1 h
  refine ⟨⟨before.length, before, b, hat, rfl⟩, ?_⟩
  rintro k ⟨before, b, hat, rfl⟩
  rw [parse_of_breaksAt hat] at h
  obtain ⟨earlier, q, later, hrows, rfl, hindented⟩ := breaksAt_indented hat
  have htake : (r :: rs).take ((earlier.map segment).length + 1) = earlier ++ [q] := by
    rw [hrows, List.length_map, List.take_length_add_append]
    rfl
  rw [parse_of_breaksAt hindented, Param.Break.malformed_indentBy, Malformed.shift_shift,
    byteLength_ended_text, htake, List.flatMap_append, byteLength_append, ← Except.error.inj h]
  simp only [Malformed.shift, Span.shift, List.flatMap_singleton, Except.error.injEq,
    Malformed.mk.injEq, Span.mk.injEq, true_and]
  omega

/-- Blanks of one, two and three bytes, in front of an accepted line and of one that is refused. -/
theorem parse_of_indented_of_wide :
    let lead : Indented := ⟨"\u3000".toList, "t.text \"b\"".toList, by decide, by decide⟩
    let null : Indented := ⟨"\u0085 ".toList, "null: false".toList, by decide, by decide⟩
    let limit : Indented := ⟨"\t".toList, " limit 9".toList, by decide, by decide⟩
    let l : Line := ⟨"t.text".toList, "b".toList,
      ⟨[("null".toList, ["false".toList])], by decide +kernel⟩⟩
    parse 1 (plain [lead, null]) = .ok l ∧ parse 1 (indented [lead, null]) = .ok l ∧
      parse 1 (plain [lead, null, limit]) = .error ⟨1, "limit".toList, '9', ⟨30, 31⟩⟩ ∧
      parse 1 (indented [lead, null, limit]) = .error ⟨1, "limit".toList, '9', ⟨37, 38⟩⟩ := by
  intro lead null limit l
  have hok : parse 1 (plain [lead, null]) = .ok l := by decide +kernel
  have herror : parse 1 (plain [lead, null, limit]) = .error ⟨1, "limit".toList, '9', ⟨30, 31⟩⟩ := by
    decide +kernel
  let b : Param.Break :=
    ⟨⟨" ".toList, "limit".toList, " ".toList, by decide, by decide +kernel, by decide⟩, '9', [],
      by decide, by decide⟩
  have hat : RefusedAt (plain [lead, null, limit]) 2 := by
    refine ⟨[lead.segment, null.segment], b, ⟨⟨[], by decide +kernel⟩, by decide, ?_⟩, rfl⟩
    intro s hs
    rw [List.mem_singleton.1 hs]
    exact (Param.not_isBroken_iff 1).2 ⟨⟨"null".toList, ["false".toList]⟩, by decide +kernel⟩
  exact ⟨hok, (parse_of_indented 1 lead [null]).1 l hok, herror,
    ((parse_of_indented 1 lead [null, limit]).2 _ herror).2 2 hat⟩

end Line

end MigrationDbml
