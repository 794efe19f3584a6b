import MigrationDbml.Proofs.Readings
import MigrationDbml.Proofs.Writing

/-!
# Conversions

A source without a malformed line is converted text by text: each physical line becomes
what its text becomes under its number (`conversion`, `convert_eq_ok_iff`). So offsets
matter for refusals only.

A source that ends with a line feed has an empty last piece, and a text behind it takes
that piece's place (`exists_pieces_append`). From there `convert_append` compares the
conversion of two sources with that of both together.
-/

namespace MigrationDbml

open Text Source Dbml

namespace Source

/-- What a source without a malformed line is converted to. -/
def conversion (source : Text) : Conversion where
  linesRead := lineCount source
  lines := (Emission.ofTexts 1 (texts source)).flatMap Emission.lines
  warnings := (Emission.ofTexts 1 (texts source)).flatMap Emission.warnings

/-- What the lines of a source emit, when the first of them has the given number. -/
def dbmlFrom (number : Nat) (source : Text) : Text :=
  ended '\n' ((Emission.ofTexts number (texts source)).flatMap Emission.lines)

variable {source a b : Text} {c : Conversion} {m : Malformed}

theorem eq_conversion_of_convert (h : convert source = .ok c) : c = conversion source := by
  obtain ⟨rs, hreads, rfl⟩ := exists_reads h
  rw [conversion, ← hreads.map_emission, List.flatMap_map, List.flatMap_map]
  rfl

theorem convert_of_unbroken (h : ∀ t ∈ texts source, ¬ Line.IsBroken t) :
    convert source = .ok (conversion source) := by
  obtain ⟨c, hc⟩ := exists_convert_ok h
  rw [hc, eq_conversion_of_convert hc]

/-- **What is converted has no malformed line**, and becomes what its texts become. -/
theorem convert_eq_ok_iff : convert source = .ok c ↔
    (∀ t ∈ texts source, ¬ Line.IsBroken t) ∧ c = conversion source := by
  constructor
  · intro h
    have hu : ∀ t ∈ texts source, ¬ Line.IsBroken t := by
      intro t ht hb
      obtain ⟨before, piece, hat, hbroken⟩ := exists_breaksAt ht hb
      obtain ⟨segs, b, hseg⟩ := Line.exists_breaksAt hbroken
      rw [convert_of_breaksAt hat hseg] at h
      cases h
    exact ⟨hu, eq_conversion_of_convert h⟩
  · rintro ⟨hu, rfl⟩
    exact convert_of_unbroken hu

theorem parse_nil (number : Nat) : Line.parse number [] = .ok (Line.ofLead ⟨[], []⟩) := by
  have hs : Line.segments [] = [[]] := rfl
  rw [Line.parse_of_segments hs, Lead.ofText_blank (t := []) (by simp)]
  rfl

theorem not_isBroken_nil : ¬ Line.IsBroken [] := by
  rintro ⟨s, hs, -⟩
  cases hs

theorem ofText_nil (number : Nat) : Emission.ofText number [] = Emission.empty := by
  rw [Emission.ofText_of_parse (parse_nil 1)]
  rfl

theorem bodyOffset_append (ha : a ≠ []) (b : Text) : bodyOffset (a ++ b) = bodyOffset a := by
  obtain ⟨d, r, rfl⟩ := List.exists_cons_of_ne_nil ha
  rfl

theorem ne_nil_of_getLast? {d : Char} (h : a.getLast? = some d) : a ≠ [] := by
  rintro rfl
  cases h

theorem exists_body_eq_append (h : a.getLast? = some '\n') : ∃ u, body a = u ++ ['\n'] := by
  obtain ⟨mk, ha, -, hn⟩ := exists_body_append a
  rcases (body a).eq_nil_or_concat with hnil | ⟨u, d, hu⟩
  · -- a byte order mark alone does not end with a line feed
    rw [hnil, List.append_nil] at ha
    rw [ha] at h
    exact absurd (List.mem_of_getLast? h) hn
  · rw [List.concat_eq_append] at hu
    rw [ha, hu, ← List.append_assoc, List.getLast?_concat] at h
    exact ⟨u, by rw [hu, Option.some.inj h]⟩

/-- **A text behind a line feed takes the place of the empty last piece.** -/
theorem exists_pieces_append (h : a.getLast? = some '\n') : ∃ ps, pieces a = ps ++ [[]] ∧
    (∀ b, pieces (a ++ b) = ps ++ b.splitOn '\n') ∧ ps.length = a.count '\n' ∧
    bodyOffset a + byteLength (ended '\n' ps) = byteLength a := by
  obtain ⟨u, hu⟩ := exists_body_eq_append h
  obtain ⟨mk, ha, hmk, hn⟩ := exists_body_append a
  have hends := ended_splitOn (c := '\n') u
  refine ⟨u.splitOn '\n', ?_, ?_, ?_, ?_⟩
  · rw [pieces, hu, List.splitOn_append_cons_self, List.splitOn_nil]
  · intro b
    rw [pieces, body_append (ne_nil_of_getLast? h), hu, List.append_assoc, List.singleton_append,
      List.splitOn_append_cons_self]
  · conv_rhs => rw [ha, List.count_append, List.count_eq_zero_of_not_mem hn, hu]
    rw [length_splitOn, List.count_append, List.count_singleton_self, Nat.zero_add]
  · conv_rhs => rw [ha, byteLength_append, hmk, hu]
    rw [hends]

theorem pieces_of_head? (h : b.head? ≠ some mark) : pieces b = b.splitOn '\n' ∧ bodyOffset b = 0 := by
  rw [pieces, body, bodyOffset, if_neg h, if_neg h]
  exact ⟨rfl, rfl⟩

theorem lineCount_of_getLast? (h : a.getLast? = some '\n') : lineCount a = a.count '\n' := by
  rw [lineCount, h]
  rfl

theorem lineCount_append (h : a.getLast? = some '\n') (b : Text) :
    lineCount (a ++ b) = lineCount a + lineCount b := by
  have hlast : ((a ++ b).getLast?.all (· = '\n')) = b.getLast?.all (· = '\n') := by
    rw [List.getLast?_append, h]
    cases b.getLast? <;> rfl
  rw [lineCount_of_getLast? h, lineCount, lineCount, hlast, List.count_append, Nat.add_assoc]

/-- What is broken in a source is broken in the same place when something follows. -/
theorem BreaksAt.append {before : List Text} {piece : Text} (h : BreaksAt a before piece)
    (hb : Line.IsBroken (dropReturn piece)) (ha : a.getLast? = some '\n') (b : Text) :
    BreaksAt (a ++ b) before piece := by
  obtain ⟨ps, hps, happend, -, -⟩ := exists_pieces_append ha
  obtain ⟨⟨after, hp⟩, hu⟩ := h
  rw [hps] at hp
  rcases after.eq_nil_or_concat with rfl | ⟨later, last, rfl⟩
  · -- the empty last piece is not broken
    have hpiece := (List.append_inj' hp rfl).2
    cases hpiece
    exact absurd hb not_isBroken_nil
  · have hps' : ps = before ++ piece :: later := by
      rw [List.concat_eq_append, ← List.cons_append, ← List.append_assoc] at hp
      exact (List.append_inj' hp rfl).1
    refine ⟨⟨later ++ b.splitOn '\n', ?_⟩, hu⟩
    rw [happend, hps', List.append_assoc, List.cons_append]

/-- What is broken behind a source is broken further down when the source is put in front. -/
theorem BreaksAt.prepend {before ps : List Text} {piece : Text} (h : BreaksAt b before piece)
    (hb : b.head? ≠ some mark) (happend : pieces (a ++ b) = ps ++ b.splitOn '\n')
    (hu : ∀ p ∈ ps, ¬ Line.IsBroken (dropReturn p)) : BreaksAt (a ++ b) (ps ++ before) piece := by
  obtain ⟨⟨after, hp⟩, hub⟩ := h
  rw [(pieces_of_head? hb).1] at hp
  refine ⟨⟨after, by rw [happend, hp, List.append_assoc]⟩, ?_⟩
  intro q hq
  rcases List.mem_append.1 hq with hq | hq
  · exact hu q hq
  · exact hub q hq

theorem texts_append (ha : a.getLast? = some '\n') (hb : b.head? ≠ some mark) : ∃ ts,
    texts a = ts ++ [[]] ∧ texts (a ++ b) = ts ++ texts b ∧ ts.length = lineCount a := by
  obtain ⟨ps, hps, happend, hlength, -⟩ := exists_pieces_append ha
  refine ⟨ps.map dropReturn, ?_, ?_, ?_⟩
  · rw [texts, hps, List.map_append]; rfl
  · rw [texts, texts, happend, (pieces_of_head? hb).1, List.map_append]
  · rw [List.length_map, hlength, lineCount_of_getLast? ha]

theorem lineCount_eq (source : Text) : lineCount source =
    source.count '\n' + if source = [] ∨ source.getLast? = some '\n' then 0 else 1 := by
  rw [lineCount]
  cases hlast : source.getLast? with
  | none => rw [List.getLast?_eq_none_iff.1 hlast]; rfl
  | some d =>
    have hne := ne_nil_of_getLast? hlast
    simp [hne]

/-- A line that is not counted is the empty one at the end. -/
theorem eq_nil_of_lineCount_le {i : Nat} {t : Text} (h : (texts source)[i]? = some t)
    (hi : lineCount source ≤ i) : t = [] := by
  have hlength : (texts source).length = source.count '\n' + 1 := by
    rw [texts, List.length_map, length_pieces]
  obtain ⟨hlt, -⟩ := List.getElem?_eq_some_iff.1 h
  rw [lineCount_eq] at hi
  by_cases hlast : source.getLast? = some '\n'
  · obtain ⟨ts, hts, -, hcount⟩ := texts_append (b := []) hlast (by simp)
    rw [hts, List.getElem?_append_right (by rw [hcount, lineCount_eq]; exact hi)] at h
    exact List.mem_singleton.1 (List.mem_of_getElem? h)
  · by_cases hnil : source = []
    · rw [hnil] at h
      exact List.mem_singleton.1 (List.mem_of_getElem? h)
    · rw [if_neg (not_or.2 ⟨hnil, hlast⟩)] at hi
      omega

/-- What both sources together become, in terms of each. -/
theorem conversion_append (ha : a.getLast? = some '\n') (hb : b.head? ≠ some mark) :
    conversion (a ++ b) = ⟨lineCount a + lineCount b,
      (conversion a).lines ++ (Emission.ofTexts (1 + lineCount a) (texts b)).flatMap Emission.lines,
      (conversion a).warnings ++
        (Emission.ofTexts (1 + lineCount a) (texts b)).flatMap Emission.warnings⟩ := by
  obtain ⟨ts, hta, htab, hlength⟩ := texts_append ha hb
  -- the empty last piece of `a` emits nothing
  have hempty : Emission.ofTexts (1 + ts.length) [[]] = [Emission.empty] := by
    rw [Emission.ofTexts_cons, ofText_nil, Emission.ofTexts_nil]
  rw [conversion, conversion, hta, htab, Emission.ofTexts_append, Emission.ofTexts_append, hempty, hlength,
    lineCount_append ha]
  simp only [List.flatMap_append]
  simp [Emission.empty]

theorem convert_append_of_error (ha : a.getLast? = some '\n') (h : convert a = .error m) (b : Text) :
    convert (a ++ b) = .error m := by
  obtain ⟨before, piece, segs, b', hat, hseg, rfl⟩ := convert_eq_error_iff.1 h
  rw [← bodyOffset_append (ne_nil_of_getLast? ha) b]
  exact convert_of_breaksAt (hat.append hseg.isBroken ha b) hseg

theorem convert_append_of_ok_error (ha : a.getLast? = some '\n') (hb : b.head? ≠ some mark)
    (hc : convert a = .ok c) (h : convert b = .error m) : convert (a ++ b) =
      .error ⟨m.line + c.linesRead, m.name, m.found, m.span.shift (byteLength a)⟩ := by
  obtain ⟨hu, rfl⟩ := convert_eq_ok_iff.1 hc
  obtain ⟨before, piece, segs, b', hat, hseg, rfl⟩ := convert_eq_error_iff.1 h
  obtain ⟨ps, hps, happend, hlength, hbytes⟩ := exists_pieces_append ha
  have hups : ∀ p ∈ ps, ¬ Line.IsBroken (dropReturn p) := by
    intro p hp
    refine hu _ (List.mem_map_of_mem ?_)
    rw [hps]
    exact List.mem_append_left _ hp
  have hlines : (conversion a).linesRead = ps.length := by
    rw [hlength, ← lineCount_of_getLast? ha]; rfl
  have hnumber : (ps ++ before).length + 1 = before.length + 1 + ps.length := by
    rw [List.length_append]; omega
  rw [convert_of_breaksAt (hat.prepend hb (happend b) hups) hseg, bodyOffset_append (ne_nil_of_getLast? ha),
    (pieces_of_head? hb).2, ended_append, byteLength_append, hlines, hnumber, ← hbytes]
  -- the line moves by the lines of `a`, and the span by its bytes
  simp only [Malformed.shift, Param.Break.malformed, Span.shift, Except.error.injEq,
    Malformed.mk.injEq, Span.mk.injEq, true_and]
  omega

theorem convert_append_of_ok (ha : a.getLast? = some '\n') (hb : b.head? ≠ some mark)
    (hca : ∀ t ∈ texts a, ¬ Line.IsBroken t) (hcb : ∀ t ∈ texts b, ¬ Line.IsBroken t) :
    convert (a ++ b) = .ok (conversion (a ++ b)) := by
  obtain ⟨ts, hta, htab, -⟩ := texts_append ha hb
  refine convert_of_unbroken fun t ht => ?_
  rw [htab] at ht
  rcases List.mem_append.1 ht with ht | ht
  · exact hca t (by rw [hta]; exact List.mem_append_left _ ht)
  · exact hcb t ht

end Source

/-- **Conversion composes over concatenation.** The first source decides a refusal if it can. The
second is refused or converted as if it stood alone, with its lines numbered and its bytes counted
behind those of the first. -/
theorem convert_append {a b : Text} (ha : a.getLast? = some '\n') (hb : b.head? ≠ some mark) :
    (∀ m, convert a = .error m → convert (a ++ b) = .error m) ∧
      (∀ ca m, convert a = .ok ca → convert b = .error m → convert (a ++ b) =
        .error ⟨m.line + ca.linesRead, m.name, m.found, m.span.shift (byteLength a)⟩) ∧
      ∀ ca cb, convert a = .ok ca → convert b = .ok cb → ∃ c, convert (a ++ b) = .ok c ∧
        c.linesRead = ca.linesRead + cb.linesRead ∧
        c.linesEmitted = ca.linesEmitted + cb.linesEmitted ∧
        c.warnings = ca.warnings ++ cb.warnings.map (Warning.moveDown ca.linesRead) ∧
        c.dbml = ca.dbml ++ dbmlFrom (ca.linesRead + 1) b ∧ cb.dbml = dbmlFrom 1 b ∧
        (cb.warnings = [] → c.dbml = ca.dbml ++ cb.dbml) := by
  refine ⟨fun m h => convert_append_of_error ha h b,
    fun ca m hc h => convert_append_of_ok_error ha hb hc h, ?_⟩
  intro ca cb hca hcb
  obtain ⟨hua, rfl⟩ := convert_eq_ok_iff.1 hca
  obtain ⟨hub, rfl⟩ := convert_eq_ok_iff.1 hcb
  have hc := convert_append_of_ok ha hb hua hub
  have hboth := conversion_append ha hb
  obtain ⟨hwarnings, hcount, hlines⟩ := Emission.ofTexts_add 1 (lineCount a) (texts b)
  -- text by text, the lines of `b` become the same as alone, but for their numbers
  have hdbml : (conversion (a ++ b)).dbml = (conversion a).dbml ++ dbmlFrom (1 + lineCount a) b := by
    rw [hboth]
    exact List.flatMap_append
  refine ⟨conversion (a ++ b), hc, ?_, ?_, ?_, ?_, rfl, ?_⟩
  · rw [hboth]; rfl
  · rw [hboth, Conversion.linesEmitted, List.length_append, hcount]; rfl
  · rw [hboth, hwarnings]; rfl
  · rw [hdbml, Nat.add_comm]; rfl
  · intro hnone
    rw [hdbml, dbmlFrom, hlines hnone]; rfl

/-- Behind a byte order mark and a blank line: a source with a warning, and one that is refused. -/
theorem convert_append_of_marked :
    let a := "\uFEFFcreate_table \"é\" do |t|\r\n\r\n".toList
    let b := "  t.point \"p\"\nend".toList
    let d := "end\n  t.text \"q\", null x".toList
    let w : Warning := ⟨1, .unsupportedType "t.point".toList, "  t.point \"p\"".toList⟩
    let ca : Conversion := ⟨2, [Emission.opening "é".toList], []⟩
    let cb : Conversion := ⟨2, [w.bestEffort "p".toList, ['\x7d']], [w]⟩
    convert a = .ok ca ∧ convert b = .ok cb ∧
      (∃ c, convert (a ++ b) = .ok c ∧ c.linesRead = 4 ∧ c.warnings = [⟨3, w.kind, w.sourceLine⟩]) ∧
      convert d = .error ⟨2, "null".toList, 'x', ⟨23, 24⟩⟩ ∧
      convert (a ++ d) = .error ⟨4, "null".toList, 'x', ⟨54, 55⟩⟩ := by
  intro a b d w ca cb
  have hca : convert a = .ok ca := by decide +kernel
  have hcb : convert b = .ok cb := by decide +kernel
  have hd : convert d = .error ⟨2, "null".toList, 'x', ⟨23, 24⟩⟩ := by decide +kernel
  have ha : a.getLast? = some '\n' := by decide
  obtain ⟨-, -, hok⟩ := convert_append ha (b := b) (by decide)
  obtain ⟨-, herror, -⟩ := convert_append ha (b := d) (by decide)
  obtain ⟨c, hc, hread, -, hwarnings, -⟩ := hok ca cb hca hcb
  exact ⟨hca, hcb, ⟨c, hc, hread, hwarnings⟩, hd, herror ca _ hca hd⟩

end MigrationDbml
