import MigrationDbml.Proofs.Conversions

/-!
# Lines that emit nothing

A line whose head introduces nothing emits nothing, but it is read to its end all the same. So
one that is put between the lines of a source (`insertLine`) is skipped exactly when it has no
malformed segment, and refuses the source when it has one, comment or not.

* `headWord`: the head of a line, in terms of its text (`head_of_parse`).
* `pieces_insertLine`: the lines of a source with one line more.
* `isMoved_ofTexts`: what the lines behind it become, one number higher.
* `convert_insertLine`: when a line that introduces nothing is skipped.
-/

namespace MigrationDbml

open Text Source Dbml

namespace Text

/-- Blanks behind a text do not change its first word. -/
theorem word_trimStart_append {w : Text} (hw : ∀ c ∈ w, isBlank c = true) (t : Text) :
    word (trimStart (t ++ w)) = word (trimStart t) := by
  obtain ⟨v, hv, ht⟩ := exists_append_trimStart t
  have happend : trimStart (t ++ w) = trimStart (trimStart t ++ w) := by
    conv_lhs => rw [ht, List.append_assoc, trimStart_append hv]
  cases hrest : trimStart t with
  | nil => rw [happend, hrest, List.nil_append, trimStart_eq_nil_iff.2 hw]
  | cons c r =>
    have hc := not_isBlank_of_trimStart hrest
    have hself : trimStart (c :: r ++ w) = c :: r ++ w := by
      refine trimStart_eq_self fun d hd => ?_
      rw [← Option.some.inj hd]
      exact hc
    rw [happend, hrest, hself]
    -- the word ends inside of `c :: r`, or else at the blanks
    have hword := word_append_afterWord (c :: r)
    have hstop : ∀ d, (afterWord (c :: r) ++ w).head? = some d → isBlank d = true := by
      intro d hd
      cases hafter : afterWord (c :: r) with
      | nil =>
        rw [hafter] at hd
        exact hw d (List.mem_of_head? hd)
      | cons e s =>
        rw [hafter] at hd
        exact isBlank_of_head?_afterWord (by rw [hafter]; exact hd)
    conv_lhs => rw [← hword, List.append_assoc]
    exact word_of_append (fun d hd => not_isBlank_of_mem_word hd) hstop

end Text

namespace Line

/-- The first word of a line before its first comma. -/
def headWord (t : Text) : Text := word (trimStart (t.takeWhile (· ≠ ',')))

variable {number : Nat} {t : Text} {l : Line}

theorem takeWhile_of_segments {first : Text} {rest : List Text} (h : segments t = first :: rest) :
    t.takeWhile (· ≠ ',') = first := by
  have hnot : ',' ∉ first := comma_not_mem_of_mem_segments (t := t) (by rw [h]; exact List.mem_cons_self)
  have ht : t = ended ',' [] ++ first ++ led ',' rest := eq_of_splitOn h
  rw [ht, ended_nil, List.nil_append]
  refine takeWhile_of_append (decide_ne_of_not_mem hnot) ?_
  intro d hd
  cases rest with
  | nil => cases hd
  | cons q qs => exact decide_ne_of_head? hd

/-- **The head of a line is its first word.** -/
theorem head_of_parse (h : parse number t = .ok l) : l.head = headWord t := by
  obtain ⟨first, rest, hs⟩ := exists_segments t
  rw [(lead_of_parse h hs).1, headWord, takeWhile_of_segments hs]
  rfl

theorem headWord_append_blank {c : Char} (hc : isBlank c = true) (hne : c ≠ ',') (t : Text) :
    headWord (t ++ [c]) = headWord t := by
  have hblank : ∀ d ∈ [c], isBlank d = true := by
    intro d hd
    rw [List.mem_singleton.1 hd]
    exact hc
  unfold headWord
  by_cases hcomma : ',' ∈ t
  · obtain ⟨a, b, rfl, hnot⟩ := List.eq_append_cons_of_mem hcomma
    rw [List.append_assoc, List.cons_append,
      takeWhile_of_append (decide_ne_of_not_mem hnot) fun _ hd => decide_ne_of_head? hd,
      takeWhile_of_append (decide_ne_of_not_mem hnot) fun _ hd => decide_ne_of_head? hd]
  · have hall : ∀ d ∈ t ++ [c], decide (d ≠ ',') = true := by
      refine decide_ne_of_not_mem (List.not_mem_append hcomma ?_)
      rw [List.mem_singleton]
      exact fun e => hne e.symm
    rw [List.takeWhile_eq_self_iff.2 hall,
      List.takeWhile_eq_self_iff.2 fun d hd => hall d (List.mem_append_left _ hd),
      word_trimStart_append hblank]

/-- A carriage return at the end of a line is not part of its head. -/
theorem headWord_dropReturn (t : Text) : headWord (dropReturn t) = headWord t := by
  unfold dropReturn
  split
  · rename_i hlast
    obtain ⟨u, rfl⟩ := List.getLast?_eq_some_iff.1 hlast
    rw [List.dropLast_concat, headWord_append_blank (by decide) (by decide)]
  · rfl

end Line

namespace Dbml.Emission

/-- Whether `e'` is what `e` is `k` lines further down: the numbers that its warnings and
best-effort lines cite are higher, and nothing else is different. -/
structure IsMoved (k : Nat) (e e' : Emission) : Prop where
  warnings_eq : e'.warnings = e.warnings.map (Warning.moveDown k)
  lines_eq : ∃ faithful name, e.lines = faithful ++ e.warnings.map (Warning.bestEffort name) ∧
    e'.lines = faithful ++ e'.warnings.map (Warning.bestEffort name)

theorem isMoved_ofText (number k : Nat) (t : Text) :
    IsMoved k (ofText number t) (ofText (number + k) t) := by
  refine ⟨(ofText_add number k t).1, ?_⟩
  by_cases hb : Line.IsBroken t
  · rw [ofText_of_isBroken hb, ofText_of_isBroken hb]
    exact ⟨[], [], rfl, rfl⟩
  · obtain ⟨l, hl⟩ := Line.exists_parse_ok number hb
    rw [ofText_of_parse hl, ofText_of_parse hl, ofLine_eq, ofLine_eq]
    refine ⟨l.faithful, l.name, ?_, ?_⟩
    · cases l.flaw? <;> rfl
    · cases l.flaw? <;> rfl

/-- **Lines further down**, group by group. -/
theorem isMoved_ofTexts (number k : Nat) (ts : List Text) :
    List.Forall₂ (IsMoved k) (ofTexts number ts) (ofTexts (number + k) ts) := by
  induction ts generalizing number with
  | nil => exact .nil
  | cons t ts ih =>
    have hnext : number + k + 1 = number + 1 + k := by omega
    rw [ofTexts_cons, ofTexts_cons, hnext]
    exact .cons (isMoved_ofText number k t) (ih (number + 1))

/-- A text cites the number of its line. -/
theorem line_of_mem_ofText {number : Nat} {t : Text} {w : Warning}
    (hw : w ∈ (ofText number t).warnings) : w.line = number := by
  by_cases hb : Line.IsBroken t
  · rw [ofText_of_isBroken hb] at hw
    cases hw
  · obtain ⟨l, hl⟩ := Line.exists_parse_ok number hb
    rw [ofText_of_parse hl, ofLine_eq] at hw
    obtain ⟨kind, -, rfl⟩ := Option.map_eq_some_iff.1 (Option.mem_toList.1 hw)
    rfl

theorem line_of_mem_ofTexts {number : Nat} {ts : List Text} {w : Warning}
    (hw : w ∈ (ofTexts number ts).flatMap warnings) :
    number ≤ w.line ∧ w.line < number + ts.length := by
  induction ts generalizing number with
  | nil => cases hw
  | cons t ts ih =>
    rw [ofTexts_cons, List.flatMap_cons, List.mem_append] at hw
    rw [List.length_cons]
    rcases hw with hw | hw
    · have := line_of_mem_ofText hw
      omega
    · have := ih hw
      omega

/-- What emits nothing is not noticed among what does. -/
theorem flatMap_append_empty {β : Type} {f : Emission → List β} (hf : f empty = [])
    (es es' : List Emission) : (es ++ empty :: es').flatMap f = (es ++ es').flatMap f := by
  rw [List.flatMap_append, List.flatMap_append, List.flatMap_cons, hf, List.nil_append]

/-- **A line that introduces nothing emits nothing.** -/
theorem ofText_of_unrecognized {t : Text} (h : Statement.ofHead (Line.headWord t) = .unrecognized)
    (number : Nat) : ofText number t = empty := by
  by_cases hb : Line.IsBroken t
  · exact ofText_of_isBroken hb number
  · obtain ⟨l, hl⟩ := Line.exists_parse_ok number hb
    have hstatement : l.statement = .unrecognized := by
      rw [Line.statement, Line.head_of_parse hl, h]
    rw [ofText_of_parse hl]
    unfold ofLine
    simp only [hstatement]

end Dbml.Emission

namespace Source

/-- The byte order mark of a source, if it has one. -/
def markOf (source : Text) : Text := if source.head? = some mark then [mark] else []

/-- The source with a further line behind the first `i` of its lines. -/
def insertLine (i : Nat) (x source : Text) : Text :=
  markOf source ++ (ended '\n' ((pieces source).take i) ++ x ++ led '\n' ((pieces source).drop i))

variable {source x : Text} {i : Nat}

theorem head?_of_head?_piece {p : Text} {ps : List Text} {d : Char} (h : pieces source = p :: ps)
    (hp : p.head? = some d) : (body source).head? = some d := by
  obtain ⟨r, rfl⟩ := List.head?_eq_some_iff.1 hp
  have hbody : body source = ended '\n' [] ++ d :: r ++ led '\n' ps := eq_of_splitOn h
  rw [hbody]
  rfl

/-- No byte order mark comes to the front. -/
theorem body_insertLine (hmark : x.head? ≠ some mark) : body (insertLine i x source) =
    ended '\n' ((pieces source).take i) ++ x ++ led '\n' ((pieces source).drop i) := by
  unfold insertLine markOf
  split
  · rfl
  · rename_i hsource
    rw [List.nil_append]
    refine if_neg fun hhead => ?_
    obtain ⟨p, ps, hp⟩ := List.exists_cons_of_ne_nil (List.splitOn_ne_nil '\n' (body source))
    have hpieces : pieces source = p :: ps := hp
    rw [hpieces] at hhead
    cases i with
    | zero =>
      rw [List.take_zero, List.drop_zero, ended_nil, List.nil_append, led_cons, List.head?_append] at hhead
      cases hx : x.head? with
      | none =>
        rw [hx] at hhead
        cases hhead
      | some d =>
        rw [hx] at hhead
        exact hmark (hx.trans hhead)
    | succ i =>
      rw [List.take_succ_cons, ended_cons, List.append_assoc, List.append_assoc,
        List.head?_append] at hhead
      cases hfirst : p.head? with
      | none =>
        rw [hfirst] at hhead
        cases hhead
      | some d =>
        rw [hfirst] at hhead
        have hbody := head?_of_head?_piece hpieces hfirst
        rw [body, if_neg hsource, Option.some.inj hhead] at hbody
        exact hsource hbody

/-- **The lines of a source with one line more.** -/
theorem pieces_insertLine (hfeed : '\n' ∉ x) (hmark : x.head? ≠ some mark) :
    pieces (insertLine i x source) = (pieces source).take i ++ x :: (pieces source).drop i := by
  have hnot : ∀ r ∈ (pieces source).take i ++ x :: (pieces source).drop i, '\n' ∉ r := by
    intro r hr
    rcases List.mem_append.1 hr with hr | hr
    · exact not_mem_of_mem_splitOn (List.mem_of_mem_take hr)
    · rcases List.mem_cons.1 hr with rfl | hr
      · exact hfeed
      · exact not_mem_of_mem_splitOn (List.mem_of_mem_drop hr)
  rw [pieces, body_insertLine hmark, splitOn_ended_led hnot]

theorem texts_insertLine (hfeed : '\n' ∉ x) (hmark : x.head? ≠ some mark) :
    texts (insertLine i x source) = (texts source).take i ++ dropReturn x :: (texts source).drop i := by
  rw [texts, pieces_insertLine hfeed hmark, List.map_append, List.map_cons, List.map_take, List.map_drop]
  rfl

theorem length_texts (source : Text) : (texts source).length = source.count '\n' + 1 := by
  rw [texts, List.length_map, length_pieces]

theorem length_take_texts (hi : i ≤ source.count '\n' + 1) : ((texts source).take i).length = i := by
  rw [List.length_take, length_texts]
  omega

/-- The lines of the source are no more broken than before. -/
theorem unbroken_insertLine (hu : ∀ t ∈ texts source, ¬ Line.IsBroken t)
    (hx : ¬ Line.IsBroken (dropReturn x)) (hfeed : '\n' ∉ x) (hmark : x.head? ≠ some mark) :
    ∀ t ∈ texts (insertLine i x source), ¬ Line.IsBroken t := by
  intro t ht
  rw [texts_insertLine hfeed hmark] at ht
  rcases List.mem_append.1 ht with ht | ht
  · exact hu t (List.mem_of_mem_take ht)
  · rcases List.mem_cons.1 ht with rfl | ht
    · exact hx
    · exact hu t (List.mem_of_mem_drop ht)

/-- The first broken line is the one that was put in. -/
theorem breaksAt_insertLine (hu : ∀ t ∈ texts source, ¬ Line.IsBroken t) (hfeed : '\n' ∉ x)
    (hmark : x.head? ≠ some mark) : BreaksAt (insertLine i x source) ((pieces source).take i) x := by
  refine ⟨⟨(pieces source).drop i, pieces_insertLine hfeed hmark⟩, ?_⟩
  intro q hq
  exact hu _ (List.mem_map_of_mem (List.mem_of_mem_take hq))

/-- What the lines of a source become, cut behind line `i`. -/
theorem ofTexts_texts (hi : i ≤ source.count '\n' + 1) : Emission.ofTexts 1 (texts source) =
    Emission.ofTexts 1 ((texts source).take i) ++
      Emission.ofTexts (1 + i) ((texts source).drop i) := by
  conv_lhs => rw [← List.take_append_drop i (texts source), Emission.ofTexts_append, length_take_texts hi]

/-- The same with a line put in that introduces nothing. -/
theorem ofTexts_texts_insertLine (hi : i ≤ source.count '\n' + 1) (hfeed : '\n' ∉ x)
    (hmark : x.head? ≠ some mark) (hhead : Statement.ofHead (Line.headWord x) = .unrecognized) :
    Emission.ofTexts 1 (texts (insertLine i x source)) =
      Emission.ofTexts 1 ((texts source).take i) ++
        Emission.empty :: Emission.ofTexts (1 + i + 1) ((texts source).drop i) := by
  have hnone : Emission.ofText (1 + i) (dropReturn x) = Emission.empty :=
    Emission.ofText_of_unrecognized (by rw [Line.headWord_dropReturn, hhead]) _
  rw [texts_insertLine hfeed hmark, Emission.ofTexts_append, length_take_texts hi,
    Emission.ofTexts_cons, hnone]

theorem warnings_take_drop (i : Nat) (ts us : List Text) (hlength : ts.length = i) :
    ((Emission.ofTexts 1 ts ++ Emission.ofTexts (1 + i) us).flatMap Emission.warnings).map
        (fun w => if w.line ≤ i then w else w.moveDown 1) =
      (Emission.ofTexts 1 ts ++ Emission.ofTexts (1 + i + 1) us).flatMap Emission.warnings := by
  have hbefore : ∀ w ∈ (Emission.ofTexts 1 ts).flatMap Emission.warnings,
      (if w.line ≤ i then w else w.moveDown 1) = w := by
    intro w hw
    have hline := Emission.line_of_mem_ofTexts hw
    exact if_pos (by omega)
  have hafter : ∀ w ∈ (Emission.ofTexts (1 + i) us).flatMap Emission.warnings,
      (if w.line ≤ i then w else w.moveDown 1) = w.moveDown 1 := by
    intro w hw
    have hline := Emission.line_of_mem_ofTexts hw
    exact if_neg (by omega)
  rw [List.flatMap_append, List.flatMap_append, List.map_append, List.map_congr_left hbefore,
    List.map_congr_left hafter, List.map_id', (Emission.ofTexts_add (1 + i) 1 us).1]

end Source

/-- **A line that introduces nothing is skipped unless it is malformed.** Put behind the first `i`
lines of a source that is converted, it adds nothing to the output, and what is cited of the lines
behind it is one line further down. With a malformed segment it refuses the source. -/
theorem convert_insertLine {source x : Text} {c : Conversion} {i : Nat}
    (h : convert source = .ok c) (hi : i ≤ source.count '\n' + 1) (hfeed : '\n' ∉ x)
    (hmark : x.head? ≠ some mark) (hhead : Statement.ofHead (Line.headWord x) = .unrecognized) :
    (¬ Line.IsBroken (dropReturn x) → ∃ c', convert (insertLine i x source) = .ok c' ∧
        c'.warnings = c.warnings.map (fun w => if w.line ≤ i then w else w.moveDown 1) ∧
        ∃ before after after', before.length = i ∧
          List.Forall₂ (Emission.IsMoved 1) after after' ∧
          c.lines = (before ++ after).flatMap Emission.lines ∧
          c.warnings = (before ++ after).flatMap Emission.warnings ∧
          c'.lines = (before ++ after').flatMap Emission.lines ∧
          c'.warnings = (before ++ after').flatMap Emission.warnings) ∧
      (Line.IsBroken (dropReturn x) →
        ∃ m, convert (insertLine i x source) = .error m ∧ m.line = i + 1) := by
  obtain ⟨hu, rfl⟩ := convert_eq_ok_iff.1 h
  constructor
  · intro hx
    have hnew := convert_of_unbroken (unbroken_insertLine (i := i) hu hx hfeed hmark)
    have hold := ofTexts_texts hi
    have hinserted := ofTexts_texts_insertLine hi hfeed hmark hhead
    have hlength : ((texts source).take i).length = i := length_take_texts hi
    set ts := (texts source).take i
    set us := (texts source).drop i
    have hwarnings : (conversion (insertLine i x source)).warnings =
        (Emission.ofTexts 1 ts ++ Emission.ofTexts (1 + i + 1) us).flatMap Emission.warnings := by
      rw [conversion, hinserted]
      exact Emission.flatMap_append_empty rfl _ _
    refine ⟨conversion (insertLine i x source), hnew, ?_, Emission.ofTexts 1 ts,
      Emission.ofTexts (1 + i) us, Emission.ofTexts (1 + i + 1) us, ?_, ?_, ?_, ?_, ?_, hwarnings⟩
    · rw [hwarnings, conversion, hold, warnings_take_drop i ts us hlength]
    · rw [Emission.ofTexts, List.length_mapIdx, hlength]
    · exact Emission.isMoved_ofTexts (1 + i) 1 us
    · rw [conversion, hold]
    · rw [conversion, hold]
    · rw [conversion, hinserted]
      exact Emission.flatMap_append_empty rfl _ _
  · intro hx
    obtain ⟨segs, b, hseg⟩ := Line.exists_breaksAt hx
    refine ⟨_, convert_of_breaksAt (breaksAt_insertLine hu hfeed hmark) hseg, ?_⟩
    have hbefore : ((pieces source).take i).length = i := by
      rw [List.length_take, length_pieces]
      omega
    rw [hbefore]
    rfl

/-- A comment with a comma between two lines, one of them with a warning, behind a byte order mark. -/
theorem convert_insertLine_of_comment :
    let source := "\uFEFFcreate_table \"a\" do |t|\r\n  t.point \"p\"\n".toList
    let x := "  # index: a, b\r".toList
    let w : Warning := ⟨2, .unsupportedType "t.point".toList, "  t.point \"p\"".toList⟩
    let c : Conversion := ⟨2, [Emission.opening "a".toList, w.bestEffort "p".toList], [w]⟩
    convert source = .ok c ∧ ∃ c', convert (insertLine 1 x source) = .ok c' ∧
      c'.warnings = [w.moveDown 1] := by
  intro source x w c
  have hc : convert source = .ok c := by decide +kernel
  have hx : ∀ l, Line.parse 1 (dropReturn x) = .ok l → ¬ Line.IsBroken (dropReturn x) := by
    intro l hl hb
    obtain ⟨segs, b, hseg⟩ := Line.exists_breaksAt hb
    rw [Line.parse_of_breaksAt hseg] at hl
    cases hl
  have hparse : Line.parse 1 (dropReturn x) = .ok ⟨['#'], "index:".toList,
      ⟨[(['b'], [])], by decide⟩⟩ := by decide +kernel
  obtain ⟨hskipped, -⟩ := convert_insertLine hc (i := 1) (x := x) (by decide +kernel)
    (by decide +kernel) (by decide +kernel) (by decide +kernel)
  obtain ⟨c', hc', hwarnings, -⟩ := hskipped (hx _ hparse)
  exact ⟨hc, c', hc', hwarnings⟩

/-- **Not every comment is skipped.** One of the lines that a generated schema starts with has a
comma in it, and the words behind the comma are no parameter. -/
theorem convert_insertLine_of_header :
    let source := "end\n".toList
    let x := "# of editing this file, please use the migrations feature of Active Record to".toList
    convert source = .ok ⟨1, [['\x7d']], []⟩ ∧ '\n' ∉ x ∧ x.head? ≠ some mark ∧
      Statement.ofHead (Line.headWord x) = .unrecognized ∧
      insertLine 0 x source = x ++ '\n' :: source ∧
      convert (insertLine 0 x source) = .error ⟨1, "please".toList, 'u', ⟨31, 32⟩⟩ := by
  decide +kernel

end MigrationDbml
