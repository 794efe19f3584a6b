import MigrationDbml.Proofs.Insertions
import MigrationDbml.Proofs.Objects
import MigrationDbml.Proofs.Rearrangements
import MigrationDbml.Proofs.Writes

/-!
# What the log is told

The log is told about a source line by line, each line in terms of its own text and number
(`Event.ofText`): its statement, how many names its parameters have, and its warnings. One more
line that is read adds its events (`events_read_place`), so a source that is converted is told
about to its end, and one that is refused up to the line that refuses it.

* `size_eq_card`: the parameters of a line are its different names.
* `filterMap_line?_ofTexts`, `filterMap_warning?_ofTexts`: the lines and the warnings in the log.
* `events_agree`: the log, the counts and the warnings of a conversion tell the same.
-/

namespace MigrationDbml

open Text Source Dbml Log

namespace Line

variable {number : Nat} {t : Text} {l : Line}

/-- The names of the parameters written on a line, one for each segment behind its first comma. -/
def parameterNames (t : Text) : List Text := (segments t).tail.filterMap Param.name?

theorem parameterNames_eq {first : Text} {rest : List Text} {ps : List Param}
    (hs : segments t = first :: rest) (hps : rest.map (Param.parse number) = ps.map .ok) :
    parameterNames t = ps.map Param.name := by
  have hread : (fun s => (Param.parse number s).toOption) = Param.read? :=
    funext (Param.toOption_parse number)
  have hname : Param.name? = fun s => (Param.read? s).map Param.name := rfl
  rw [parameterNames, hs, List.tail_cons, hname, ← List.map_filterMap, ← hread,
    Param.filterMap_toOption hps]

/-- **A line has a parameter for each of its names**, however often they are written. -/
theorem size_eq_card (h : parse number t = .ok l) : l.params.size = (parameterNames t).toFinset.card := by
  obtain ⟨first, rest, ps, hs, hps, rfl⟩ := parse_eq_ok_iff.1 h
  have hwrites : ((ofLead (Lead.ofText first)).withParams ps).params =
      Params.ofList (ps.map fun p => (p.name, p.values)) := params_withParams _ ps
  rw [hwrites, (Params.records_ofList _).size_eq, List.map_map, parameterNames_eq hs hps]
  rfl

end Line

namespace Log.Event

/-- What the log is told about the line with the given number and text. -/
def ofText (number : Nat) (t : Text) : List Event :=
  .classified number (Statement.ofHead (Line.headWord t)) (Line.parameterNames t).toFinset.card ::
    (Emission.ofText number t).warnings.map fun w => .warned w.line w.kind

/-- What the log is told about lines, the first of which has the given number. -/
def ofTexts (number : Nat) (ts : List Text) : List Event :=
  (ts.mapIdx fun i t => ofText (number + i) t).flatten

/-- The number of the line that was classified. -/
def line? : Event → Option Nat
  | classified line _ _ => some line
  | _ => none

/-- The number and the kind that were warned about. -/
def warning? : Event → Option (Nat × WarningKind)
  | warned line kind => some (line, kind)
  | _ => none

/-- Whether the conversion was said to be finished. -/
def isFinished : Event → Bool
  | finished .. => true
  | _ => false

variable {number : Nat} {t : Text} {ts : List Text}

theorem ofTexts_cons : ofTexts number (t :: ts) = ofText number t ++ ofTexts (number + 1) ts := by
  simp [ofTexts, List.mapIdx_cons, Nat.add_assoc, Nat.add_comm 1]

/-- The events of a line: the first says its number, and the others warn. -/
theorem filterMap_ofText (number : Nat) (t : Text) : (ofText number t).filterMap line? = [number] ∧
    (ofText number t).filterMap warning? =
      (Emission.ofText number t).warnings.map (fun w => (w.line, w.kind)) ∧
    ∀ e ∈ ofText number t, e.isFinished = false := by
  have hline : line? ∘ (fun w : Warning => warned w.line w.kind) = fun _ => none := rfl
  have hwarning : warning? ∘ (fun w : Warning => warned w.line w.kind) =
      some ∘ fun w => (w.line, w.kind) := rfl
  refine ⟨?_, ?_, ?_⟩
  · rw [ofText, List.filterMap_cons, List.filterMap_map, hline, List.filterMap_none]
    rfl
  · rw [ofText, List.filterMap_cons, List.filterMap_map, hwarning, List.filterMap_eq_map]
    rfl
  · intro e he
    rcases List.mem_cons.1 he with rfl | he
    · rfl
    · obtain ⟨w, -, rfl⟩ := List.mem_map.1 he
      rfl

theorem filterMap_line?_ofTexts (number : Nat) (ts : List Text) :
    (ofTexts number ts).filterMap line? = List.range' number ts.length := by
  induction ts generalizing number with
  | nil => rfl
  | cons t ts ih =>
    rw [ofTexts_cons, List.filterMap_append, (filterMap_ofText number t).1, ih, List.length_cons,
      List.range'_succ, List.singleton_append]

theorem filterMap_warning?_ofTexts (number : Nat) (ts : List Text) : (ofTexts number ts).filterMap warning? =
    ((Emission.ofTexts number ts).flatMap Emission.warnings).map fun w => (w.line, w.kind) := by
  induction ts generalizing number with
  | nil => rfl
  | cons t ts ih =>
    rw [ofTexts_cons, List.filterMap_append, (filterMap_ofText number t).2.1, ih,
      Emission.ofTexts_cons, List.flatMap_cons, List.map_append]

theorem isFinished_of_mem_ofTexts {e : Event} (he : e ∈ ofTexts number ts) : e.isFinished = false := by
  induction ts generalizing number with
  | nil => cases he
  | cons t ts ih =>
    rw [ofTexts_cons, List.mem_append] at he
    rcases he with he | he
    · exact (filterMap_ofText number t).2.2 e he
    · exact ih he

/-- A log that is open as far as it goes shows everything. -/
theorem shows_trace (e : Event) : (Filter.upTo .trace).shows e = true := by
  rw [Filter.shows_upTo]
  cases e <;> rfl

end Log.Event

namespace Dbml.Emission

/-- The warnings of a line are those with its number. -/
theorem filter_warnings_ofTexts {number i : Nat} {t : Text} {ts : List Text} (h : ts[i]? = some t) :
    ((ofTexts number ts).flatMap warnings).filter (·.line = number + i) =
      (ofText (number + i) t).warnings := by
  obtain ⟨hi, ht⟩ := List.getElem?_eq_some_iff.1 h
  have hsplit : ts = ts.take i ++ t :: ts.drop (i + 1) := by
    rw [← ht, ← List.drop_eq_getElem_cons hi, List.take_append_drop]
  have hlength : (ts.take i).length = i := List.length_take_of_le (Nat.le_of_lt hi)
  have hbefore : ((ofTexts number (ts.take i)).flatMap warnings).filter (·.line = number + i) = [] := by
    refine List.filter_eq_nil_iff.2 fun w hw => ?_
    have hline := line_of_mem_ofTexts hw
    simp only [decide_eq_true_eq]
    omega
  have hafter : ((ofTexts (number + i + 1) (ts.drop (i + 1))).flatMap warnings).filter
      (·.line = number + i) = [] := by
    refine List.filter_eq_nil_iff.2 fun w hw => ?_
    have hline := line_of_mem_ofTexts hw
    simp only [decide_eq_true_eq]
    omega
  have hself : (ofText (number + i) t).warnings.filter (·.line = number + i) =
      (ofText (number + i) t).warnings :=
    List.filter_eq_self.2 fun w hw => decide_eq_true (line_of_mem_ofText hw)
  conv_lhs => rw [hsplit]
  rw [ofTexts_append, hlength, ofTexts_cons, List.flatMap_append, List.flatMap_cons,
    List.filter_append, List.filter_append, hbefore, hself, hafter, List.append_nil, List.nil_append]

end Dbml.Emission

namespace Source

variable {source : Text} {c : Conversion} {m : Malformed}

/-- **A line that is read** is told about in terms of its text. -/
theorem events_of_parse {p : PhysicalLine} {l : Line} (h : p.parse = .ok l) :
    Reading.events ⟨p, l⟩ = Event.ofText p.number p.text := by
  have hparse := PhysicalLine.parse_eq_ok_iff.1 h
  rw [Event.ofText, ← Line.head_of_parse hparse, ← Line.size_eq_card hparse,
    Emission.ofText_of_parse hparse]
  rfl

/-- **Lines that are not broken** are told about one after the other, in front of what is told of
the lines behind them. -/
theorem events_read_place {ps : List Text} (h : ∀ p ∈ ps, ¬ Line.IsBroken (dropReturn p))
    (later : List PhysicalLine) : ∀ number offset,
      (read (place number offset ps ++ later)).1.flatMap Reading.events =
        Event.ofTexts number (ps.map dropReturn) ++ (read later).1.flatMap Reading.events := by
  induction ps with
  | nil => intro number offset; rfl
  | cons p ps ih =>
    intro number offset
    obtain ⟨l, hl⟩ := Line.exists_parse_ok number (h p List.mem_cons_self)
    have hp : PhysicalLine.parse ⟨number, offset, dropReturn p⟩ = .ok l :=
      PhysicalLine.parse_eq_ok_iff.2 hl
    have hrest := ih (fun q hq => h q (List.mem_cons_of_mem p hq)) (number + 1)
      (offset + byteLength p + 1)
    rw [place, List.cons_append, read, hp]
    simp only [List.flatMap_cons]
    rw [hrest, events_of_parse hp, List.map_cons, Event.ofTexts_cons, List.append_assoc]

/-- The log of a source that is converted. -/
theorem events_of_ok (h : convert source = .ok c) : events source =
    Event.ofTexts 1 (texts source) ++ [.finished c.linesRead c.linesEmitted c.warnings.length] := by
  obtain ⟨hu, -⟩ := convert_eq_ok_iff.1 h
  have hunbroken : ∀ p ∈ pieces source, ¬ Line.IsBroken (dropReturn p) :=
    fun p hp => hu _ (List.mem_map_of_mem hp)
  have hlog := events_read_place hunbroken [] 1 (bodyOffset source)
  rw [List.append_nil] at hlog
  have hread : (read []).1.flatMap Reading.events = [] := rfl
  rw [hread, List.append_nil] at hlog
  unfold convert transcribe at h
  unfold events transcribe
  have hlines : physicalLines source = place 1 (bodyOffset source) (pieces source) := rfl
  rw [← hlines] at hlog
  cases hr : read (physicalLines source) with
  | mk rs malformed =>
    rw [hr] at h hlog
    cases malformed with
    | some m => cases h
    | none =>
      cases h
      rw [texts, ← hlog]

/-- The log of a source that is refused ends in front of the line that refuses it. -/
theorem events_of_error (h : convert source = .error m) : 1 ≤ m.line ∧ m.line ≤ (texts source).length ∧
    events source = Event.ofTexts 1 ((texts source).take (m.line - 1)) := by
  obtain ⟨before, piece, segs, b, ⟨⟨after, hpieces⟩, hu⟩, hseg, hm⟩ := convert_eq_error_iff.1 h
  have hline : m.line = before.length + 1 := by rw [hm]; rfl
  have htexts : texts source = before.map dropReturn ++ dropReturn piece :: after.map dropReturn := by
    rw [texts, hpieces, List.map_append, List.map_cons]
  have htake : (texts source).take (m.line - 1) = before.map dropReturn := by
    rw [htexts, hline, Nat.add_sub_cancel]
    exact List.take_left' (List.length_map _)
  have hread : ∀ number offset, (read (place number offset (piece :: after))).1 = [] := by
    intro number offset
    obtain ⟨m', hm'⟩ : ∃ m', PhysicalLine.parse ⟨number, offset, dropReturn piece⟩ = .error m' :=
      ⟨_, by rw [PhysicalLine.parse, Line.parse_of_breaksAt hseg]; rfl⟩
    rw [place, read, hm']
  have hlog := events_read_place hu
    (place (1 + before.length) (bodyOffset source + byteLength (ended '\n' before)) (piece :: after))
    1 (bodyOffset source)
  rw [← place_append, ← hpieces, hread, List.flatMap_nil, List.append_nil] at hlog
  refine ⟨by omega, ?_, ?_⟩
  · rw [htexts, hline, List.length_append, List.length_map, List.length_cons]
    omega
  · rw [htake, ← hlog]
    rw [convert_eq_error_iff_read] at h
    have hlines : physicalLines source = place 1 (bodyOffset source) (pieces source) := rfl
    rw [← hlines]
    unfold events transcribe
    cases hr : read (physicalLines source) with
    | mk rs malformed =>
      rw [hr] at h
      subst h
      rfl

end Source

/-- **The log agrees with the result.** It shows each physical line in order, with the statement of
its head, the number of its different parameter names and its warnings. If the source is
converted, the counts come last, and what was warned about are the warnings of the conversion. If
it is refused on a line, the log ends in front of that line. -/
theorem events_agree (source : Text) :
    (events source).filter (Filter.upTo .trace).shows = events source ∧
      (∀ c, convert source = .ok c →
        events source = Event.ofTexts 1 (texts source) ++
          [.finished c.linesRead c.linesEmitted c.warnings.length] ∧
        (events source).filterMap Event.line? = List.range' 1 (source.count '\n' + 1) ∧
        (events source).filterMap Event.warning? = c.warnings.map (fun w => (w.line, w.kind)) ∧
        ∀ i t, (texts source)[i]? = some t →
          (Emission.ofText (1 + i) t).warnings = c.warnings.filter (·.line = 1 + i)) ∧
      ∀ m, convert source = .error m →
        1 ≤ m.line ∧ m.line ≤ source.count '\n' + 1 ∧
        events source = Event.ofTexts 1 ((texts source).take (m.line - 1)) ∧
        (events source).filterMap Event.line? = List.range' 1 (m.line - 1) ∧
        ∀ e ∈ events source, e.isFinished = false := by
  refine ⟨List.filter_eq_self.2 fun e _ => e.shows_trace, ?_, ?_⟩
  · intro c h
    have hevents := events_of_ok h
    obtain ⟨-, rfl⟩ := convert_eq_ok_iff.1 h
    refine ⟨hevents, ?_, ?_, ?_⟩
    · rw [hevents, List.filterMap_append, Event.filterMap_line?_ofTexts, length_texts]
      exact List.append_nil _
    · rw [hevents, List.filterMap_append, Event.filterMap_warning?_ofTexts]
      exact List.append_nil _
    · intro i t ht
      exact (Emission.filter_warnings_ofTexts ht).symm
  · intro m h
    obtain ⟨hpos, hle, hevents⟩ := events_of_error h
    rw [length_texts] at hle
    refine ⟨hpos, hle, hevents, ?_, ?_⟩
    · rw [hevents, Event.filterMap_line?_ofTexts, List.length_take, length_texts, Nat.min_eq_left (by omega)]
    · intro e he
      rw [hevents] at he
      exact Event.isFinished_of_mem_ofTexts he

/-- A source with two names on its first line, a warning on its second and nothing behind its last
line feed, and one that is refused on its third line. -/
theorem events_agree_of_warned :
    let source := "create_table :a, id: x, force: y, id: :uuid\n\tt.point \"p\"\r\n".toList
    let refused := "end\nt.point \"p\"\nt.text \"q\", null x\nend\n".toList
    let w : Warning := ⟨2, .unsupportedType "t.point".toList, "\tt.point \"p\"".toList⟩
    let c : Conversion := ⟨2, [Emission.opening ":a".toList, w.bestEffort "p".toList], [w]⟩
    let m : Malformed := ⟨3, "null".toList, 'x', ⟨33, 34⟩⟩
    convert source = .ok c ∧
      events source = [.classified 1 .openTable 2, .classified 2 (.column "t.point".toList) 0,
        .warned 2 w.kind, .classified 3 .unrecognized 0, .finished 2 2 1] ∧
      (events source).filterMap Event.line? = [1, 2, 3] ∧
      (events source).filterMap Event.warning? = [(2, w.kind)] ∧
      convert refused = .error m ∧ (events refused).filterMap Event.line? = [1, 2] ∧
      ∀ e ∈ events refused, e.isFinished = false := by
  intro source refused w c m
  have hc : convert source = .ok c := by decide +kernel
  have hm : convert refused = .error m := by decide +kernel
  have hevents : events source = [.classified 1 .openTable 2, .classified 2 (.column "t.point".toList) 0,
      .warned 2 w.kind, .classified 3 .unrecognized 0, .finished 2 2 1] := by decide +kernel
  have hcount : source.count '\n' = 2 := by decide +kernel
  obtain ⟨-, hok, -⟩ := events_agree source
  obtain ⟨-, -, herror⟩ := events_agree refused
  obtain ⟨-, hlines, hwarned, -⟩ := hok c hc
  obtain ⟨-, -, -, hbefore, hfinished⟩ := herror m hm
  rw [hcount] at hlines
  exact ⟨hc, hevents, hlines, hwarned, hm, hbefore, hfinished⟩

end MigrationDbml
