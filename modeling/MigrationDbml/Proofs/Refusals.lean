import MigrationDbml.Proofs.Runs
import MigrationDbml.Proofs.Sources

/-!
# Refused sources

What a refusal says about the source. It names the first malformed segment of the
first line that has one (`convert_error_iff_first_break`), and its span covers the
character found there and nothing else (`convert_error_located`), so the diagnostic
that a run tells points at that character of the text that was read.
-/

namespace MigrationDbml

open Text Source Command

namespace Source

/-- The physical line that a text behind the start of a source ends in. -/
def currentLine (t : Text) : Text := (body t).rtakeWhile (· ≠ '\n')

/-- The segment that a text behind the start of a source ends in. -/
def currentSegment (t : Text) : Text := (currentLine t).rtakeWhile (· ≠ ',')

end Source

/-- **The place of a malformed parameter.** `before` is the source up to the character
that was found, and `after` is what follows it. -/
structure Malformed.Located (source : Text) (m : Malformed) (before after : Text) : Prop where
  cut_start : splitAt? m.span.start source = some (before, m.found :: after)
  cut_stop : splitAt? m.span.stop source = some (before ++ [m.found], after)
  bytes : ((Utf8.encode source).take m.span.stop).drop m.span.start = Utf8.encode [m.found]
  line_eq : m.line = before.count '\n' + 1
  comma : ',' ∈ currentLine before
  label : ∃ l : Param.Label, currentSegment before = l.text ∧ l.name = m.name ∧ l.gap ≠ []
  not_blank : isBlank m.found = false
  not_colon : m.found ≠ ':'
  not_comma : m.found ≠ ','

theorem Malformed.Located.of_cut {source before after : Text} {m : Malformed}
    (hs : source = before ++ m.found :: after)
    (hspan : m.span = ⟨byteLength before, byteLength before + m.found.utf8Size⟩) :
    splitAt? m.span.start source = some (before, m.found :: after) ∧
      splitAt? m.span.stop source = some (before ++ [m.found], after) ∧
      ((Utf8.encode source).take m.span.stop).drop m.span.start = Utf8.encode [m.found] := by
  have hstop : byteLength (before ++ [m.found]) = m.span.stop := by rw [hspan]; simp
  have hs' : source = (before ++ [m.found]) ++ after := by rw [hs]; simp
  refine ⟨splitAt?_eq_some_iff.2 ⟨hs, by rw [hspan]⟩, splitAt?_eq_some_iff.2 ⟨hs', hstop⟩, ?_⟩
  rw [hs', Utf8.encode_append, ← hstop, ← length_encode, List.take_left, Utf8.encode_append, hspan,
    ← length_encode, List.drop_left]

/-- The diagnostic is as long as the character that was found. -/
theorem Malformed.Located.length_ofMalformed {source before after : Text} {m : Malformed}
    (h : m.Located source before after) (file : Text) :
    (Diagnostic.ofMalformed file source m).length = byteLength [m.found] := by
  obtain ⟨-, hstart⟩ := splitAt?_eq_some_iff.1 h.cut_start
  obtain ⟨-, hstop⟩ := splitAt?_eq_some_iff.1 h.cut_stop
  have hlength : (Diagnostic.ofMalformed file source m).length = m.span.stop - m.span.start := rfl
  rw [byteLength_append, hstart] at hstop
  rw [hlength]
  omega

variable {source piece : Text} {lines segs : List Text} {b : Param.Break}

/-- The source up to a break: the byte order mark, the lines before, the segments before
on the line, and the label. -/
theorem exists_cut_of_breaksAt (hat : Source.BreaksAt source lines piece)
    (hseg : Line.BreaksAt (dropReturn piece) segs b) :
    ∃ before after, source = before ++ b.found :: after ∧
      body before = ended '\n' lines ++ (ended ',' segs ++ b.text) ∧
      byteLength before = bodyOffset source + byteLength (ended '\n' lines)
        + byteLength (ended ',' segs) + byteLength b.text ∧
      before.count '\n' = lines.length ∧ '\n' ∉ ended ',' segs ++ b.text := by
  obtain ⟨mk, hsource, hmk, hnmk⟩ := exists_body_append source
  obtain ⟨rest, hbody⟩ := hat.body_eq
  obtain ⟨others, hline⟩ := hseg.text_eq
  obtain ⟨hnlines, hnpiece⟩ := hat.newline_not_mem
  set lead := ended ',' segs ++ b.text with hlead
  have hbody' : body source = ended '\n' lines ++ lead ++ b.found :: (others ++ rest) := by
    rw [hbody, hline]; simp
  have hcut : source = mk ++ (ended '\n' lines ++ lead) ++ b.found :: (others ++ rest) := by
    rw [List.append_assoc, ← hbody', ← hsource]
  -- a comma stands before the break, so the byte order mark is cut off from the part before it too
  have hne : mk ++ (ended '\n' lines ++ lead) ≠ [] := by
    have := List.ne_nil_of_mem hseg.comma_mem
    simp [hlead, this]
  have hn : '\n' ∉ lead := by
    rw [hline] at hnpiece
    exact fun hn => hnpiece (List.mem_append_left _ hn)
  refine ⟨mk ++ (ended '\n' lines ++ lead), others ++ rest, hcut, ?_, ?_, ?_, hn⟩
  · rw [hcut, body_append hne] at hbody'
    exact List.append_cancel_right hbody'
  · rw [hlead, byteLength_append, byteLength_append, byteLength_append, hmk]
    omega
  · rw [List.count_append, List.count_append, count_ended hnlines,
      List.count_eq_zero_of_not_mem hnmk, List.count_eq_zero_of_not_mem hn]
    omega

/-- **A refusal is located in the source.** -/
theorem exists_located {m : Malformed} (h : convert source = .error m) :
    ∃ before after, m.Located source before after := by
  obtain ⟨lines, piece, segs, b, hat, hseg, rfl⟩ := convert_eq_error_iff.1 h
  obtain ⟨before, after, hcut, hbody, hlen, hcount, hn⟩ := exists_cut_of_breaksAt hat hseg
  have hline : currentLine before = ended ',' segs ++ b.text := by
    rw [currentLine, hbody, rtakeWhile_ended lines hn]
  -- the label and the character found are in one segment, so no comma is among them
  have hc := hseg.comma_not_mem
  rw [Param.Break.segment, List.mem_append, not_or] at hc
  have hsegment : currentSegment before = b.text := by
    rw [currentSegment, hline, rtakeWhile_ended segs hc.1]
  obtain ⟨hblank, hcolon⟩ := Param.isNameChar_iff.1 b.isNameChar_found
  set m := (b.malformed (lines.length + 1)).shift
    (byteLength (ended ',' segs) + (bodyOffset source + byteLength (ended '\n' lines))) with hm
  have hspan : m.span = ⟨byteLength before, byteLength before + m.found.utf8Size⟩ := by
    rw [hm, hlen]
    simp only [Malformed.shift, Param.Break.malformed, Span.shift, Span.mk.injEq]
    omega
  obtain ⟨hstart, hstop, hbytes⟩ := Malformed.Located.of_cut hcut hspan
  refine ⟨before, after, hstart, hstop, hbytes, by rw [hcount]; rfl, ?_,
    ⟨b.toLabel, hsegment, rfl, b.gap_ne_nil⟩, hblank, hcolon, ?_⟩
  · rw [hline]; exact List.mem_append_left _ hseg.comma_mem
  · exact fun e => hc.2 (by rw [← e]; exact List.mem_cons_self)

/-- Whether a run for people that reads `source` ends by pointing at the character between
`before` and `after`, in a diagnostic that holds the source and names its file. -/
def Malformed.IsShown (source : Text) (m : Malformed) (before after : Text) : Prop :=
  ∀ {π σ : Type} [Path π] (fs : FileSystem σ π) (files : σ) (s : Style) (f : Log.Filter)
    (path target : π) (content : Bytes), s.mode = .human → fs.read files path = .ok content →
    Utf8.decode content = source →
    ∃ d, (Session.run fs files (Session.convert s f path target)).told.getLast? = some (.diagnostic d) ∧
      d.file = Path.text path ∧ d.source = source ∧
      splitAt? d.offset source = some (before, m.found :: after) ∧ d.length = byteLength [m.found]

/-- The last thing a run with a malformed source tells is the failure. -/
theorem told_run_convert {π σ : Type} [Path π] {fs : FileSystem σ π} {files : σ} {path : π}
    {content : Bytes} {m : Malformed} (hread : fs.read files path = .ok content)
    (h : convert (Utf8.decode content) = .error m) (s : Style) (f : Log.Filter) (target : π) :
    (Session.run fs files (Session.convert s f path target)).told.getLast? =
      some (s.failure (.malformed (Path.text path) m (Utf8.decode content))) := by
  have hresult : (transcribe (Utf8.decode content)).result = .error m := h
  have hfail : ∀ failure : Failure,
      (Session.run fs files (Session.fail s failure)).told = [s.failure failure] := fun _ => rfl
  -- the notices of the reading and of the conversion come first
  rw [Session.convert, Session.run_log, Session.run, hread]
  simp only [Session.run_log, Outcome.told_afterTelling, hresult]
  rw [hfail, ← List.append_assoc, List.getLast?_concat]

/-- **A refusal points at its character.** The span of the refusal covers the character that
was found behind the name where a colon has to stand, and so does the diagnostic told. -/
theorem convert_error_located {m : Malformed} (h : convert source = .error m) :
    ∃ before after, m.Located source before after ∧ m.IsShown source before after := by
  obtain ⟨before, after, hl⟩ := exists_located h
  refine ⟨before, after, hl, ?_⟩
  intro π σ _ fs files s f path target content hs hread hc
  subst hc
  refine ⟨Diagnostic.ofMalformed (Path.text path) (Utf8.decode content) m, ?_, rfl, rfl,
    hl.cut_start, hl.length_ofMalformed (Path.text path)⟩
  rw [told_run_convert hread h, Style.failure, hs]

/-- Behind a byte order mark, carriage returns, commas and blanks of several bytes. -/
theorem convert_error_located_of_wide :
    let source := "\uFEFFcreate_table \"é\"\r\n  t.string \"b\",\u3000null: x, límit\u3000 4, y 5\r\nend\n".toList
    let m : Malformed := ⟨2, "límit".toList, '4', ⟨59, 60⟩⟩
    convert source = .error m ∧
      ∃ before after, m.Located source before after ∧ m.IsShown source before after := by
  intro source m
  have h : convert source = .error m := by decide +kernel
  exact ⟨h, convert_error_located h⟩

/-- Whether the first malformed segment is on the line with the given number and has the given name
and character, when each line is given by its segments behind the first comma. -/
def FirstBreak (lines : List (List Text)) (line : Nat) (name : Text) (found : Char) : Prop :=
  ∃ earlier segs later, lines = earlier ++ segs :: later ∧
    (∀ e ∈ earlier, ∀ t ∈ e, ¬ Param.IsBroken t) ∧ line = earlier.length + 1 ∧
    ∃ (before : List Text) (b : Param.Break) (after : List Text),
      segs = before ++ b.segment :: after ∧ (∀ t ∈ before, ¬ Param.IsBroken t) ∧ b.name = name ∧
        b.found = found

theorem firstBreak_iff {line : Nat} {name : Text} {found : Char} :
    FirstBreak ((texts source).map fun t => (Line.segments t).tail) line name found ↔
      ∃ lines piece segs b, Source.BreaksAt source lines piece ∧
        Line.BreaksAt (dropReturn piece) segs b ∧
        line = lines.length + 1 ∧ b.name = name ∧ b.found = found := by
  constructor
  · rintro ⟨earlier, segs, later, hs, hu, hline, before, b, after, hseg, hb, hname, hfound⟩
    rw [texts, List.map_map] at hs
    obtain ⟨lines, rest, hp, rfl, hrest⟩ := List.map_eq_append_iff.1 hs
    obtain ⟨piece, more, rfl, rfl, rfl⟩ := List.map_eq_cons_iff.1 hrest
    rw [List.length_map] at hline
    obtain ⟨segs, hat⟩ := Line.exists_breaksAt_iff.2 ⟨before, after, hseg, hb⟩
    refine ⟨lines, piece, segs, b, ⟨⟨more, hp⟩, ?_⟩, hat, hline, hname, hfound⟩
    rintro q hq ⟨t, ht, hbroken⟩
    exact hu _ (List.mem_map_of_mem hq) t ht hbroken
  · rintro ⟨lines, piece, segs, b, ⟨⟨more, hp⟩, hu⟩, hat, hline, hname, hfound⟩
    obtain ⟨before, after, hseg, hb⟩ := Line.exists_breaksAt_iff.1 ⟨segs, hat⟩
    refine ⟨lines.map fun q => (Line.segments (dropReturn q)).tail, _,
      more.map fun q => (Line.segments (dropReturn q)).tail, ?_, ?_, ?_, before, b, after, hseg, hb,
      hname, hfound⟩
    · rw [texts, List.map_map, hp, List.map_append, List.map_cons]; rfl
    · intro e he t ht hbroken
      obtain ⟨q, hq, rfl⟩ := List.mem_map.1 he
      exact hu q hq ⟨t, ht, hbroken⟩
    · rw [List.length_map]
      exact hline

/-- **A source is refused exactly when it has a malformed segment**, and the refusal is about
the first one, whatever comes later. -/
theorem convert_error_iff_first_break (source : Text) :
    let unmarked := if source.head? = some '\uFEFF' then source.tail else source
    let lines := (unmarked.splitOn '\n').map fun t => if t.getLast? = some '\r' then t.dropLast else t
    let segments := lines.map fun t => (t.splitOn ',').tail
    ((∃ m, convert source = .error m) ↔ ∃ segs ∈ segments, ∃ t ∈ segs, Param.IsBroken t) ∧
      ∀ line name found, (∃ m, convert source = .error m ∧ m.line = line ∧ m.name = name ∧
        m.found = found) ↔ FirstBreak segments line name found := by
  intro unmarked lines segments
  have hsegments : segments = (texts source).map fun t => (Line.segments t).tail := rfl
  rw [hsegments]
  refine ⟨⟨?_, ?_⟩, ?_⟩
  · rintro ⟨m, h⟩
    by_contra hnone
    obtain ⟨c, hc⟩ := exists_convert_ok fun t ht hb =>
      hnone ⟨_, List.mem_map_of_mem ht, hb⟩
    rw [hc] at h
    cases h
  · rintro ⟨segs, hsegs, hbroken⟩
    obtain ⟨t, ht, rfl⟩ := List.mem_map.1 hsegs
    obtain ⟨lines, piece, hat, hbroken⟩ := Source.exists_breaksAt ht hbroken
    obtain ⟨segs, b, hseg⟩ := Line.exists_breaksAt hbroken
    exact ⟨_, convert_of_breaksAt hat hseg⟩
  · intro line name found
    rw [firstBreak_iff]
    constructor
    · rintro ⟨m, h, rfl, rfl, rfl⟩
      obtain ⟨lines, piece, segs, b, hat, hseg, rfl⟩ := convert_eq_error_iff.1 h
      exact ⟨lines, piece, segs, b, hat, hseg, rfl, rfl, rfl⟩
    · rintro ⟨lines, piece, segs, b, hat, hseg, rfl, rfl, rfl⟩
      exact ⟨_, convert_of_breaksAt hat hseg, rfl, rfl, rfl⟩

-- two lines are broken, and two segments of the first of them
example : convert "create_table :a\r\nt.text \"b\", null: x, limit 4, y 5\nend, z 6\n".toList =
    .error ⟨2, "limit".toList, '4', ⟨44, 45⟩⟩ := by
  decide +kernel

end MigrationDbml
