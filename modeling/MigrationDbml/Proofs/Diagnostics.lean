import MigrationDbml.Proofs.Conversions
import MigrationDbml.Proofs.Framing
import MigrationDbml.Proofs.Parameters

/-!
# Warnings

A reading is flawed when its head is a column keyword of no known type, or when it opens
a table whose `id` parameter has several values (`Reading.Flawed`). The warnings are those
of the flawed readings, in order.

The best-effort line of a reading is the only one that ends by citing it: a
faithful line is too short for that, or has too few commas
(`not_citation_suffix_of_mem_faithful`). So what is cited in the output and what is
warned about are the same lines (`convert_warnings`).
-/

namespace MigrationDbml

open Text Source Dbml

/-- What on a physical line has no faithful form, in terms of its head and its text. -/
inductive Reading.Flawed (r : Reading) : WarningKind → Prop
  | type {word : Text} (head_eq : r.line.head = 't' :: '.' :: word) (ne_nil : word ≠ [])
      (chars : ∀ d ∈ word, d.isAlphanum = true ∨ d = '_')
      (unknown : ∀ type : ColumnType, type.keyword ≠ r.line.head) :
      Flawed r (.unsupportedType r.line.head)
  | id {first second : Text} {rest : List Text} (head_eq : r.line.head = "create_table".toList)
      (values : Line.lastValues? r.source.number r.source.text "id".toList =
        some (first :: second :: rest))
      (no_integer : first ≠ ":integer".toList) : Flawed r .unsupportedId

namespace Reading

variable {r : Reading} {kind : WarningKind} {e : Text}

theorem flawed_iff (h : r.source.parse = .ok r.line) : r.Flawed kind ↔ r.line.flaw? = some kind := by
  have hid := Line.get?_eq_lastValues? (PhysicalLine.parse_eq_ok_iff.1 h) "id".toList
  constructor
  · intro hf
    cases hf with
    | type head_eq ne_nil chars unknown =>
      have hkeyword := Statement.isColumnKeyword_iff.2 ⟨_, head_eq, ne_nil, chars⟩
      have hnone := ColumnType.ofKeyword?_eq_none_iff.2 unknown
      exact Line.flaw?_eq_unsupportedType_iff.2 ⟨rfl, hkeyword, hnone⟩
    | id head_eq values no_integer =>
      exact Line.flaw?_eq_unsupportedId_iff.2 ⟨head_eq, _, _, _, hid.trans values, no_integer⟩
  · intro hf
    cases kind with
    | unsupportedType keyword =>
      obtain ⟨rfl, hkeyword, hnone⟩ := Line.flaw?_eq_unsupportedType_iff.1 hf
      obtain ⟨word, hhead, hne, hchars⟩ := Statement.isColumnKeyword_iff.1 hkeyword
      exact .type hhead hne hchars (ColumnType.ofKeyword?_eq_none_iff.1 hnone)
    | unsupportedId =>
      obtain ⟨hhead, first, second, rest, hget, hint⟩ := Line.flaw?_eq_unsupportedId_iff.1 hf
      exact .id hhead (hid.symm.trans hget) hint

theorem mem_warnings_iff {w : Warning} : w ∈ r.emission.warnings ↔
    r.line.flaw? = some w.kind ∧ w.line = r.source.number ∧ w.sourceLine = r.source.text := by
  rw [emission, Emission.ofLine_eq, Option.mem_toList, Option.map_eq_some_iff]
  constructor
  · rintro ⟨kind, hkind, rfl⟩
    exact ⟨hkind, rfl, rfl⟩
  · rintro ⟨hkind, hline, htext⟩
    exact ⟨w.kind, hkind, by rw [← hline, ← htext]⟩

end Reading

namespace Dbml

variable {number : Nat} {t e : Text} {l : Line}

/-- How the physical line with the given number and text is cited. -/
def citation (number : Nat) (t : Text) : Text :=
  "Please check the original source: [".toList ++ Text.ofNat number ++ "] ".toList ++ t

theorem reference_eq (number : Nat) (t : Text) : reference number t = ' ' :: citation number t := by
  have happend : ∀ {lead later close close' : Text}, lead = ' ' :: later → close = close' →
      lead ++ Text.ofNat number ++ close ++ t = ' ' :: (later ++ Text.ofNat number ++ close' ++ t) := by
    rintro _ later close _ rfl rfl
    rfl
  exact happend (by decide +kernel) (by decide)

theorem length_citation (number : Nat) (t : Text) : t.length + 37 ≤ (citation number t).length := by
  have hlead : "Please check the original source: [".toList.length = 35 := by decide +kernel
  have hclose : "] ".toList.length = 2 := by decide
  unfold citation
  rw [List.length_append, List.length_append, List.length_append, hlead, hclose]
  omega

theorem length_opening (name : Text) : (Emission.opening name).length = name.length + 10 := by
  have hlength : ∀ s : Text, s.length = 7 →
      (s ++ name ++ ['"', ' ', '\x7b']).length = name.length + 10 := by
    intro s hs
    simp only [List.length_append, List.length_cons, List.length_nil]
    omega
  exact hlength "Table \"".toList (by decide)

theorem count_le_of_citation_suffix (h : citation number t <:+ e) : t.count ',' ≤ e.count ',' := by
  have htext : t <:+ e := List.IsSuffix.trans (List.suffix_append _ t) h
  exact htext.sublist.count_le ','

theorem length_toList_bind_le {α β : Type} (o : Option α) (f : α → Option β) :
    (o.bind f).toList.length ≤ if o.isSome then 1 else 0 := by
  cases o with
  | none => exact Nat.le_refl _
  | some a =>
    rw [Option.bind_some]
    cases f a with
    | none => exact Nat.zero_le _
    | some b => exact Nat.le_refl _

namespace Column

/-- A column has no more settings than its line has parameters: each is from another one. -/
theorem length_settings_le (type : ColumnType) (l : Line) :
    (ofLine type l).settings.length ≤ l.params.size := by
  have hnames : ["comment".toList, "null".toList, "default".toList].Nodup := by decide
  have hcount := l.params.countP_le_size hnames
  have hnote : ((ofLine type l).note.map fun t => "note: ".toList ++ quoted t).toList.length ≤
      if (l.params.get? "comment".toList).isSome then 1 else 0 := by
    have hbind := length_toList_bind_le (l.params.get? "comment".toList) List.head?
    rwa [Option.length_toList, Option.isSome_map, ← Option.length_toList]
  have hnull : (if (ofLine type l).notNull then ["not null".toList] else []).length ≤
      if (l.params.get? "null".toList).isSome then 1 else 0 := by
    split
    · rename_i hnotNull
      have hfirst : l.params.first? "null".toList = some "false".toList := of_decide_eq_true hnotNull
      obtain ⟨values, hget, -⟩ := Option.bind_eq_some_iff.1 hfirst
      rw [hget]
      exact Nat.le_refl _
    · exact Nat.zero_le _
  have hdefault : ((ofLine type l).default.map fun d => "default: ".toList ++ d.text).toList.length ≤
      if (l.params.get? "default".toList).isSome then 1 else 0 := by
    have hbind := length_toList_bind_le (l.params.get? "default".toList) (Default.ofValues? type)
    rwa [Option.length_toList, Option.isSome_map, ← Option.length_toList]
  rw [List.countP_cons, List.countP_cons, List.countP_cons, List.countP_nil] at hcount
  rw [settings, List.length_append, List.length_append]
  omega

theorem length_text_of_size_eq_zero (type : ColumnType) (h : l.params.size = 0) :
    (ofLine type l).text.length ≤ l.name.length + 11 := by
  have htype : type.name.length ≤ 8 := by cases type <;> decide
  have hsettings := length_settings_le type l
  rw [h, Nat.le_zero, List.length_eq_zero_iff] at hsettings
  have hlimit : (ofLine type l).limit = none := by
    rw [← Params.length_names, List.length_eq_zero_iff] at h
    cases hv : (ofLine type l).limit with
    | none => rfl
    | some v =>
      obtain ⟨values, hget, -⟩ := Option.bind_eq_some_iff.1 hv
      have hname := Params.mem_names_of_get? (Option.isSome_iff_exists.2 ⟨values, hget⟩)
      rw [h] at hname
      cases hname
  rw [text, limitText, settingsText, hlimit, if_pos hsettings]
  simp only [Option.map_none, Option.getD_none, List.append_nil, List.length_cons,
    List.length_append, ofLine]
  omega

end Column

/-- **No faithful line ends by citing its source.** A column with settings has too few
commas for that, and any other line is too short. -/
theorem not_citation_suffix_of_mem_faithful (h : Line.parse number t = .ok l) (ht : '\n' ∉ t) :
    ∀ e ∈ l.faithful, ¬ citation number t <:+ e := by
  have hname := Line.length_name_le h
  have hcitation := length_citation number t
  intro e he hsuffix
  have hlength := hsuffix.length_le
  unfold Line.faithful at he
  split at he
  · have hid : "  id unsigned [pk, increment]".toList.length = 29 := by decide +kernel
    rcases List.mem_cons.1 he with he | he
    · rw [he, length_opening] at hlength
      omega
    · split at he
      · rw [List.mem_singleton.1 he, hid] at hlength
        omega
      · cases he
  · rw [List.mem_singleton.1 he, List.length_singleton] at hlength
    omega
  · obtain ⟨type, -, rfl⟩ := Option.map_eq_some_iff.1 (Option.mem_toList.1 he)
    have hcommas := count_le_of_citation_suffix hsuffix
    rw [Column.count_text (.inr rfl) (Line.lacks_of_isCut h ht (.inr rfl)), if_pos rfl] at hcommas
    have hsettings := Column.length_settings_le type l
    have hparams := Line.size_le_count h
    have hnone : l.params.size = 0 := by omega
    have htext := Column.length_text_of_size_eq_zero type hnone
    omega
  · cases he

end Dbml

namespace Reading

variable {r : Reading} {kind : WarningKind} {e : Text}

theorem lines_of_flaw (h : r.line.flaw? = some kind) : r.emission.lines = r.line.faithful ++
    [Warning.bestEffort r.line.name ⟨r.source.number, kind, r.source.text⟩] := by
  rw [emission, Emission.ofLine_eq, h]; rfl

theorem lines_of_no_flaw (h : r.line.flaw? = none) : r.emission.lines = r.line.faithful := by
  rw [emission, Emission.ofLine_eq, h]
  exact List.append_nil _

/-- What cites the source is the best-effort line. -/
theorem flawed_of_citation_suffix (h : r.source.parse = .ok r.line) (ht : '\n' ∉ r.source.text)
    (he : e ∈ r.emission.lines) (hsuffix : citation r.source.number r.source.text <:+ e) :
    r.emission.lines.getLast? = some e ∧ ∃ kind, r.line.flaw? = some kind := by
  have hfaithful : e ∉ r.line.faithful := fun hm =>
    not_citation_suffix_of_mem_faithful (PhysicalLine.parse_eq_ok_iff.1 h) ht e hm hsuffix
  cases hflaw : r.line.flaw? with
  | none =>
    rw [lines_of_no_flaw hflaw] at he
    exact absurd he hfaithful
  | some kind =>
    rw [lines_of_flaw hflaw] at he
    have hlast := List.mem_singleton.1 ((List.mem_append.1 he).resolve_left hfaithful)
    exact ⟨by rw [lines_of_flaw hflaw, List.getLast?_concat, hlast], kind, rfl⟩

/-- Whether the lines that cite a reading are those that are warned about. -/
structure Cited (r : Reading) (ws : List Warning) : Prop where
  warned : ∀ w ∈ ws, w.line = r.source.number → ∃ e, r.emission.lines.getLast? = some e ∧
    ' ' :: ("Please check the original source: [".toList ++ Text.ofNat w.line ++ "] ".toList ++
      w.sourceLine) <:+ e
  cited : ∀ e ∈ r.emission.lines, "Please check the original source: [".toList ++
      Text.ofNat r.source.number ++ "] ".toList ++ r.source.text <:+ e →
    r.emission.lines.getLast? = some e ∧ ∃ w ∈ ws, w.line = r.source.number

end Reading

namespace Source

variable {source : Text} {rs : List Reading} {r : Reading}

namespace Reads

/-- **The line of a flaw is counted.** -/
theorem number_le (h : Reads source rs) (hr : r ∈ rs) {kind : WarningKind} (hf : r.Flawed kind) :
    1 ≤ r.source.number ∧ r.source.number ≤ lineCount source := by
  obtain ⟨i, hi⟩ := List.mem_iff_getElem?.1 hr
  have hnumber := h.number_eq hi
  refine ⟨by omega, ?_⟩
  by_contra hgt
  -- the empty line at the end has no head
  have hnil := eq_nil_of_lineCount_le (h.text_eq hi) (by omega)
  have hparse := PhysicalLine.parse_eq_ok_iff.1 (h.parse_eq r hr)
  rw [hnil, parse_nil] at hparse
  have hhead : r.line.head = [] := by rw [← Except.ok.inj hparse]; rfl
  cases hf with
  | type head_eq => rw [hhead] at head_eq; cases head_eq
  | id head_eq => rw [hhead] at head_eq; cases head_eq

theorem pairwise_warnings (h : Reads source rs) :
    (rs.flatMap fun r => r.emission.warnings).Pairwise fun v w => v.line < w.line := by
  have hnumbers : rs.Pairwise fun r r' => r.source.number < r'.source.number := by
    rw [← List.pairwise_map, h.map_number]
    exact List.pairwise_lt_range' 1
  rw [List.pairwise_flatMap]
  constructor
  · intro r _
    rw [Reading.emission, Emission.ofLine_eq]
    cases r.line.flaw? with
    | none => exact .nil
    | some kind => exact List.pairwise_singleton _ _
  · refine hnumbers.imp ?_
    intro r r' hlt v hv w hw
    obtain ⟨-, hline, -⟩ := Reading.mem_warnings_iff.1 hv
    obtain ⟨-, hline', -⟩ := Reading.mem_warnings_iff.1 hw
    omega

theorem cited (h : Reads source rs) (hr : r ∈ rs) :
    r.Cited (rs.flatMap fun r => r.emission.warnings) := by
  constructor
  · intro w hw hline
    obtain ⟨r', hr', hw⟩ := List.mem_flatMap.1 hw
    obtain ⟨hflaw, hnumber, htext⟩ := Reading.mem_warnings_iff.1 hw
    obtain rfl := h.eq_of_number_eq hr hr' (hline.symm.trans hnumber)
    refine ⟨_, by rw [Reading.lines_of_flaw hflaw, List.getLast?_concat], ?_⟩
    rw [hnumber, htext]
    show ' ' :: citation r.source.number r.source.text <:+ _
    rw [← reference_eq]
    exact List.suffix_append _ _
  · intro e he hsuffix
    obtain ⟨hlast, kind, hflaw⟩ :=
      Reading.flawed_of_citation_suffix (h.parse_eq r hr) (h.newline_not_mem hr) he hsuffix
    have hw : ⟨r.source.number, kind, r.source.text⟩ ∈ r.emission.warnings :=
      Reading.mem_warnings_iff.2 ⟨hflaw, rfl, rfl⟩
    exact ⟨hlast, ⟨r.source.number, kind, r.source.text⟩, List.mem_flatMap.2 ⟨r, hr, hw⟩, rfl⟩

end Reads

end Source

/-- **Warnings are complete and faithful.** Each flawed line has the one warning, and the lines
of the output that cite the source are those that are warned about. -/
theorem convert_warnings {source : Text} {c : Conversion} (h : convert source = .ok c) :
    ∃ rs, Reads source rs ∧
      (rs.map fun r => r.source.number) = List.range' 1 (source.count '\n' + 1) ∧
      (rs.map fun r => r.source.text) = ((body source).splitOn '\n').map dropReturn ∧
      c.linesRead = source.count '\n' + (if source = [] ∨ source.getLast? = some '\n' then 0 else 1) ∧
      (c.warnings.Pairwise fun v w => v.line < w.line) ∧
      (∀ w ∈ c.warnings, 1 ≤ w.line ∧ w.line ≤ c.linesRead) ∧
      (∀ w, w ∈ c.warnings ↔
        ∃ r ∈ rs, r.Flawed w.kind ∧ w.line = r.source.number ∧ w.sourceLine = r.source.text) ∧
      c.dbml.splitOn '\n' = (rs.flatMap fun r => r.emission.lines) ++ [[]] ∧
      ∀ r ∈ rs, r.Cited c.warnings := by
  obtain ⟨rs, hreads, rfl⟩ := exists_reads h
  have hmem : ∀ w, w ∈ (Conversion.ofReadings (lineCount source) rs).warnings ↔
      ∃ r ∈ rs, r.Flawed w.kind ∧ w.line = r.source.number ∧ w.sourceLine = r.source.text := by
    intro w
    rw [Conversion.ofReadings, List.mem_flatMap]
    constructor
    · rintro ⟨r, hr, hw⟩
      rw [Reading.mem_warnings_iff, ← Reading.flawed_iff (hreads.parse_eq r hr)] at hw
      exact ⟨r, hr, hw⟩
    · rintro ⟨r, hr, hw⟩
      rw [Reading.flawed_iff (hreads.parse_eq r hr), ← Reading.mem_warnings_iff] at hw
      exact ⟨r, hr, hw⟩
  refine ⟨rs, hreads, hreads.map_number, hreads.map_text, lineCount_eq source, hreads.pairwise_warnings,
    ?_, hmem, ?_, fun r hr => hreads.cited hr⟩
  · intro w hw
    obtain ⟨r, hr, hf, hline, -⟩ := (hmem w).1 hw
    rw [hline]
    exact hreads.number_le hr hf
  · refine Conversion.splitOn_dbml fun e he => ?_
    obtain ⟨r, hr, he⟩ := List.mem_flatMap.1 he
    exact hreads.newline_not_mem_lines hr e he

/-- Behind a byte order mark: an `id` written twice, a blank line, and an unknown type on a line
that nothing ends. -/
theorem convert_warnings_of_marked :
    let source := "\uFEFFcreate_table :a, id: :integer, id: :uuid x\r\n\r\nt.point_2 \"p\"".toList
    let v : Warning := ⟨1, .unsupportedId, "create_table :a, id: :integer, id: :uuid x".toList⟩
    let w : Warning := ⟨3, .unsupportedType "t.point_2".toList, "t.point_2 \"p\"".toList⟩
    let c : Conversion := ⟨3, [Emission.opening ":a".toList, v.bestEffort [], w.bestEffort "p".toList], [v, w]⟩
    convert source = .ok c ∧ c.linesRead = source.count '\n' + 1 ∧
      ∃ r : Reading, r.Flawed .unsupportedId ∧ r.source.number = 1 ∧ r.Cited c.warnings := by
  intro source v w c
  have hc : convert source = .ok c := by decide +kernel
  obtain ⟨rs, -, -, -, hcount, -, -, hmem, -, hcited⟩ := convert_warnings hc
  obtain ⟨r, hr, hf, hline, -⟩ := (hmem v).1 List.mem_cons_self
  exact ⟨hc, hcount, r, hf, hline.symm, hcited r hr⟩

end MigrationDbml
