import MigrationDbml.Proofs.Diagnostics
import MigrationDbml.Proofs.Reports

/-!
# A line for each warning

Outside of JSON each warning is told in a line of its own. The line holds text of the source: the
keyword of a column, which consists of keyword characters, and for people the cited line, which
was cut off at the line feeds. So neither breaks the line, and the keyword adds no field to it.

* `isTrimOf_trim`: what trimming takes off, and what it leaves.
* `not_mem_text_of_flaw?`: the separators are nowhere in a kind.
* `readFields?_fields`: the number and the kind are read back from a line of fields.
* `warningLines_of_convert`: the lines of all warnings of a source.
-/

namespace MigrationDbml

open Text Source Dbml

namespace Text

/-- Whether `s` is what is left of a text without the blanks at its two ends. -/
structure IsTrimOf (s t : Text) : Prop where
  eq_append : ∃ v w, t = v ++ s ++ w ∧ (∀ d ∈ v, isBlank d = true) ∧ ∀ d ∈ w, isBlank d = true
  head : ∀ d, s.head? = some d → isBlank d = false
  last : ∀ d, s.getLast? = some d → isBlank d = false

theorem exists_trimEnd_append (t : Text) :
    ∃ w, t = trimEnd t ++ w ∧ ∀ d ∈ w, isBlank d = true := by
  obtain ⟨w, hw, ht⟩ := exists_append_trimStart t.reverse
  refine ⟨w.reverse, ?_, fun d hd => hw d (List.mem_reverse.1 hd)⟩
  have hreverse := congrArg List.reverse ht
  rw [List.reverse_reverse, List.reverse_append] at hreverse
  exact hreverse

/-- **Trimming** takes the blanks off both ends and nothing else. -/
theorem isTrimOf_trim (t : Text) : (trim t).IsTrimOf t := by
  obtain ⟨v, hv, ht⟩ := exists_append_trimStart t
  obtain ⟨w, hend, hw⟩ := exists_trimEnd_append (trimStart t)
  refine ⟨⟨v, w, ?_, hv, hw⟩, ?_, ?_⟩
  · rw [trim, List.append_assoc, ← hend, ← ht]
  · intro d hd
    obtain ⟨r, hr⟩ := List.head?_eq_some_iff.1 hd
    have hstart : trimStart t = d :: (r ++ w) := by
      rw [hend, ← trim, hr, List.cons_append]
    exact not_isBlank_of_trimStart hstart
  · intro d hd
    rw [trim, trimEnd, List.getLast?_reverse] at hd
    exact head?_dropWhile hd

end Text

/-- A character that no keyword may have is in none. -/
theorem Statement.not_mem_of_isColumnKeyword {head : Text} {d : Char}
    (h : isColumnKeyword head = true) (hd : isKeywordChar d = false) (hdot : d ≠ '.') : d ∉ head := by
  obtain ⟨word, rfl, -, hchars⟩ := isColumnKeyword_iff.1 h
  have ht : d ≠ 't' := by
    rintro rfl
    cases hd
  intro hm
  rcases List.mem_cons.1 hm with hm | hm
  · exact ht hm
  rcases List.mem_cons.1 hm with hm | hm
  · exact hdot hm
  have hword : isKeywordChar d = true := by simpa [isKeywordChar] using hchars d hm
  rw [hd] at hword
  cases hword

/-- **No separator is in a kind.** The keyword is the only part of it that comes from the source. -/
theorem Line.not_mem_text_of_flaw? {l : Line} {kind : WarningKind} (h : l.flaw? = some kind) {d : Char}
    (hd : d ∈ ['\t', '\n']) : d ∉ kind.text := by
  have hconst : ∀ s : Text, '\t' ∉ s → '\n' ∉ s → d ∉ s := by
    intro s htab hfeed
    rcases List.mem_pair.1 hd with rfl | rfl
    · exact htab
    · exact hfeed
  cases kind with
  | unsupportedId => exact hconst _ (by decide +kernel) (by decide +kernel)
  | unsupportedType keyword =>
    obtain ⟨-, hkeyword, -⟩ := flaw?_eq_unsupportedType_iff.1 h
    have hnot := hconst keyword
      (Statement.not_mem_of_isColumnKeyword hkeyword (by decide) (by decide))
      (Statement.not_mem_of_isColumnKeyword hkeyword (by decide) (by decide))
    exact List.not_mem_append (List.not_mem_append (hconst _ (by decide +kernel) (by decide +kernel)) hnot)
      (hconst _ (by decide) (by decide))

/-! ## Reading a warning back -/

/-- The kind that words stand for. -/
def WarningKind.ofText? (t : Text) : Option WarningKind :=
  let before := "unsupported type <".toList
  if t = "unsupported id feature".toList then some unsupportedId
  else if before <+: t ∧ t.getLast? = some '>' then
    some (unsupportedType (t.drop before.length).dropLast)
  else none

theorem WarningKind.ofText?_text (kind : WarningKind) : ofText? kind.text = some kind := by
  cases kind with
  | unsupportedId => rfl
  | unsupportedType keyword =>
    have hne : "unsupported type <".toList ++ keyword ++ ['>'] ≠ "unsupported id feature".toList := by
      intro h
      have hletter := congrArg (·[12]?) h
      simp at hletter
    have hprefix : "unsupported type <".toList <+: "unsupported type <".toList ++ keyword ++ ['>'] := by
      rw [List.append_assoc]
      exact List.prefix_append _ _
    unfold ofText? text
    simp only [if_neg hne, hprefix, List.getLast?_concat, and_self, if_true]
    rw [List.append_assoc, List.drop_left, List.dropLast_concat]

namespace Warning

/-- The number and the kind of a warning as fields with tabs between them. -/
def fields (w : Warning) : Text := ['\t'].intercalate ["warning".toList, Text.ofNat w.line, w.kind.text]

/-- Reads the number and the kind back from fields. -/
def readFields? (t : Text) : Option (Nat × WarningKind) :=
  match t.splitOn '\t' with
  | [label, number, kind] =>
    if label = "warning".toList then
      (WarningKind.ofText? kind).map fun k => (Nat.ofDigitChars 10 number 0, k)
    else none
  | _ => none

/-- Whether a line tells machines a warning: it is one line of three fields, and the number and
the kind are read back from it. -/
structure IsFields (w : Warning) (t : Text) : Prop where
  newline_not_mem : '\n' ∉ t
  count_tab : t.count '\t' = 2
  read : readFields? t = some (w.line, w.kind)

/-- Whether a line tells people a warning about a source: it is one line, and ends with the cited
physical line without the blanks at its ends. -/
structure IsSentence (source : Text) (w : Warning) (t : Text) : Prop where
  newline_not_mem : '\n' ∉ t
  eq_append : ∃ p ∈ physicalLines source, p.number = w.line ∧ ∃ cited : Text, cited.IsTrimOf p.text ∧
    t = "warning: line ".toList ++ Text.ofNat w.line ++ ": ".toList ++ w.kind.text ++ ": ".toList ++ cited

variable {w : Warning}

theorem splitOn_fields (h : '\t' ∉ w.kind.text) :
    w.fields.splitOn '\t' = ["warning".toList, Text.ofNat w.line, w.kind.text] := by
  refine List.splitOn_intercalate '\t' ?_ (List.cons_ne_nil _ _)
  intro t ht
  simp only [List.mem_cons, List.not_mem_nil, or_false] at ht
  rcases ht with rfl | rfl | rfl
  · decide
  · exact Text.not_mem_ofNat (by decide) _
  · exact h

/-- **The number and the kind are read back.** -/
theorem readFields?_fields (h : '\t' ∉ w.kind.text) : readFields? w.fields = some (w.line, w.kind) := by
  have hnumber : Nat.ofDigitChars 10 (Text.ofNat w.line) 0 = w.line :=
    Nat.ofDigitChars_toDigits (by omega) (by omega)
  unfold readFields?
  rw [splitOn_fields h]
  simp only [if_true, WarningKind.ofText?_text, Option.map_some, hnumber]

theorem isFields_fields (h : ∀ d ∈ ['\t', '\n'], d ∉ w.kind.text) : w.IsFields w.fields := by
  have htab := h '\t' (by decide)
  refine ⟨?_, ?_, readFields?_fields htab⟩
  · refine Command.not_mem_intercalate (by decide) fun t ht => ?_
    simp only [List.mem_cons, List.not_mem_nil, or_false] at ht
    rcases ht with rfl | rfl | rfl
    · decide
    · exact newline_not_mem_ofNat _
    · exact h '\n' (by decide)
  · have hpieces := length_splitOn (c := '\t') w.fields
    rw [splitOn_fields htab] at hpieces
    exact (Nat.succ.inj hpieces).symm

theorem isSentence_text {source : Text} {p : PhysicalLine} (hp : p ∈ physicalLines source)
    (hline : w.line = p.number) (htext : w.sourceLine = p.text) (hfeed : '\n' ∉ p.text)
    (hkind : '\n' ∉ w.kind.text) : w.IsSentence source ("warning:".toList ++ ' ' :: w.text) := by
  have htrim := isTrimOf_trim p.text
  obtain ⟨before, after, hcited, -, -⟩ := htrim.eq_append
  have hnot : '\n' ∉ trim p.text := by
    intro hm
    refine hfeed ?_
    rw [hcited]
    exact List.mem_append_left _ (List.mem_append_right _ hm)
  have hlead : "warning: line ".toList = "warning:".toList ++ ' ' :: "line ".toList := by decide +kernel
  have happend : ∀ a b u k v e : Text, a ++ ' ' :: (b ++ u ++ k ++ v ++ k ++ e) =
      a ++ ' ' :: b ++ u ++ k ++ v ++ k ++ e := by
    intro a b u k v e
    simp only [List.append_assoc, List.cons_append]
  have heq : "warning:".toList ++ ' ' :: w.text = "warning: line ".toList ++ Text.ofNat w.line ++
      ": ".toList ++ w.kind.text ++ ": ".toList ++ trim p.text := by
    rw [hlead, ← htext]
    exact happend _ _ _ _ _ _
  have hcolon : '\n' ∉ ": ".toList := by decide
  have hstart : '\n' ∉ "warning: line ".toList := by decide +kernel
  refine ⟨?_, p, hp, hline.symm, trim p.text, htrim, heq⟩
  rw [heq]
  exact List.not_mem_append (List.not_mem_append (List.not_mem_append (List.not_mem_append
    (List.not_mem_append hstart (newline_not_mem_ofNat _)) hcolon) hkind) hcolon) hnot

end Warning

namespace Command

variable {s : Style} {c : Conversion}

/-- The lines that tell the warnings of a conversion. -/
def Style.warningLines (s : Style) (c : Conversion) : List Text := c.warnings.filterMap s.warning?

theorem Style.warningLines_plain (hquiet : s.quiet = false) (hmode : s.mode = .plain) :
    s.warningLines c = c.warnings.map Warning.fields := by
  have htells : s.warning? = some ∘ Warning.fields := by
    funext w
    rw [warning?, hquiet, if_neg Bool.false_ne_true, hmode]
    simp [Warning.fields]
  rw [warningLines, htells, List.filterMap_eq_map]

theorem Style.warningLines_human (hquiet : s.quiet = false) (hcolor : s.color = false)
    (hmode : s.mode = .human) :
    s.warningLines c = c.warnings.map fun w => "warning:".toList ++ ' ' :: w.text := by
  have htells : s.warning? = some ∘ fun w => "warning:".toList ++ ' ' :: w.text := by
    funext w
    rw [warning?, hquiet, if_neg Bool.false_ne_true, hmode]
    simp [label, hcolor]
  rw [warningLines, htells, List.filterMap_eq_map]

/-- A delivery starts with the lines of the warnings. -/
theorem Session.told_deliver {π σ : Type} [Path π] (fs : FileSystem σ π) (files : σ) (s : Style)
    (f : Log.Filter) (path target : π) (c : Conversion) :
    (s.warningLines c).map .line <+: (run fs files (deliver s f path target c)).told := by
  rw [deliver, run_tellAll, Outcome.told_afterTelling]
  exact List.prefix_append _ _

end Command

open Command

/-- What a warning of a conversion cites, and that no separator is in its kind. -/
theorem Source.exists_of_mem_warnings {source : Text} {c : Conversion} (h : convert source = .ok c)
    {w : Warning} (hw : w ∈ c.warnings) : (∃ p ∈ physicalLines source, w.line = p.number ∧
      w.sourceLine = p.text ∧ '\n' ∉ p.text) ∧ ∀ d ∈ ['\t', '\n'], d ∉ w.kind.text := by
  obtain ⟨rs, hreads, rfl⟩ := exists_reads h
  obtain ⟨r, hr, hw⟩ := List.mem_flatMap.1 hw
  obtain ⟨hflaw, hline, htext⟩ := Reading.mem_warnings_iff.1 hw
  have hp : r.source ∈ physicalLines source := by
    rw [← hreads.map_source]
    exact List.mem_map_of_mem hr
  exact ⟨⟨r.source, hp, hline, htext, hreads.newline_not_mem hr⟩,
    fun d hd => Line.not_mem_text_of_flaw? hflaw hd⟩

/-- Texts without line feeds that are told for warnings, each as a line. -/
theorem written_of_forall₂ {R : Warning → Text → Prop} (hR : ∀ w t, R w t → '\n' ∉ t)
    {ws : List Warning} {ts : List Text} (h : List.Forall₂ R ws ts) :
    (ended '\n' ts).count '\n' = ws.length ∧ (ended '\n' ts).splitOn '\n' = ts ++ [[]] := by
  have hfeed : ∀ t ∈ ts, '\n' ∉ t := by
    induction h with
    | nil => exact fun t ht => absurd ht List.not_mem_nil
    | cons hwt _ ih => exact List.forall_mem_cons.2 ⟨hR _ _ hwt, ih⟩
  rw [count_ended hfeed, h.length_eq]
  exact ⟨rfl, splitOn_ended hfeed⟩

/-- **A line for each warning.** Without colours a run that is not quiet tells the warnings of a
source in as many lines, in their order: for machines in lines of three fields from which the
number and the kind are read back, and for people in lines that cite the physical line. -/
theorem warningLines_of_convert {source : Text} {c : Conversion} (h : convert source = .ok c)
    {s : Style} (hquiet : s.quiet = false) (hcolor : s.color = false) :
    (s.mode = .plain → List.Forall₂ Warning.IsFields c.warnings (s.warningLines c)) ∧
      (s.mode = .human → List.Forall₂ (Warning.IsSentence source) c.warnings (s.warningLines c)) ∧
      (s.mode ≠ .json → (ended '\n' (s.warningLines c)).count '\n' = c.warnings.length ∧
        (ended '\n' (s.warningLines c)).splitOn '\n' = s.warningLines c ++ [[]]) ∧
      ∀ {π σ : Type} [Path π] (fs : FileSystem σ π) (files : σ) (f : Log.Filter) (path target : π),
        (s.warningLines c).map .line <+: (Session.run fs files (Session.deliver s f path target c)).told := by
  have hfields : s.mode = .plain → List.Forall₂ Warning.IsFields c.warnings (s.warningLines c) := by
    intro hmode
    rw [Style.warningLines_plain hquiet hmode, List.forall₂_map_right_iff, List.forall₂_same]
    intro w hw
    obtain ⟨-, hkind⟩ := exists_of_mem_warnings h hw
    exact Warning.isFields_fields hkind
  have hsentence : s.mode = .human →
      List.Forall₂ (Warning.IsSentence source) c.warnings (s.warningLines c) := by
    intro hmode
    rw [Style.warningLines_human hquiet hcolor hmode, List.forall₂_map_right_iff, List.forall₂_same]
    intro w hw
    obtain ⟨⟨p, hp, hline, htext, hfeed⟩, hkind⟩ := exists_of_mem_warnings h hw
    exact Warning.isSentence_text hp hline htext hfeed (hkind '\n' (by decide))
  refine ⟨hfields, hsentence, ?_, fun fs files f path target => Session.told_deliver fs files s f path target c⟩
  intro hmode
  cases hm : s.mode with
  | human => exact written_of_forall₂ (fun _ _ h => h.newline_not_mem) (hsentence hm)
  | plain => exact written_of_forall₂ (fun _ _ h => h.newline_not_mem) (hfields hm)
  | json => exact absurd hm hmode

/-- Behind a byte order mark: an `id` with tabs between its values, and an unknown type on an
indented line with a carriage return at its end. -/
theorem warningLines_of_convert_of_tabs :
    let source := "\uFEFFcreate_table :a, id: :uuid\tx\n\tt.point_2 \"p\"\r\n".toList
    let v : Warning := ⟨1, .unsupportedId, "create_table :a, id: :uuid\tx".toList⟩
    let w : Warning := ⟨2, .unsupportedType "t.point_2".toList, "\tt.point_2 \"p\"".toList⟩
    let c : Conversion := ⟨2, [Emission.opening ":a".toList, v.bestEffort [], w.bestEffort "p".toList], [v, w]⟩
    let plain : Style := ⟨.plain, false, false⟩
    let human : Style := ⟨.human, false, false⟩
    convert source = .ok c ∧
      List.Forall₂ Warning.IsFields [v, w] (plain.warningLines c) ∧
      List.Forall₂ (Warning.IsSentence source) [v, w] (human.warningLines c) ∧
      (ended '\n' (plain.warningLines c)).count '\n' = 2 ∧
      (ended '\n' (human.warningLines c)).count '\n' = 2 := by
  intro source v w c plain human
  have hc : convert source = .ok c := by decide +kernel
  obtain ⟨hfields, -, hplain, -⟩ := warningLines_of_convert hc (s := plain) rfl rfl
  obtain ⟨-, hsentence, hhuman, -⟩ := warningLines_of_convert hc (s := human) rfl rfl
  exact ⟨hc, hfields rfl, hsentence rfl, (hplain (by decide)).1, (hhuman (by decide)).1⟩

end MigrationDbml
