import MigrationDbml.Proofs.Emissions
import MigrationDbml.Proofs.RoundTrip

/-!
# What lines contain

What is read on a line is taken from its segments, so a character that no segment holds
is nowhere on the line (`lacks_of_parse`). That goes for the two characters at which a
source is cut (`IsCut`): line feeds cut off lines, and commas cut off segments.

* `count_text`: a column has a comma for each setting but the first, and no line feed.
* `newline_not_mem_lines`: no emitted line has a line feed.
-/

namespace MigrationDbml

open Text Dbml

/-- The characters at which a source is cut. -/
def Text.IsCut (c : Char) : Prop := c = '\n' ∨ c = ','

/-- Whether a character is nowhere on a line. -/
structure Line.Lacks (c : Char) (l : Line) : Prop where
  head : c ∉ l.head
  name : c ∉ l.name
  values : ∀ e ∈ l.params.entries, ∀ v ∈ e.2, c ∉ v

variable {c : Char} {s t : Text} {l : Line} {number : Nat}

theorem Text.IsCut.not_mem (hc : IsCut c) (hfeed : '\n' ∉ s) (hcomma : ',' ∉ s) : c ∉ s := by
  rcases hc with rfl | rfl
  · exact hfeed
  · exact hcomma

theorem Text.IsCut.not_mem_between {a b : Char} (hc : IsCut c) (hfeed : '\n' ∉ [a, b])
    (hcomma : ',' ∉ [a, b]) (h : c ∉ t) : c ∉ a :: t ++ [b] := by
  have hab := hc.not_mem hfeed hcomma
  rw [List.mem_cons, List.mem_singleton, not_or] at hab
  rw [List.cons_append, List.mem_cons, List.mem_append, List.mem_singleton, not_or, not_or]
  exact ⟨hab.1, h, hab.2⟩

theorem Text.not_mem_ofNat {c : Char} (hc : c.isDigit = false) (n : Nat) : c ∉ Text.ofNat n := by
  intro hm
  have hdigit := Nat.isDigit_of_mem_toDigits (by decide) (by decide) hm
  rw [hc] at hdigit
  cases hdigit

theorem Param.value_subset_of_parse {p : Param} (h : Param.parse number t = .ok p) :
    ∀ v ∈ p.values, v ⊆ t := by
  obtain ⟨s, rfl⟩ := Param.exists_shape t
  rw [Param.parse_shape] at h
  intro v hv
  cases s with
  | blank t ht => cases h; cases hv
  | named l => cases h; cases hv
  | valued l rest =>
    cases h
    obtain ⟨k, hk, rfl⟩ := List.mem_map.1 hv
    obtain ⟨-, hsub⟩ := Literal.canWrite_of_mem_scan rest k (List.mem_of_mem_filter hk)
    intro d hd
    have := hsub hd
    simp [Param.Shape.text, this]
  | broken b => cases h

theorem Lead.head_subset (t : Text) : (Lead.ofText t).head ⊆ t :=
  List.Subset.trans (word_subset _) (trimStart_subset t)

theorem Lead.name_subset (t : Text) : (Lead.ofText t).name ⊆ t := by
  have hafter := List.Subset.trans (afterWord_subset (trimStart t)) (trimStart_subset t)
  unfold Lead.ofText
  simp only
  cases hs : Literal.scan (afterWord (trimStart t)) with
  | nil => exact List.nil_subset t
  | cons k ks =>
    obtain ⟨-, hsub⟩ := Literal.canWrite_of_mem_scan (afterWord (trimStart t)) k (by rw [hs]; simp)
    exact List.Subset.trans hsub hafter

namespace Line

theorem Lacks.withParams (h : l.Lacks c) {ps : List Param} (hps : ∀ p ∈ ps, ∀ v ∈ p.values, c ∉ v) :
    (l.withParams ps).Lacks c := by
  induction ps generalizing l with
  | nil => exact h
  | cons p ps ih =>
    refine ih ⟨h.head, h.name, fun e he => ?_⟩ fun q hq => hps q (List.mem_cons_of_mem p hq)
    -- an entry is the one written or was there before
    rcases Params.mem_replaceEntry he with rfl | he
    · exact hps p List.mem_cons_self
    · exact h.values e he

/-- **What is read on a line is taken from its segments.** -/
theorem lacks_of_parse (h : parse number t = .ok l) (hc : ∀ s ∈ segments t, c ∉ s) : l.Lacks c := by
  obtain ⟨first, rest, ps, hs, hps, rfl⟩ := parse_eq_ok_iff.1 h
  have hfirst := hc first (by rw [hs]; exact List.mem_cons_self)
  have hlead : (ofLead (Lead.ofText first)).Lacks c :=
    ⟨fun hm => hfirst (Lead.head_subset first hm), fun hm => hfirst (Lead.name_subset first hm),
      fun e he => by cases he⟩
  refine hlead.withParams fun p hp v hv hm => ?_
  have hok : (.ok p : Except Malformed Param) ∈ rest.map (Param.parse number) := by
    rw [hps]; exact List.mem_map_of_mem hp
  obtain ⟨s, hsr, hparse⟩ := List.mem_map.1 hok
  refine hc s (by rw [hs]; exact List.mem_cons_of_mem first hsr) ?_
  exact Param.value_subset_of_parse hparse v hv hm

/-- **What is read on a line of a source holds no cut.** -/
theorem lacks_of_isCut (h : parse number t = .ok l) (ht : '\n' ∉ t) (hc : IsCut c) : l.Lacks c := by
  refine lacks_of_parse h fun s hs hm => ?_
  rcases hc with rfl | rfl
  · -- a segment is a part of the text
    obtain ⟨before, after, heq⟩ := List.append_of_mem hs
    refine ht ?_
    rw [eq_of_splitOn heq]
    simp [hm]
  · exact not_mem_of_mem_splitOn hs hm

theorem Lacks.of_get? (h : l.Lacks c) {name : Text} {values : List Text}
    (hget : l.params.get? name = some values) : ∀ v ∈ values, c ∉ v := by
  obtain ⟨before, after, heq, -⟩ := List.lookup_eq_some_iff.1 hget
  exact h.values (name, values) (by rw [heq]; simp)

theorem Lacks.of_first? (h : l.Lacks c) {name v : Text} (hfirst : l.params.first? name = some v) :
    c ∉ v := by
  obtain ⟨values, hget, hhead⟩ := Option.bind_eq_some_iff.1 hfirst
  exact h.of_get? hget v (List.mem_of_head? hhead)

end Line

namespace Dbml

theorem mem_of_mem_escape (h : c ∈ escape t) : c = '\\' ∨ c ∈ t := by
  obtain ⟨d, hd, hm⟩ := List.mem_flatMap.1 h
  split at hm
  · rcases List.mem_cons.1 hm with rfl | hm
    · exact .inl rfl
    · rw [List.mem_singleton.1 hm]; exact .inr hd
  · rw [List.mem_singleton.1 hm]; exact .inr hd

theorem not_mem_quoted (hc : IsCut c) (h : c ∉ t) : c ∉ quoted t := by
  refine hc.not_mem_between (by decide) (by decide) fun hm => ?_
  rcases mem_of_mem_escape hm with rfl | hm
  · rcases hc with hc | hc <;> cases hc
  · exact h hm

theorem newline_not_mem_ofNat (n : Nat) : '\n' ∉ Text.ofNat n := Text.not_mem_ofNat (by decide) n

namespace Column

variable {type : ColumnType} {values : List Text} {d : Default}

theorem not_mem_default (hc : IsCut c) (h : ∀ v ∈ values, c ∉ v)
    (hd : Default.ofValues? type values = some d) : c ∉ d.text := by
  unfold Default.ofValues? at hd
  split at hd
  · cases hd
  · rename_i e _
    cases hd
    exact hc.not_mem_between (by decide) (by decide) (h e (by simp))
  · cases hd
    split
    · exact not_mem_quoted hc (h _ List.mem_cons_self)
    · exact h _ List.mem_cons_self

/-- No setting holds a cut, so the settings are told apart by the commas between them. -/
theorem not_mem_of_mem_settings (hc : IsCut c) (h : l.Lacks c) :
    ∀ s ∈ (ofLine type l).settings, c ∉ s := by
  have hnote : c ∉ "note: ".toList := hc.not_mem (by decide) (by decide)
  have hnull : c ∉ "not null".toList := hc.not_mem (by decide) (by decide)
  have hdefault : c ∉ "default: ".toList := hc.not_mem (by decide) (by decide)
  intro s hs
  rcases List.mem_append.1 hs with hs | hs
  · rcases List.mem_append.1 hs with hs | hs
    · obtain ⟨v, hv, rfl⟩ := Option.map_eq_some_iff.1 (Option.mem_toList.1 hs)
      exact List.not_mem_append hnote (not_mem_quoted hc (h.of_first? hv))
    · split at hs
      · rw [List.mem_singleton.1 hs]; exact hnull
      · cases hs
  · obtain ⟨d, hd, rfl⟩ := Option.map_eq_some_iff.1 (Option.mem_toList.1 hs)
    obtain ⟨values, hget, hd⟩ := Option.bind_eq_some_iff.1 hd
    exact List.not_mem_append hdefault (not_mem_default hc (h.of_get? hget) hd)

theorem count_intercalate (hc : IsCut c) {ss : List Text} (h : ∀ s ∈ ss, c ∉ s) :
    ([',', ' '].intercalate ss).count c = if c = ',' then ss.length - 1 else 0 := by
  have hbetween : [',', ' '].count c = if c = ',' then 1 else 0 := by
    rcases hc with rfl | rfl <;> decide
  induction ss with
  | nil => simp
  | cons s rest ih =>
    have hs := List.count_eq_zero_of_not_mem (h s List.mem_cons_self)
    cases rest with
    | nil => simp [hs]
    | cons r rest =>
      have hrest := ih fun r hr => h r (List.mem_cons_of_mem s hr)
      rw [List.intercalate_cons_cons, List.count_append, List.count_append, hs, hbetween, hrest]
      split
      · simp only [List.length_cons]; omega
      · rfl

theorem name_not_mem (hc : IsCut c) (type : ColumnType) : c ∉ type.name := by
  refine hc.not_mem ?_ ?_ <;> cases type <;> decide

theorem not_mem_limitText (hc : IsCut c) (h : l.Lacks c) : c ∉ (ofLine type l).limitText := by
  unfold limitText
  cases hv : (ofLine type l).limit with
  | none => exact List.not_mem_nil
  | some v => exact hc.not_mem_between (by decide) (by decide) (h.of_first? hv)

theorem count_settingsText (hc : IsCut c) (k : Column) :
    k.settingsText.count c = ([',', ' '].intercalate k.settings).count c := by
  unfold settingsText
  split
  · rename_i hnone
    rw [hnone]; rfl
  · have hopen : [' ', '['].count c = 0 := List.count_eq_zero_of_not_mem (hc.not_mem (by decide) (by decide))
    have hclose : [']'].count c = 0 := List.count_eq_zero_of_not_mem (hc.not_mem (by decide) (by decide))
    have htext : ' ' :: '[' :: [',', ' '].intercalate k.settings ++ [']'] =
        [' ', '['] ++ [',', ' '].intercalate k.settings ++ [']'] := rfl
    rw [htext, List.count_append, List.count_append, hopen, hclose]
    omega

/-- **The cuts in a column.** There is a comma for each setting but the first, and no line feed. -/
theorem count_text (hc : IsCut c) (h : l.Lacks c) : (ofLine type l).text.count c =
    if c = ',' then (ofLine type l).settings.length - 1 else 0 := by
  have hspace : [' '].count c = 0 := List.count_eq_zero_of_not_mem (hc.not_mem (by decide) (by decide))
  have hname := List.count_eq_zero_of_not_mem h.name
  have htype := List.count_eq_zero_of_not_mem (name_not_mem hc type)
  have hlimit : (ofLine type l).limitText.count c = 0 :=
    List.count_eq_zero_of_not_mem (not_mem_limitText hc h)
  have hsettings := count_settingsText hc (ofLine type l)
  rw [count_intercalate hc (not_mem_of_mem_settings hc h)] at hsettings
  have htext : (ofLine type l).text = [' '] ++ ([' '] ++ (l.name ++ ([' '] ++ type.name))) ++
      (ofLine type l).limitText ++ (ofLine type l).settingsText := by
    simp only [text, ofLine, List.cons_append, List.nil_append, List.append_assoc]
  rw [htext]
  simp only [List.count_append, hspace, hname, htype, hlimit, hsettings, Nat.zero_add]

end Column

theorem newline_not_mem_faithful (h : l.Lacks '\n') : ∀ e ∈ l.faithful, '\n' ∉ e := by
  intro e he
  unfold Line.faithful at he
  split at he
  · have hopen : '\n' ∉ "Table \"".toList := by decide
    have hclose : '\n' ∉ ['"', ' ', '\x7b'] := by decide
    rw [List.mem_cons] at he
    rcases he with he | he
    · rw [he]
      exact List.not_mem_append (List.not_mem_append hopen h.name) hclose
    · split at he
      · rw [List.mem_singleton.1 he]; decide +kernel
      · cases he
  · rw [List.mem_singleton.1 he]; decide
  · obtain ⟨type, -, rfl⟩ := Option.map_eq_some_iff.1 (Option.mem_toList.1 he)
    exact List.count_eq_zero.1 (Column.count_text (.inl rfl) h)
  · cases he

theorem newline_not_mem_reference (number : Nat) (ht : '\n' ∉ t) : '\n' ∉ reference number t := by
  have hlead : '\n' ∉ " Please check the original source: [".toList := by decide +kernel
  have hclose : '\n' ∉ [']', ' '] := by decide
  exact List.not_mem_append
    (List.not_mem_append (List.not_mem_append hlead (newline_not_mem_ofNat number)) hclose) ht

theorem newline_not_mem_bestEffort {kind : WarningKind} (hk : l.flaw? = some kind) (h : l.Lacks '\n')
    (number : Nat) (ht : '\n' ∉ t) : '\n' ∉ Warning.bestEffort l.name ⟨number, kind, t⟩ := by
  refine List.not_mem_append ?_ (newline_not_mem_reference number ht)
  cases kind with
  | unsupportedId =>
    have hid : '\n' ∉ "  id varchar(40) [pk] // Unsupported feature.".toList := by decide +kernel
    exact hid
  | unsupportedType keyword =>
    -- the keyword is the head of the line
    obtain ⟨rfl, -, -⟩ := Line.flaw?_eq_unsupportedType_iff.1 hk
    have hindent : '\n' ∉ [' ', ' '] := by decide
    have htype : '\n' ∉ " undefined // Unsupported type <".toList := by decide +kernel
    have hclose : '\n' ∉ ['>', '.'] := by decide
    exact List.not_mem_append
      (List.not_mem_append (List.not_mem_append (List.not_mem_append hindent h.name) htype) h.head) hclose

/-- **No emitted line has a line feed.** -/
theorem newline_not_mem_lines (h : Line.parse number t = .ok l) (ht : '\n' ∉ t) :
    ∀ e ∈ (Emission.ofLine number t l).lines, '\n' ∉ e := by
  have hlacks := Line.lacks_of_isCut h ht (.inl rfl)
  rw [Emission.ofLine_eq]
  intro e he
  rcases List.mem_append.1 he with he | he
  · exact newline_not_mem_faithful hlacks e he
  · obtain ⟨kind, hk, rfl⟩ := Option.map_eq_some_iff.1 (Option.mem_toList.1 he)
    exact newline_not_mem_bestEffort hk hlacks number ht

end Dbml

end MigrationDbml
