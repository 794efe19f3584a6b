import MigrationDbml.Proofs.Contents

/-!
# Columns are told apart

A column line is free text between fixed signs: the name ends at the first blank, the type at
the first character that is no letter, the limit at the first closing parenthesis. Settings are
cut at their commas, since no value that is read on a line holds a comma. So the parts of a
column are found again in its line.

* `escape_injective`, `quoted_injective`: escaping loses nothing.
* `intercalate_injective`: settings without commas are told apart.
* `Column.eq_of_text_eq`: columns with the same line have the same parts.
* `columns_eq_of_lines_eq`: the same for the lines that raw lines become.
-/

namespace MigrationDbml

open Text

namespace Dbml

/-- A quote never starts an escaped text: its backslash does. -/
theorem head?_escape_ne (t : Text) : (escape t).head? ≠ some '\'' := by
  cases t with
  | nil => intro h; cases h
  | cons c t =>
    intro h
    unfold escape at h
    rw [List.flatMap_cons] at h
    split at h
    · cases h
    · rename_i hc
      exact hc (Option.some.inj h)

theorem escape_cons (c : Char) (t : Text) :
    escape (c :: t) = (if c = '\'' then ['\\', c] else [c]) ++ escape t := rfl

/-- **Escaping loses nothing.** -/
theorem escape_injective : Function.Injective escape := by
  intro s
  induction s with
  | nil =>
    intro t h
    cases t with
    | nil => rfl
    | cons d t =>
      rw [escape_cons] at h
      split at h <;> cases h
  | cons c s ih =>
    intro t h
    cases t with
    | nil =>
      rw [escape_cons] at h
      split at h <;> cases h
    | cons d t =>
      rw [escape_cons, escape_cons] at h
      by_cases hc : c = '\'' <;> by_cases hd : d = '\''
      · subst hc hd
        rw [ih (List.append_cancel_left h)]
      · -- a backslash that stands for itself has no quote behind it
        subst hc
        rw [if_pos rfl, if_neg hd] at h
        have hhead := congrArg List.head? (List.tail_eq_of_cons_eq h)
        exact absurd hhead.symm (head?_escape_ne t)
      · subst hd
        rw [if_neg hc, if_pos rfl] at h
        have hhead := congrArg List.head? (List.tail_eq_of_cons_eq h)
        exact absurd hhead (head?_escape_ne s)
      · rw [if_neg hc, if_neg hd] at h
        have htail : escape s = escape t := List.tail_eq_of_cons_eq h
        rw [List.head_eq_of_cons_eq h, ih htail]

theorem quoted_injective : Function.Injective quoted := by
  intro s t h
  have hescape : escape s ++ ['\''] = escape t ++ ['\''] := List.tail_eq_of_cons_eq h
  exact escape_injective (List.append_cancel_right hescape)

namespace Default

/-- An expression and a quoted text start with different signs. -/
theorem eq_of_text_eq {d d' : Default} (hd : ∀ t, d ≠ verbatim t) (hd' : ∀ t, d' ≠ verbatim t)
    (h : d.text = d'.text) : d = d' := by
  cases d with
  | verbatim t => exact absurd rfl (hd t)
  | expression t =>
    cases d' with
    | verbatim t' => exact absurd rfl (hd' t')
    | quoted t' => cases h
    | expression t' =>
      have htail : t ++ ['\x60'] = t' ++ ['\x60'] := List.tail_eq_of_cons_eq h
      rw [List.append_cancel_right htail]
  | quoted t =>
    cases d' with
    | verbatim t' => exact absurd rfl (hd' t')
    | expression t' => cases h
    | quoted t' => rw [quoted_injective h]

theorem ne_verbatim_of_varchar {values : List Text} {d : Default}
    (h : ofValues? .varchar values = some d) (t : Text) : d ≠ verbatim t := by
  unfold ofValues? at h
  split at h
  · cases h
  · cases h; intro e; cases e
  · cases h; intro e; cases e

end Default

/-- **Settings without commas are told apart.** -/
theorem intercalate_injective {ss ss' : List Text} (hne : ss ≠ []) (hne' : ss' ≠ [])
    (hs : ∀ s ∈ ss, ',' ∉ s) (hs' : ∀ s ∈ ss', ',' ∉ s)
    (h : [',', ' '].intercalate ss = [',', ' '].intercalate ss') : ss = ss' := by
  have key : ∀ s (rest : List Text), [',', ' '].intercalate (s :: rest) =
      [','].intercalate (s :: rest.map (' ' :: ·)) := by
    intro s rest
    induction rest generalizing s with
    | nil => simp
    | cons r rest ih =>
      rw [List.intercalate_cons_cons, ih, List.map_cons, List.intercalate_cons_cons,
        intercalate_cons, intercalate_cons]
      simp
  have hcut : ∀ s (rest : List Text), (∀ r ∈ s :: rest, ',' ∉ r) →
      ([',', ' '].intercalate (s :: rest)).splitOn ',' = s :: rest.map (' ' :: ·) := by
    intro s rest hnot
    rw [key]
    refine List.splitOn_intercalate ',' ?_ (by simp)
    intro r hr
    rcases List.mem_cons.1 hr with rfl | hr
    · exact hnot _ List.mem_cons_self
    · obtain ⟨q, hq, rfl⟩ := List.mem_map.1 hr
      exact List.not_mem_cons_of_ne_of_not_mem (by decide) (hnot q (List.mem_cons_of_mem s hq))
  obtain ⟨s, rest, rfl⟩ := List.exists_cons_of_ne_nil hne
  obtain ⟨s', rest', rfl⟩ := List.exists_cons_of_ne_nil hne'
  have hsplit := congrArg (List.splitOn ',') h
  rw [hcut s rest hs, hcut s' rest' hs'] at hsplit
  have hrest := List.tail_eq_of_cons_eq hsplit
  have hspace : Function.Injective (' ' :: · : Text → Text) := fun a b e => List.tail_eq_of_cons_eq e
  rw [List.head_eq_of_cons_eq hsplit, hspace.list_map hrest]

namespace Column

/-- Whether the parts of a column can be told apart in its line. -/
structure Legible (c : Column) : Prop where
  name : ∀ d ∈ c.name, isBlank d = false
  limit : ∀ v, c.limit = some v → ')' ∉ v
  settings : ∀ s ∈ c.settings, ',' ∉ s

theorem isAlpha_of_mem_name (type : ColumnType) : ∀ d ∈ type.name, d.isAlpha = true := by
  cases type <;> decide

theorem find?_name (type : ColumnType) :
    (ColumnType.all.find? fun k => k.name == type.name) = some type := by
  cases type <;> decide

theorem name_injective : Function.Injective ColumnType.name := by
  intro type type' h
  have hfound := find?_name type
  rw [h, find?_name type'] at hfound
  exact (Option.some.inj hfound).symm

variable {c c' : Column}

theorem text_eq (c : Column) : c.text =
    ' ' :: ' ' :: (c.name ++ ' ' :: (c.type.name ++ (c.limitText ++ c.settingsText))) := by
  simp [text]

theorem head?_settingsText {d : Char} (h : c.settingsText.head? = some d) : d = ' ' := by
  unfold settingsText at h
  split at h
  · cases h
  · exact (Option.some.inj h).symm

theorem isAlpha_of_head? {d : Char} (h : (c.limitText ++ c.settingsText).head? = some d) :
    d.isAlpha = false := by
  unfold limitText at h
  cases hl : c.limit with
  | none =>
    rw [hl] at h
    rw [head?_settingsText h]
    decide
  | some v =>
    rw [hl] at h
    rw [← Option.some.inj h]
    decide

/-- The limit is told apart from the settings by its parentheses. -/
theorem eq_of_limitText_eq (hc : c.Legible) (hc' : c'.Legible)
    (h : c.limitText ++ c.settingsText = c'.limitText ++ c'.settingsText) :
    c.limit = c'.limit ∧ c.settingsText = c'.settingsText := by
  have hopen : ∀ (k : Column) (v r : Text), '(' :: v ++ [')'] ++ r ≠ k.settingsText := by
    intro k v r e
    have hhead : k.settingsText.head? = some '(' := by rw [← e]; rfl
    exact absurd (head?_settingsText hhead) (by decide)
  unfold limitText at h
  cases hl : c.limit with
  | none =>
    cases hl' : c'.limit with
    | none =>
      rw [hl, hl'] at h
      exact ⟨rfl, h⟩
    | some v' =>
      rw [hl, hl'] at h
      exact absurd h.symm (hopen c v' _)
  | some v =>
    cases hl' : c'.limit with
    | none =>
      rw [hl, hl'] at h
      exact absurd h (hopen c' v _)
    | some v' =>
      rw [hl, hl'] at h
      have htail : v ++ ')' :: c.settingsText = v' ++ ')' :: c'.settingsText := by
        simpa using h
      obtain ⟨hv, hsettings⟩ := eq_of_append_cons (hc.limit v hl) (hc'.limit v' hl') htail
      exact ⟨by rw [hv], hsettings⟩

theorem settings_eq_of_settingsText_eq (hc : c.Legible) (hc' : c'.Legible)
    (h : c.settingsText = c'.settingsText) : c.settings = c'.settings := by
  unfold settingsText at h
  by_cases hnil : c.settings = [] <;> by_cases hnil' : c'.settings = []
  · rw [hnil, hnil']
  · rw [if_pos hnil, if_neg hnil'] at h
    cases h
  · rw [if_neg hnil, if_pos hnil'] at h
    cases h
  · rw [if_neg hnil, if_neg hnil'] at h
    have hinner := List.append_cancel_right
      (List.tail_eq_of_cons_eq (List.tail_eq_of_cons_eq h))
    exact intercalate_injective hnil hnil' hc.settings hc'.settings hinner

/-- Whether a setting is a note. -/
def isNote (s : Text) : Bool := "note".toList.isPrefixOf s

/-- Whether a setting is a default. -/
def isDefault (s : Text) : Bool := "default".toList.isPrefixOf s

/-- **Settings are told apart by their first words.** -/
theorem settings_spec (c : Column) :
    c.settings.filter isNote = (c.note.map fun t => "note: ".toList ++ quoted t).toList ∧
      c.settings.filter isDefault = (c.default.map fun d => "default: ".toList ++ d.text).toList ∧
      (c.settings.filter fun s => !isNote s && !isDefault s) =
        if c.notNull then ["not null".toList] else [] := by
  have hnote : ∀ t : Text, isNote ("note: ".toList ++ t) = true := fun _ => rfl
  have hnote' : ∀ t : Text, isDefault ("note: ".toList ++ t) = false := fun _ => rfl
  have hdefault : ∀ t : Text, isDefault ("default: ".toList ++ t) = true := fun _ => rfl
  have hdefault' : ∀ t : Text, isNote ("default: ".toList ++ t) = false := fun _ => rfl
  have hnull : isNote "not null".toList = false := by decide
  have hnull' : isDefault "not null".toList = false := by decide
  unfold settings
  generalize "note: ".toList = a at *
  generalize "default: ".toList = b at *
  generalize "not null".toList = n at *
  obtain ⟨name, type, limit, note, notNull, default⟩ := c
  cases note <;> cases default <;> cases notNull <;>
    simp [hnote, hnote', hdefault, hdefault', hnull, hnull']

theorem eq_of_settings_eq (h : c.settings = c'.settings) :
    c.note = c'.note ∧ c.notNull = c'.notNull ∧
      c.default.map Default.text = c'.default.map Default.text := by
  obtain ⟨hnote, hdefault, hnull⟩ := settings_spec c
  obtain ⟨hnote', hdefault', hnull'⟩ := settings_spec c'
  rw [h] at hnote hdefault hnull
  have hn := congrArg List.head? (hnote'.symm.trans hnote)
  have hd := congrArg List.head? (hdefault'.symm.trans hdefault)
  have hz := congrArg List.isEmpty (hnull'.symm.trans hnull)
  rw [Option.head?_toList, Option.head?_toList] at hn hd
  have hquoted : Function.Injective fun t => "note: ".toList ++ quoted t :=
    (List.append_right_injective _).comp quoted_injective
  have hrest : Function.Injective fun t : Text => "default: ".toList ++ t :=
    List.append_right_injective _
  have hmap : ∀ o : Option Default, (o.map fun d => "default: ".toList ++ d.text) =
      (o.map Default.text).map fun t => "default: ".toList ++ t := by
    intro o
    rw [Option.map_map]
    rfl
  refine ⟨(Option.map_injective hquoted hn).symm, ?_, ?_⟩
  · cases hc : c.notNull <;> cases hc' : c'.notNull
    · rfl
    · rw [hc, hc'] at hz; cases hz
    · rw [hc, hc'] at hz; cases hz
    · rfl
  · rw [hmap, hmap] at hd
    exact (Option.map_injective hrest hd).symm

/-- **Columns with the same line have the same parts.** -/
theorem eq_of_text_eq (hc : c.Legible) (hc' : c'.Legible) (h : c.text = c'.text) :
    c.name = c'.name ∧ c.type = c'.type ∧ c.limit = c'.limit ∧ c.note = c'.note ∧
      c.notNull = c'.notNull ∧ c.default.map Default.text = c'.default.map Default.text := by
  rw [text_eq, text_eq] at h
  have hline := List.tail_eq_of_cons_eq (List.tail_eq_of_cons_eq h)
  have hblank : ∀ r : Text, ∀ d, (' ' :: r).head? = some d → (!isBlank d) = false := by
    intro r d hd
    rw [← Option.some.inj hd]
    rfl
  have hnot : ∀ k : Column, k.Legible → ∀ d ∈ k.name, (!isBlank d) = true := by
    intro k hk d hd
    rw [hk.name d hd]
    rfl
  obtain ⟨hname, hrest⟩ := eq_of_runs (hnot c hc) (hnot c' hc') (hblank _) (hblank _) hline
  obtain ⟨htype, hrest⟩ := eq_of_runs (isAlpha_of_mem_name c.type) (isAlpha_of_mem_name c'.type)
    (fun d hd => isAlpha_of_head? hd) (fun d hd => isAlpha_of_head? hd) (List.tail_eq_of_cons_eq hrest)
  obtain ⟨hlimit, hsettings⟩ := eq_of_limitText_eq hc hc' hrest
  obtain ⟨hnote, hnull, hdefault⟩ :=
    eq_of_settings_eq (settings_eq_of_settingsText_eq hc hc' hsettings)
  exact ⟨hname, name_injective htype, hlimit, hnote, hnull, hdefault⟩

variable {number : Nat} {t : Text} {l : Line} {type : ColumnType}

/-- A line that is read becomes a legible column, unless its name or its limit goes against that. -/
theorem legible_ofLine (h : Line.parse number t = .ok l) (hname : ∀ d ∈ l.name, isBlank d = false)
    (hlimit : ∀ v, l.params.first? "limit".toList = some v → ')' ∉ v) : (ofLine type l).Legible := by
  have hlacks : l.Lacks ',' := Line.lacks_of_parse h fun s hs => not_mem_of_mem_splitOn hs
  exact ⟨hname, hlimit, not_mem_of_mem_settings (.inr rfl) hlacks⟩

theorem lines_of_ofKeyword? (h : ColumnType.ofKeyword? l.head = some type) (number : Nat) (t : Text) :
    (Emission.ofLine number t l).lines = [(ofLine type l).text] := by
  have hkeyword : type.keyword = l.head := by
    have hfound := List.find?_some h
    exact eq_of_beq hfound
  have hstatement : l.statement = .column type.keyword := by
    rw [Line.statement, ← hkeyword, Statement.ofHead_keyword]
  unfold Emission.ofLine
  simp only [hstatement, ColumnType.ofKeyword?_keyword]

end Column

end Dbml

open Dbml

/-- **Emitted columns do not collapse.** Two lines of known types that become the same line of DBML
state the same column, but for what a rendered default leaves open in columns without quotes. -/
theorem columns_eq_of_lines_eq {number number' cited cited' : Nat} {t t' source source' : Text}
    {l l' : Line} {type type' : ColumnType}
    (h : Line.parse number t = .ok l) (h' : Line.parse number' t' = .ok l')
    (htype : ColumnType.ofKeyword? l.head = some type)
    (htype' : ColumnType.ofKeyword? l'.head = some type')
    (hname : ∀ d ∈ l.name, isBlank d = false) (hname' : ∀ d ∈ l'.name, isBlank d = false)
    (hlimit : ∀ v, l.params.first? "limit".toList = some v → ')' ∉ v)
    (hlimit' : ∀ v, l'.params.first? "limit".toList = some v → ')' ∉ v)
    (hlines : (Emission.ofLine cited source l).lines = (Emission.ofLine cited' source' l').lines) :
    l.name = l'.name ∧ type = type' ∧
      l.params.first? "limit".toList = l'.params.first? "limit".toList ∧
      l.params.first? "comment".toList = l'.params.first? "comment".toList ∧
      (l.params.first? "null".toList = some "false".toList ↔
        l'.params.first? "null".toList = some "false".toList) ∧
      (Column.ofLine type l).default.map Default.text =
        (Column.ofLine type' l').default.map Default.text ∧
      (l.head = "t.string".toList →
        (Column.ofLine type l).default = (Column.ofLine type' l').default) := by
  have hc : (Column.ofLine type l).Legible := Column.legible_ofLine h hname hlimit
  have hc' : (Column.ofLine type' l').Legible := Column.legible_ofLine h' hname' hlimit'
  rw [Column.lines_of_ofKeyword? htype, Column.lines_of_ofKeyword? htype'] at hlines
  obtain ⟨hn, ht, hl, hnote, hnull, hdefault⟩ :=
    Column.eq_of_text_eq hc hc' (List.head_eq_of_cons_eq hlines)
  refine ⟨hn, ht, hl, hnote, decide_eq_decide.1 hnull, hdefault, ?_⟩
  intro hstring
  have hvarchar : type = .varchar := by
    rw [hstring] at htype
    exact (Option.some.inj htype).symm
  have hvarchar' : type' = .varchar := ht.symm.trans hvarchar
  subst hvarchar hvarchar'
  -- no default of a text column is verbatim, so the sign in front says what it is
  have hverbatim : ∀ (k : Line) (d : Default), (Column.ofLine .varchar k).default = some d →
      ∀ u, d ≠ .verbatim u := by
    intro k d hd
    obtain ⟨values, -, hvalues⟩ := Option.bind_eq_some_iff.1 hd
    exact Default.ne_verbatim_of_varchar hvalues
  cases hd : (Column.ofLine .varchar l).default with
  | none =>
    rw [hd] at hdefault
    exact (Option.map_eq_none_iff.1 hdefault.symm).symm
  | some d =>
    rw [hd] at hdefault
    obtain ⟨d', hd', htext⟩ := Option.map_eq_some_iff.1 hdefault.symm
    rw [hd', Default.eq_of_text_eq (hverbatim l' d' hd') (hverbatim l d hd) htext]

/-- Two spellings of a column: settings in another order, one of them written twice, and with quotes,
brackets and backslashes in its values. -/
theorem columns_eq_of_lines_eq_of_spellings :
    let t := "t.string \"b\", default: -> [ it's], comment: \"o'clock] \\\\n\", limit: 5, null: false".toList
    let t' := " t.string b x, null: false, limit: 9, limit: \"5\", comment: \"o'clock] n\", default: -> x it's],y".toList
    let l : Line := ⟨"t.string".toList, "b".toList,
      ⟨[("default".toList, ["->".toList, "[".toList, "it's]".toList]),
        ("comment".toList, ["o'clock] n".toList]), ("limit".toList, ["5".toList]),
        ("null".toList, ["false".toList])], by decide +kernel⟩⟩
    let l' : Line := ⟨"t.string".toList, "b".toList,
      ⟨[("null".toList, ["false".toList]), ("limit".toList, ["5".toList]),
        ("comment".toList, ["o'clock] n".toList]),
        ("default".toList, ["->".toList, "x".toList, "it's]".toList]), ("y".toList, [])],
        by decide +kernel⟩⟩
    Line.parse 1 t = .ok l ∧ Line.parse 2 t' = .ok l' ∧
      (Emission.ofLine 1 t l).lines = (Emission.ofLine 2 t' l').lines ∧
      (Column.ofLine .varchar l).default = some (.expression "it's]".toList) ∧
      (Column.ofLine .varchar l).default = (Column.ofLine .varchar l').default := by
  intro t t' l l'
  have h : Line.parse 1 t = .ok l := by decide +kernel
  have h' : Line.parse 2 t' = .ok l' := by decide +kernel
  have hlines : (Emission.ofLine 1 t l).lines = (Emission.ofLine 2 t' l').lines := by decide +kernel
  have hlimit : l.params.first? "limit".toList = some ['5'] := by decide +kernel
  have hlimit' : l'.params.first? "limit".toList = some ['5'] := by decide +kernel
  have htype : ColumnType.ofKeyword? l.head = some .varchar := rfl
  have htype' : ColumnType.ofKeyword? l'.head = some .varchar := rfl
  obtain ⟨-, -, -, -, -, -, hdefault⟩ := columns_eq_of_lines_eq h h' htype htype' (by decide) (by decide)
    (fun v hv => by rw [← Option.some.inj (hlimit.symm.trans hv)]; decide)
    (fun v hv => by rw [← Option.some.inj (hlimit'.symm.trans hv)]; decide) hlines
  exact ⟨h, h', hlines, rfl, hdefault rfl⟩

end MigrationDbml
