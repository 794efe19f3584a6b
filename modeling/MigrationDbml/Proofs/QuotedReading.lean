import MigrationDbml.Proofs.Columns

/-!
# Reading quoted texts back

A reader of DBML goes through a literal from its opening quote (`readQuoted?`): a backslash with
a quote right behind it stands for the quote, every other character stands for itself, and a
quote that no backslash precedes closes the literal.

So a literal cannot end with a backslash that stands for itself. Every other text has one literal,
and that is what is written.

* `readQuoted?_eq_some_iff`: what is read as a literal is what is written as one.
* `text_of_settings`: where a setting stands in the line of its column.
* `quoted_closes`: the literals of notes and defaults end where they are written to end.
-/

namespace MigrationDbml.Dbml

open Text

/-- Reads what follows an opening quote: the text up to the closing quote, and what follows that. -/
def readClosing? : Text → Option (Text × Text)
  | [] => none
  | '\\' :: '\'' :: r => (readClosing? r).map fun p => ('\'' :: p.1, p.2)
  | '\'' :: r => some ([], r)
  | c :: r => (readClosing? r).map fun p => (c :: p.1, p.2)

/-- Reads the literal that a text starts with: its value, and what follows it. -/
def readQuoted? : Text → Option (Text × Text)
  | '\'' :: r => readClosing? r
  | _ => none

variable {c : Char} {r t v : Text}

theorem readClosing?_plain (hc : c ≠ '\'') (hr : c = '\\' → r.head? ≠ some '\'') :
    readClosing? (c :: r) = (readClosing? r).map fun p => (c :: p.1, p.2) := by
  rw [readClosing?]
  · rintro s rfl rfl
    exact hr rfl rfl
  · exact hc

theorem getLast?_of_cons {d : Char} (h : (c :: v).getLast? ≠ some d) : v.getLast? ≠ some d := by
  intro e
  obtain ⟨u, rfl⟩ := List.getLast?_eq_some_iff.1 e
  exact h (by rw [← List.cons_append, List.getLast?_concat])

/-- An escaped text is closed by the quote behind it, unless it ends with a backslash. -/
theorem readClosing?_escape (hv : v.getLast? ≠ some '\\') (r : Text) :
    readClosing? (escape v ++ '\'' :: r) = some (v, r) := by
  induction v with
  | nil => rfl
  | cons c v ih =>
    have hrest := ih (getLast?_of_cons hv)
    rw [escape_cons]
    by_cases hc : c = '\''
    · subst hc
      rw [if_pos rfl, List.append_assoc, List.cons_append, List.cons_append, List.nil_append,
        readClosing?, hrest]
      rfl
    · -- a backslash stands for itself when what follows it is no quote
      have hhead : c = '\\' → (escape v ++ '\'' :: r).head? ≠ some '\'' := by
        rintro rfl
        cases v with
        | nil => exact absurd rfl hv
        | cons d v =>
          have hne : escape (d :: v) ≠ [] := by
            rw [escape_cons]
            split <;> exact List.cons_ne_nil _ _
          rw [List.head?_append_of_ne_nil _ hne]
          exact head?_escape_ne (d :: v)
      rw [if_neg hc, List.singleton_append, List.cons_append, readClosing?_plain hc hhead, hrest]
      rfl

/-- What is read up to a closing quote is escaped text, and does not end with a backslash. -/
theorem eq_of_readClosing? (h : readClosing? t = some (v, r)) :
    t = escape v ++ '\'' :: r ∧ v.getLast? ≠ some '\\' := by
  fun_induction readClosing? t generalizing v with
  | case1 => cases h
  | case2 s ih =>
    obtain ⟨⟨u, r'⟩, hu, he⟩ := Option.map_eq_some_iff.1 h
    cases he
    obtain ⟨rfl, hlast⟩ := ih hu
    refine ⟨rfl, ?_⟩
    rw [List.getLast?_cons]
    cases hu' : u.getLast? with
    | none => decide
    | some d =>
      rw [hu'] at hlast
      exact hlast
  | case3 s =>
    cases h
    exact ⟨rfl, fun e => by cases e⟩
  | case4 c s hescaped hquote ih =>
    obtain ⟨⟨u, r'⟩, hu, he⟩ := Option.map_eq_some_iff.1 h
    cases he
    obtain ⟨rfl, hlast⟩ := ih hu
    have hc : c ≠ '\'' := hquote
    refine ⟨by rw [escape_cons, if_neg hc]; rfl, ?_⟩
    cases u with
    | nil =>
      -- a last backslash would have escaped the closing quote
      intro e
      exact hescaped _ (Option.some.inj e) rfl
    | cons d u => rwa [List.getLast?_cons_cons]

/-- **What is read as a literal is what is written as one.** A text that ends with a backslash has
no literal. -/
theorem readQuoted?_eq_some_iff :
    readQuoted? t = some (v, r) ↔ t = quoted v ++ r ∧ v.getLast? ≠ some '\\' := by
  have htext : quoted v ++ r = '\'' :: (escape v ++ '\'' :: r) := by simp [quoted]
  rw [htext]
  constructor
  · intro h
    unfold readQuoted? at h
    split at h
    · obtain ⟨rfl, hlast⟩ := eq_of_readClosing? h
      exact ⟨rfl, hlast⟩
    · cases h
  · rintro ⟨rfl, hlast⟩
    exact readClosing?_escape hlast r

namespace Column

/-- The line of a column up to its first setting. -/
def front (k : Column) : Text :=
  ' ' :: ' ' :: k.name ++ ' ' :: k.type.name ++ k.limitText ++ [' ', '[']

/-- **Where a setting stands** in the line of its column. -/
theorem text_of_settings {k : Column} {before after : List Text} {s : Text}
    (h : k.settings = before ++ s :: after) : k.text =
      k.front ++ before.flatMap (· ++ [',', ' ']) ++ s ++ (after.flatMap ([',', ' '] ++ ·) ++ [']']) := by
  have hne : k.settings ≠ [] := by simp [h]
  rw [text, settingsText, if_neg hne, h, intercalate_eq_flatMap, front]
  simp

theorem settings_of_note {k : Column} (h : k.note = some v) :
    ∃ after, k.settings = [] ++ ("note: ".toList ++ quoted v) :: after :=
  ⟨_, by rw [settings, h]; rfl⟩

theorem settings_of_default {k : Column} {d : Default} (h : k.default = some d) :
    ∃ before, k.settings = before ++ ["default: ".toList ++ d.text] :=
  ⟨_, by rw [settings, h]; rfl⟩

end Column

/-- The default of a text column is an expression, or else the literal of its first value. -/
theorem Default.ofValues?_varchar (v : Text) (vs : List Text) :
    (∃ brace e rest, v :: vs = "->".toList :: brace :: e :: rest) ∨
      ofValues? .varchar (v :: vs) = some (quoted v) := by
  unfold ofValues?
  split
  · rename_i h
    cases h
  · rename_i brace e rest h
    exact .inl ⟨brace, e, rest, h⟩
  · rename_i h
    cases h
    exact .inr rfl

/-- **Literals end where they are written to end**, and read back as the value that was written,
unless that ends with a backslash. So do the literals of the note and of a text column's default
that a line of a known type becomes. -/
theorem quoted_closes :
    (∀ t v r, readQuoted? t = some (v, r) ↔ t = quoted v ++ r ∧ v.getLast? ≠ some '\\') ∧
      ∀ number t l type, Line.parse number t = .ok l → ColumnType.ofKeyword? l.head = some type →
        ∀ cited, ∃ out, (Emission.ofText cited t).lines = [out] ∧
          (∀ v, l.params.first? "comment".toList = some v →
            ∃ after, out = (Column.ofLine type l).front ++ "note: ".toList ++ (quoted v ++ after) ∧
              (v.getLast? ≠ some '\\' → readQuoted? (quoted v ++ after) = some (v, after))) ∧
          (l.head = "t.string".toList → ∀ v, l.params.first? "default".toList = some v →
            (∃ brace e rest,
              l.params.get? "default".toList = some ("->".toList :: brace :: e :: rest)) ∨
            ∃ before, out = before ++ "default: ".toList ++ (quoted v ++ [']']) ∧
              (v.getLast? ≠ some '\\' → readQuoted? (quoted v ++ [']']) = some (v, [']']))) := by
  refine ⟨fun t v r => readQuoted?_eq_some_iff, ?_⟩
  intro number t l type h htype cited
  have hread : ∀ v r, v.getLast? ≠ some '\\' → readQuoted? (quoted v ++ r) = some (v, r) :=
    fun v r hv => readQuoted?_eq_some_iff.2 ⟨rfl, hv⟩
  have hlines : (Emission.ofText cited t).lines = [(Column.ofLine type l).text] := by
    rw [Emission.ofText_of_parse h, Column.lines_of_ofKeyword? htype]
  refine ⟨_, hlines, ?_, ?_⟩
  · intro v hnote
    obtain ⟨after, hsettings⟩ := Column.settings_of_note (k := Column.ofLine type l) hnote
    refine ⟨after.flatMap ([',', ' '] ++ ·) ++ [']'], ?_, hread v _⟩
    rw [Column.text_of_settings hsettings, List.flatMap_nil, List.append_nil]
    simp only [List.append_assoc]
  · intro hstring v hfirst
    have hvarchar : type = .varchar := by
      rw [hstring] at htype
      exact (Option.some.inj htype).symm
    subst hvarchar
    obtain ⟨values, hget, hhead⟩ := Option.bind_eq_some_iff.1 hfirst
    obtain ⟨vs, rfl⟩ := List.head?_eq_some_iff.1 hhead
    refine (Default.ofValues?_varchar v vs).imp ?_ ?_
    · rintro ⟨brace, e, rest, hvalues⟩
      exact ⟨brace, e, rest, by rw [hget, hvalues]⟩
    · intro hquoted
      have hdefault : (Column.ofLine .varchar l).default = some (.quoted v) :=
        Option.bind_eq_some_iff.2 ⟨_, hget, hquoted⟩
      obtain ⟨before, hsettings⟩ := Column.settings_of_default hdefault
      refine ⟨(Column.ofLine .varchar l).front ++ before.flatMap (· ++ [',', ' ']), ?_, hread v _⟩
      rw [Column.text_of_settings hsettings, List.flatMap_nil, List.nil_append, Default.text]
      simp only [List.append_assoc]

/-- A note with a backslash in front of a quote, and a default with quotes at both ends. -/
theorem quoted_closes_of_backslashes :
    let t := "t.string \"b\", comment: \\it\\'s, null: false, default: 'x'".toList
    let note := "\\it\\'s".toList
    ∃ out before after, (Emission.ofText 7 t).lines = [out] ∧
      out = "  b varchar [note: ".toList ++ (quoted note ++ after) ∧
      readQuoted? (quoted note ++ after) = some (note, after) ∧
      out = before ++ "default: ".toList ++ "'\\'x\\'']".toList ∧
      readQuoted? "'\\'x\\'']".toList = some ("'x'".toList, [']']) := by
  intro t note
  let l : Line := ⟨"t.string".toList, ['b'], ⟨[("comment".toList, [note]),
    ("null".toList, ["false".toList]), ("default".toList, ["'x'".toList])], by decide +kernel⟩⟩
  have h : Line.parse 1 t = .ok l := by decide +kernel
  obtain ⟨out, hout, hnote, hdefault⟩ := quoted_closes.2 1 t l .varchar h rfl 7
  obtain ⟨after, hafter, hread⟩ := hnote note (by decide +kernel)
  obtain ⟨brace, e, rest, hvalues⟩ | ⟨before, hbefore, hclosed⟩ :=
    hdefault rfl "'x'".toList (by decide +kernel)
  · cases hvalues
  · exact ⟨out, before, after, hout, hafter, hread (by decide), hbefore, hclosed (by decide)⟩

/-- **A backslash at the end keeps a literal open.** Bare values can end with one, and then the
closing quote and the rest of the line are part of the literal. -/
theorem quoted_open_of_backslash :
    let v := "x\\".toList
    ∃ l, Line.parse 1 "t.string \"b\", comment: x\\".toList = .ok l ∧
      ColumnType.ofKeyword? l.head = some .varchar ∧ l.params.first? "comment".toList = some v ∧
      (Emission.ofLine 1 [] l).lines = ["  b varchar [note: ".toList ++ (quoted v ++ [']'])] ∧
      readQuoted? (quoted v ++ [']']) = none ∧ readQuoted? (quoted v) = none := by
  intro v
  refine ⟨⟨"t.string".toList, ['b'], ⟨[("comment".toList, [v])], by decide⟩⟩, ?_⟩
  decide +kernel

end MigrationDbml.Dbml
