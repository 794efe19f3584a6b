import Mathlib.Data.List.Forall2
import MigrationDbml.Proofs.Contents
import MigrationDbml.Proofs.Readings

/-!
# How the output is framed

The kind of a line and its `id` parameter fix how many lines it becomes and how each of
them starts (`Line.Frames`). No emitted line has a line feed, so the output is cut back
into the emitted lines at its line feeds, and counting the line feeds counts the lines.

* `frames_ofLine`: the frame of one line.
* `length_flatten`: the frames of many lines, counted by kind.
* `convert_dbml_framed`: the frame of the whole output.
-/

namespace MigrationDbml

open Text Source Dbml

/-- Whether the kind is that of a column. -/
def Statement.isColumn : Statement → Bool
  | column _ => true
  | _ => false

namespace Line

/-- Whether the `id` parameter of a line asks for a column: it starts with `:integer` or has
several values. -/
def statesId (l : Line) : Bool :=
  (l.params.get? "id".toList).any fun values =>
    values.head? = some ":integer".toList ∨ 1 < values.length

/-- Whether lines of DBML are framed as what a line becomes. -/
def Frames (l : Line) (es : List Text) : Prop :=
  match l.statement with
  | .openTable => ∃ ids, es = ("Table \"".toList ++ l.name ++ ['"', ' ', '\x7b']) :: ids ∧
      ids.length = (if l.statesId then 1 else 0) ∧ ∀ e ∈ ids, "  id ".toList <+: e
  | .closeTable => es = [['\x7d']]
  | .column _ => ∃ rest, es = [' ' :: ' ' :: l.name ++ ' ' :: rest]
  | .unrecognized => es = []

variable {l : Line} {es : List Text}

/-- How many lines a line becomes, by its kind. -/
theorem Frames.length_eq (h : l.Frames es) : es.length =
    (if l.statement = .closeTable then 1 else 0) + (if l.statement.isColumn then 1 else 0) +
      (if l.statement = .openTable then 1 else 0) +
      (if l.statement = .openTable ∧ l.statesId then 1 else 0) := by
  unfold Frames at h
  cases hs : l.statement with
  | openTable =>
    rw [hs] at h
    obtain ⟨ids, rfl, hids, -⟩ := h
    simp [Statement.isColumn, hids, Nat.add_comm]
  | closeTable =>
    rw [hs] at h
    subst h
    rfl
  | column keyword =>
    rw [hs] at h
    obtain ⟨rest, rfl⟩ := h
    rfl
  | unrecognized =>
    rw [hs] at h
    subst h
    rfl

/-- The lines that many lines become, counted by kind. -/
theorem length_flatten {ls : List Line} {groups : List (List Text)}
    (h : List.Forall₂ Frames ls groups) : groups.flatten.length =
      ls.countP (·.statement = .closeTable) + ls.countP (·.statement.isColumn) +
        ls.countP (·.statement = .openTable) +
        ls.countP (fun l => l.statement = .openTable ∧ l.statesId) := by
  induction h with
  | nil => rfl
  | cons hframe hrest ih =>
    rw [List.flatten_cons, List.length_append, ih, hframe.length_eq]
    simp only [List.countP_cons, decide_eq_true_eq]
    omega

end Line

namespace Dbml.Emission

theorem frames_ofId (number : Nat) (t : Text) (values : List Text) :
    (ofId number t values).lines.length =
        (if values.head? = some ":integer".toList ∨ 1 < values.length then 1 else 0) ∧
      ∀ e ∈ (ofId number t values).lines, "  id ".toList <+: e := by
  have hunsigned : "  id ".toList <+: "  id unsigned [pk, increment]".toList := by decide +kernel
  have hvarchar : "  id ".toList <+: "  id varchar(40) [pk] // Unsupported feature.".toList := by
    decide +kernel
  unfold ofId
  by_cases hint : values.head? = some ":integer".toList
  · rw [if_pos hint, if_pos (.inl hint)]
    refine ⟨rfl, fun e he => ?_⟩
    rw [List.mem_singleton.1 he]
    exact hunsigned
  · by_cases hmany : 1 < values.length
    · rw [if_neg hint, if_pos hmany, if_pos (.inr hmany)]
      refine ⟨rfl, fun e he => ?_⟩
      rw [List.mem_singleton.1 he]
      exact hvarchar.trans (List.prefix_append _ _)
    · rw [if_neg hint, if_neg hmany, if_neg (not_or.2 ⟨hint, hmany⟩)]
      exact ⟨rfl, fun e he => by cases he⟩

/-- **The frame of one line.** -/
theorem frames_ofLine (number : Nat) (t : Text) (l : Line) : l.Frames (ofLine number t l).lines := by
  unfold Line.Frames ofLine
  cases hs : l.statement with
  | openTable =>
    unfold ofTable Line.statesId
    refine ⟨_, rfl, ?_⟩
    cases l.params.get? "id".toList with
    | none => exact ⟨rfl, fun e he => by cases he⟩
    | some values =>
      obtain ⟨hlength, hprefix⟩ := frames_ofId number t values
      simp only [Option.any_some, decide_eq_true_eq]
      exact ⟨hlength, hprefix⟩
  | closeTable => rfl
  | column keyword =>
    cases hk : ColumnType.ofKeyword? keyword with
    | some type =>
      refine ⟨type.name ++ (Column.ofLine type l).limitText ++ (Column.ofLine type l).settingsText, ?_⟩
      simp only [hk, Column.text, Column.ofLine, List.append_assoc, List.cons_append]
    | none =>
      have hblank : " undefined // Unsupported type <".toList =
          ' ' :: "undefined // Unsupported type <".toList := by decide +kernel
      refine ⟨"undefined // Unsupported type <".toList ++ keyword ++ ['>', '.'] ++ reference number t, ?_⟩
      simp only [hk, ofUnknownColumn, hblank, List.append_assoc, List.cons_append]
  | unrecognized => rfl

end Dbml.Emission

namespace Source

variable {source : Text} {rs : List Reading}

theorem Reads.newline_not_mem_lines (h : Reads source rs) {r : Reading} (hr : r ∈ rs) :
    ∀ e ∈ r.emission.lines, '\n' ∉ e :=
  Dbml.newline_not_mem_lines (PhysicalLine.parse_eq_ok_iff.1 (h.parse_eq r hr)) (h.newline_not_mem hr)

end Source

theorem Conversion.splitOn_dbml {c : Conversion} (h : ∀ e ∈ c.lines, '\n' ∉ e) :
    c.dbml.splitOn '\n' = c.lines ++ [[]] := splitOn_ended h

theorem Conversion.dbml_eq_nil_or (c : Conversion) :
    c.dbml = [] ∨ c.dbml.getLast? = some '\n' := by
  rcases c.lines.eq_nil_or_concat with hnil | ⟨es, e, hlast⟩
  · left
    rw [Conversion.dbml, hnil, List.flatMap_nil]
  · right
    rw [Conversion.dbml, hlast, List.concat_eq_append, List.flatMap_append]
    simp

/-- **The output is framed by the kinds of the lines.** It is cut at its line feeds into what each
physical line becomes, in order and with nothing in between. -/
theorem convert_dbml_framed {source : Text} {c : Conversion} (h : convert source = .ok c) :
    (c.dbml = [] ∨ c.dbml.getLast? = some '\n') ∧ c.linesEmitted = c.dbml.count '\n' ∧
      (∀ e ∈ c.lines, '\n' ∉ e) ∧
      ∃ ls groups, (physicalLines source).map PhysicalLine.parse = ls.map .ok ∧
        List.Forall₂ Line.Frames ls groups ∧ c.dbml.splitOn '\n' = groups.flatten ++ [[]] ∧
        c.linesEmitted = ls.countP (·.statement = .closeTable) + ls.countP (·.statement.isColumn) +
          ls.countP (·.statement = .openTable) +
          ls.countP (fun l => l.statement = .openTable ∧ l.statesId) := by
  obtain ⟨rs, hreads, rfl⟩ := exists_reads h
  have hfeed : ∀ e ∈ (Conversion.ofReadings (lineCount source) rs).lines, '\n' ∉ e := by
    intro e he
    obtain ⟨r, hr, he⟩ := List.mem_flatMap.1 he
    exact hreads.newline_not_mem_lines hr e he
  have hframes : List.Forall₂ Line.Frames (rs.map Reading.line) (rs.map fun r => r.emission.lines) := by
    rw [List.forall₂_map_left_iff, List.forall₂_map_right_iff, List.forall₂_same]
    exact fun r _ => Emission.frames_ofLine r.source.number r.source.text r.line
  have hlines : (Conversion.ofReadings (lineCount source) rs).lines =
      (rs.map fun r => r.emission.lines).flatten := List.flatMap_def
  refine ⟨Conversion.dbml_eq_nil_or _, (count_ended hfeed).symm, hfeed, rs.map Reading.line,
    rs.map fun r => r.emission.lines, hreads.map_parse, hframes, ?_, ?_⟩
  · rw [Conversion.splitOn_dbml hfeed, hlines]
  · rw [Conversion.linesEmitted, hlines, Line.length_flatten hframes]

/-- Two tables, one of them with an `id` line, and a column of no known type whose text goes on
behind a lone carriage return. -/
theorem convert_dbml_framed_of_tables :
    let source := "create_table :a, id: :integer\n  t.point \"p\"\r, null: true\nend\n\ncreate_table :b, id: :uuid".toList
    let w : Warning := ⟨2, .unsupportedType "t.point".toList, "  t.point \"p\"\r, null: true".toList⟩
    let c : Conversion := ⟨5, [Emission.opening ":a".toList, "  id unsigned [pk, increment]".toList,
      w.bestEffort "p".toList, ['\x7d'], Emission.opening ":b".toList], [w]⟩
    convert source = .ok c ∧ c.linesEmitted = 5 ∧ c.dbml.count '\n' = 5 ∧ ∀ e ∈ c.lines, '\n' ∉ e := by
  intro source w c
  have hc : convert source = .ok c := by decide +kernel
  obtain ⟨-, hcount, hfeed, -⟩ := convert_dbml_framed hc
  exact ⟨hc, rfl, hcount.symm, hfeed⟩

end MigrationDbml
