import MigrationDbml.Conversion
import MigrationDbml.Proofs.Lines

/-!
# What lines become

What a line becomes has two parts. Its faithful lines (`Line.faithful`) depend on the
line alone. If something on it has no faithful form (`Line.flaw?`), one best-effort line
comes behind them, and one warning is raised. Only these two cite the source.

* `ofLine_eq`: every emission has these two parts.
* `ofText_add`: what changes when the same text stands further down.
* `ofTexts_append`, `ofTexts_add`: the same for the texts of several lines.
-/

namespace MigrationDbml

open Dbml

theorem ColumnType.ofKeyword?_eq_none_iff {k : Text} :
    ofKeyword? k = none ↔ ∀ type : ColumnType, type.keyword ≠ k := by
  have hall : ∀ type : ColumnType, type ∈ all := by intro type; cases type <;> decide
  rw [ofKeyword?, List.find?_eq_none]
  constructor
  · intro h type
    simpa using h type (hall type)
  · intro h type _
    simpa using h type

namespace Statement

theorem isColumnKeyword_iff {head : Text} : isColumnKeyword head = true ↔
    ∃ word, head = 't' :: '.' :: word ∧ word ≠ [] ∧ ∀ d ∈ word, d.isAlphanum = true ∨ d = '_' := by
  unfold isColumnKeyword
  split
  · rename_i word
    simp [isKeywordChar]
  · rename_i hnot
    constructor
    · intro h
      cases h
    · rintro ⟨word, rfl, -⟩
      exact absurd rfl (hnot word)

theorem ofHead_eq_openTable_iff {head : Text} : ofHead head = openTable ↔ head = "create_table".toList := by
  constructor
  · intro h
    by_contra hne
    rw [ofHead, if_neg hne] at h
    split at h
    · cases h
    · split at h <;> cases h
  · rintro rfl
    rfl

theorem ofHead_eq_column_iff {head keyword : Text} :
    ofHead head = column keyword ↔ head = keyword ∧ isColumnKeyword keyword = true := by
  have htable : isColumnKeyword "create_table".toList = false := by decide
  have hend : isColumnKeyword "end".toList = false := by decide
  constructor
  · intro h
    unfold ofHead at h
    split at h
    · cases h
    · split at h
      · cases h
      · split at h
        · rename_i hk
          cases h
          exact ⟨rfl, hk⟩
        · cases h
  · rintro ⟨rfl, hk⟩
    -- the other two words are no keywords of columns
    have hne : ∀ word, isColumnKeyword word = false → head ≠ word := by
      rintro word hw rfl
      rw [hw] at hk
      cases hk
    rw [ofHead, if_neg (hne _ htable), if_neg (hne _ hend), if_pos hk]

end Statement

namespace Line

/-- What on a line has no faithful form in DBML, if there is something. -/
def flaw? (l : Line) : Option WarningKind :=
  match l.statement with
  | .openTable =>
    (l.params.get? "id".toList).bind fun values =>
      if values.head? ≠ some ":integer".toList ∧ 1 < values.length then some .unsupportedId else none
  | .column keyword =>
    if ColumnType.ofKeyword? keyword = none then some (.unsupportedType keyword) else none
  | .closeTable | .unrecognized => none

/-- The lines of DBML that a line becomes without a warning. -/
def faithful (l : Line) : List Text :=
  match l.statement with
  | .openTable =>
    Emission.opening l.name ::
      if l.params.first? "id".toList = some ":integer".toList then
        ["  id unsigned [pk, increment]".toList]
      else []
  | .closeTable => [['\x7d']]
  | .column keyword =>
    ((ColumnType.ofKeyword? keyword).map fun type => (Column.ofLine type l).text).toList
  | .unrecognized => []

/-- **Flaws of columns** are keywords without a type. -/
theorem flaw?_eq_unsupportedType_iff {l : Line} {keyword : Text} :
    l.flaw? = some (.unsupportedType keyword) ↔ l.head = keyword ∧
      Statement.isColumnKeyword keyword = true ∧ ColumnType.ofKeyword? keyword = none := by
  constructor
  · intro h
    unfold flaw? at h
    split at h
    · obtain ⟨values, -, h⟩ := Option.bind_eq_some_iff.1 h
      split at h <;> cases h
    · rename_i k hstatement
      split at h
      · rename_i hnone
        cases h
        obtain ⟨hhead, hkeyword⟩ := Statement.ofHead_eq_column_iff.1 hstatement
        exact ⟨hhead, hkeyword, hnone⟩
      · cases h
    · cases h
    · cases h
  · rintro ⟨hhead, hkeyword, hnone⟩
    have hstatement : l.statement = .column keyword := Statement.ofHead_eq_column_iff.2 ⟨hhead, hkeyword⟩
    unfold flaw?
    simp only [hstatement, if_pos hnone]

/-- **Flaws of tables** are `id` parameters with several values. -/
theorem flaw?_eq_unsupportedId_iff {l : Line} : l.flaw? = some .unsupportedId ↔
    l.head = "create_table".toList ∧ ∃ first second rest,
      l.params.get? "id".toList = some (first :: second :: rest) ∧ first ≠ ":integer".toList := by
  constructor
  · intro h
    unfold flaw? at h
    split at h
    · rename_i hstatement
      obtain ⟨values, hget, h⟩ := Option.bind_eq_some_iff.1 h
      refine ⟨Statement.ofHead_eq_openTable_iff.1 hstatement, ?_⟩
      split at h
      · rename_i hvalues
        obtain ⟨hint, hmany⟩ := hvalues
        match values, hget, hint, hmany with
        | first :: second :: rest, hget, hint, _ =>
          exact ⟨first, second, rest, hget, fun e => hint (congrArg some e)⟩
      · cases h
    · split at h <;> cases h
    · cases h
    · cases h
  · rintro ⟨hhead, first, second, rest, hget, hint⟩
    have hstatement : l.statement = .openTable := Statement.ofHead_eq_openTable_iff.2 hhead
    have hvalues : (first :: second :: rest).head? ≠ some ":integer".toList ∧
        1 < (first :: second :: rest).length :=
      ⟨fun e => hint (Option.some.inj e), by simp⟩
    unfold flaw?
    simp only [hstatement, hget, Option.bind_some, if_pos hvalues]

end Line

namespace Warning

/-- The line of DBML that a warning is about, on a line with the given name. -/
def bestEffort (name : Text) (w : Warning) : Text :=
  (match w.kind with
    | .unsupportedId => "  id varchar(40) [pk] // Unsupported feature.".toList
    | .unsupportedType keyword =>
      ' ' :: ' ' :: name ++ " undefined // Unsupported type <".toList ++ keyword ++ ['>', '.'])
    ++ reference w.line w.sourceLine

/-- The same warning, `k` lines further down. -/
def moveDown (k : Nat) (w : Warning) : Warning := { w with line := w.line + k }

end Warning

namespace Dbml.Emission

/-- **The two parts of an emission.** -/
theorem ofLine_eq (number : Nat) (t : Text) (l : Line) : ofLine number t l =
    ⟨l.faithful ++ (l.flaw?.map fun kind => Warning.bestEffort l.name ⟨number, kind, t⟩).toList,
      (l.flaw?.map fun kind => ⟨number, kind, t⟩).toList⟩ := by
  unfold ofLine Line.faithful Line.flaw?
  cases l.statement with
  | openTable =>
    unfold ofTable Params.first?
    generalize l.params.get? "id".toList = id
    cases id with
    | none => rfl
    | some values =>
      simp only [Option.map_some, Option.getD_some, Option.bind_some, ofId]
      by_cases hint : values.head? = some ":integer".toList
      · rw [if_pos hint, if_pos hint, if_neg fun h => h.1 hint]; rfl
      · rw [if_neg hint, if_neg hint]
        by_cases hmany : 1 < values.length
        · rw [if_pos hmany, if_pos ⟨hint, hmany⟩]; rfl
        · rw [if_neg hmany, if_neg fun h => hmany h.2]; rfl
  | closeTable => rfl
  | column keyword =>
    cases hk : ColumnType.ofKeyword? keyword with
    | none => simp only [hk, if_true]; rfl
    | some type => simp only [hk, reduceCtorEq, if_false]; rfl
  | unrecognized => rfl

/-- What a text becomes on the line with the given number. A malformed one becomes nothing. -/
def ofText (number : Nat) (t : Text) : Emission :=
  match Line.parse number t with
  | .ok l => ofLine number t l
  | .error _ => empty

/-- What the texts of lines become, the first of them on the line with the given number. -/
def ofTexts (number : Nat) (ts : List Text) : List Emission :=
  ts.mapIdx fun i t => ofText (number + i) t

variable {number k : Nat} {t : Text} {l : Line} {ts us : List Text}

theorem ofText_of_parse {number' : Nat} (h : Line.parse number' t = .ok l) (number : Nat) :
    ofText number t = ofLine number t l := by
  rw [ofText, Line.parse_ok_of_parse_ok number h]

theorem ofText_of_isBroken (h : Line.IsBroken t) (number : Nat) : ofText number t = empty := by
  obtain ⟨before, b, hat⟩ := Line.exists_breaksAt h
  rw [ofText, Line.parse_of_breaksAt hat]

/-- **A line further down** cites its number there, and is the same otherwise. -/
theorem ofText_add (number k : Nat) (t : Text) :
    (ofText (number + k) t).warnings = (ofText number t).warnings.map (Warning.moveDown k) ∧
      (ofText (number + k) t).lines.length = (ofText number t).lines.length ∧
      ((ofText number t).warnings = [] → (ofText (number + k) t).lines = (ofText number t).lines) := by
  by_cases hb : Line.IsBroken t
  · rw [ofText_of_isBroken hb, ofText_of_isBroken hb]
    exact ⟨rfl, rfl, fun _ => rfl⟩
  · obtain ⟨l, hl⟩ := Line.exists_parse_ok number hb
    rw [ofText_of_parse hl, ofText_of_parse hl, ofLine_eq, ofLine_eq]
    -- the number stands in the best-effort line and its warning only
    cases l.flaw? with
    | none => exact ⟨rfl, rfl, fun _ => rfl⟩
    | some kind => exact ⟨rfl, by simp, fun h => by cases h⟩

@[simp] theorem ofTexts_nil : ofTexts number [] = [] := rfl

theorem ofTexts_cons : ofTexts number (t :: ts) = ofText number t :: ofTexts (number + 1) ts := by
  simp [ofTexts, List.mapIdx_cons, Nat.add_assoc, Nat.add_comm 1]

theorem ofTexts_append :
    ofTexts number (ts ++ us) = ofTexts number ts ++ ofTexts (number + ts.length) us := by
  simp [ofTexts, List.mapIdx_append, Nat.add_assoc, Nat.add_comm ts.length]

/-- Lines further down, one by one. -/
theorem ofTexts_add (number k : Nat) (ts : List Text) :
    (ofTexts (number + k) ts).flatMap warnings =
        ((ofTexts number ts).flatMap warnings).map (Warning.moveDown k) ∧
      ((ofTexts (number + k) ts).flatMap lines).length = ((ofTexts number ts).flatMap lines).length ∧
      ((ofTexts number ts).flatMap warnings = [] →
        (ofTexts (number + k) ts).flatMap lines = (ofTexts number ts).flatMap lines) := by
  induction ts generalizing number with
  | nil => exact ⟨rfl, rfl, fun _ => rfl⟩
  | cons t ts ih =>
    obtain ⟨hw, hn, hl⟩ := ofText_add number k t
    obtain ⟨ihw, ihn, ihl⟩ := ih (number + 1)
    have hnext : number + k + 1 = number + 1 + k := by omega
    rw [ofTexts_cons, ofTexts_cons, hnext]
    simp only [List.flatMap_cons, List.map_append, List.length_append, List.append_eq_nil_iff]
    refine ⟨by rw [hw, ihw], by rw [hn, ihn], ?_⟩
    rintro ⟨h, hs⟩
    rw [hl h, ihl hs]

end Dbml.Emission

end MigrationDbml
