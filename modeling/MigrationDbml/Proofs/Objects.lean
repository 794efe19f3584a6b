import MigrationDbml.Proofs.Reports
import MigrationDbml.Proofs.Writes

/-!
# Lines and warnings as JSON

A line and a warning are read back from the compact texts of their objects, whatever signs
they hold. No object in them has two members of one name (`Json.Distinct`), so the reading
depends on no choice among members. For the parameters of a line that is so because a name
that is written again is replaced.

* `Line.ofJson?_toJson`, `Warning.ofJson?_toJson`: objects are read back.
* `json_texts_read_back`: so are their texts, and different ones have different texts.
-/

namespace MigrationDbml

/-- Whether no object in a value has two members of one name. -/
inductive Json.Distinct : Json → Prop
  | str (t : Text) : Distinct (.str t)
  | num (n : Nat) : Distinct (.num n)
  | arr {items : List Json} (hitems : ∀ v ∈ items, Distinct v) : Distinct (.arr items)
  | obj {members : List (Text × Json)} (hnames : (members.map Prod.fst).Nodup)
      (hmembers : ∀ m ∈ members, Distinct m.2) : Distinct (.obj members)

/-! ## Parameters -/

/-- Reads a string. -/
def Json.text? : Json → Option Text
  | .str t => some t
  | _ => none

namespace Params

/-- Reads the values under a name from a member. -/
def entry? : Text × Json → Option Entry
  | (name, .arr items) => (items.mapM Json.text?).map fun values => (name, values)
  | _ => none

/-- Reads parameters from the members of an object, in the order in which they stand. -/
def ofJson? : Json → Option Params
  | .obj members => (members.mapM entry?).bind fun es =>
      if h : (es.map Prod.fst).Nodup then some ⟨es, h⟩ else none
  | _ => none

/-- What the member for an entry looks like. -/
def Entry.toMember (e : Entry) : Text × Json := (e.1, .arr (e.2.map .str))

theorem entry?_toMember (e : Entry) : entry? e.toMember = some e := by
  have hvalues := mapM_map_eq_some (f := Json.str) (g := Json.text?) (fun _ => rfl) e.2
  rw [Entry.toMember, entry?, hvalues]
  rfl

/-- **Parameters are read back from their object**, in their order. -/
theorem ofJson?_toJson (p : Params) : ofJson? p.toJson = some p := by
  have hentries := mapM_map_eq_some entry?_toMember p.entries
  have hmembers : p.toJson = .obj (p.entries.map Entry.toMember) := rfl
  rw [hmembers, ofJson?, hentries, Option.bind_some, dif_pos p.nodup]

theorem distinct_toJson (p : Params) : p.toJson.Distinct := by
  refine .obj ?_ ?_
  · rw [List.map_map]
    exact p.nodup
  · intro m hm
    obtain ⟨e, -, rfl⟩ := List.mem_map.1 hm
    refine .arr ?_
    intro v hv
    obtain ⟨t, -, rfl⟩ := List.mem_map.1 hv
    exact .str t

end Params

/-! ## Lines -/

namespace Line

/-- Reads a line from the members of an object. -/
def ofJson? : Json → Option Line
  | .obj members =>
    match members.lookup "head".toList, members.lookup "name".toList,
      members.lookup "params".toList with
    | some (.str head), some (.str name), some params =>
      (Params.ofJson? params).map fun params => ⟨head, name, params⟩
    | _, _, _ => none
  | _ => none

/-- **A line is read back from its object.** -/
theorem ofJson?_toJson (l : Line) : ofJson? l.toJson = some l := by
  have hmembers : ofJson? l.toJson =
      (Params.ofJson? l.params.toJson).map fun params => ⟨l.head, l.name, params⟩ := rfl
  rw [hmembers, Params.ofJson?_toJson]
  rfl

theorem distinct_toJson (l : Line) : l.toJson.Distinct := by
  have hnames : ["head".toList, "name".toList, "params".toList].Nodup := by decide
  refine .obj hnames ?_
  intro m hm
  simp only [List.mem_cons, List.not_mem_nil, or_false] at hm
  rcases hm with rfl | rfl | rfl
  · exact .str l.head
  · exact .str l.name
  · exact l.params.distinct_toJson

/-- Parameters written into a line one by one are those of the writes. -/
theorem params_withParams (l : Line) (ps : List Param) : (l.withParams ps).params =
    (ps.map fun p => (p.name, p.values)).foldl (fun p e => p.insert e.1 e.2) l.params := by
  induction ps generalizing l with
  | nil => rfl
  | cons p ps ih =>
    rw [withParams_cons, ih, List.map_cons, List.foldl_cons]
    rfl

end Line

/-! ## Warnings -/

namespace Warning

theorem ofJson?_toJson (w : Warning) : ofJson? w.toJson = some w := by
  obtain ⟨line, kind, sourceLine⟩ := w
  cases kind with
  | unsupportedId => rfl
  | unsupportedType keyword => rfl

theorem distinct_toJson (w : Warning) : w.toJson.Distinct := by
  refine .obj ?_ ?_
  · unfold keywordMember
    cases w.kind with
    | unsupportedId =>
      have hnames : ["line".toList, "kind".toList, "source_line".toList].Nodup := by decide
      exact hnames
    | unsupportedType keyword =>
      have hnames : ["line".toList, "kind".toList, "keyword".toList, "source_line".toList].Nodup := by
        decide
      exact hnames
  · intro m hm
    rcases List.mem_append.1 hm with hm | hm
    · rcases List.mem_append.1 hm with hm | hm
      · rcases List.mem_pair.1 hm with rfl | rfl
        · exact .num w.line
        · exact .str w.kind.tag
      · obtain ⟨keyword, -, rfl⟩ := Option.map_eq_some_iff.1 (Option.mem_toList.1 hm)
        exact .str keyword
    · rw [List.mem_singleton.1 hm]
      exact .str w.sourceLine

end Warning

/-- What can be read back from its text has a text of its own. -/
theorem Json.injective_compact {α : Type} {f : α → Json} {g : Json → Option α}
    (h : ∀ a, g (f a) = some a) : Function.Injective fun a => (f a).compact := by
  intro a b hab
  have hread := congrArg read? hab
  simp only [read?_compact] at hread
  have hsome := congrArg g (Option.some.inj hread)
  rw [h, h] at hsome
  exact Option.some.inj hsome

/-- **JSON texts lose nothing.** A line to which parameters were added in any sequence is read back
from its compact text, with the names in the order of their first write and the values of their last
one, and so is a warning. No object in the texts has two members of one name. So no two lines have
the same text, and no two warnings. -/
theorem json_texts_read_back :
    (∀ (head name : Text) (ps : List Param),
      let l := (Line.ofLead ⟨head, name⟩).withParams ps
      let writes := ps.map fun p => (p.name, p.values)
      (l.head = head ∧ l.name = name ∧ l.params.Records writes ∧
        ∀ p : Params, p.Records writes → p = l.params) ∧
      ∃ v, Json.read? l.toJson.compact = some v ∧ v.Distinct ∧ Line.ofJson? v = some l) ∧
    (∀ w : Warning, ∃ v, Json.read? w.toJson.compact = some v ∧ v.Distinct ∧
      Warning.ofJson? v = some w) ∧
    Function.Injective (fun l : Line => l.toJson.compact) ∧
    Function.Injective fun w : Warning => w.toJson.compact := by
  refine ⟨?_, ?_, Json.injective_compact Line.ofJson?_toJson,
    Json.injective_compact Warning.ofJson?_toJson⟩
  · intro head name ps l writes
    have hparams : l.params = Params.ofList writes := Line.params_withParams _ ps
    have hrecords : l.params.Records writes := by
      rw [hparams]
      exact Params.records_ofList writes
    exact ⟨⟨Line.head_withParams _ ps, Line.name_withParams _ ps, hrecords, fun p hp => hp.unique hrecords⟩,
      l.toJson, Json.read?_compact _, l.distinct_toJson, l.ofJson?_toJson⟩
  · intro w
    exact ⟨w.toJson, Json.read?_compact _, w.distinct_toJson, w.ofJson?_toJson⟩

/-- A line with a name that is written again, and with quotes, a backslash and a control character in
what it keeps. -/
theorem json_texts_read_back_of_rewritten :
    let first : Param := ⟨"limit".toList, ["10".toList]⟩
    let other : Param := ⟨"de\"fault".toList, ["\\\x01".toList, []]⟩
    let last : Param := ⟨"limit".toList, ["20".toList, "x".toList]⟩
    let l := (Line.ofLead ⟨"t.string".toList, "é".toList⟩).withParams [first, other, last]
    ∃ v, Json.read? l.toJson.compact = some v ∧ Line.ofJson? v = some l ∧
      l.params.get? "limit".toList = some last.values ∧ l.params.get? other.name = some other.values ∧
      l.params.names = [first.name, other.name] := by
  intro first other last l
  obtain ⟨⟨-, -, hrecords, -⟩, v, hread, -, hline⟩ :=
    json_texts_read_back.1 "t.string".toList "é".toList [first, other, last]
  have hlimit : l.params.get? "limit".toList = some last.values :=
    (hrecords.get?_eq "limit".toList).trans (by decide +kernel)
  have hother : l.params.get? other.name = some other.values :=
    (hrecords.get?_eq other.name).trans (by decide +kernel)
  have hnames : l.params.names = [first.name, other.name] := by decide +kernel
  exact ⟨v, hread, hline, hlimit, hother, hnames⟩

end MigrationDbml
