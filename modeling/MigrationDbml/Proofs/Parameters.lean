import Mathlib.Data.List.Perm.Subperm
import MigrationDbml.Proofs.Lines

/-!
# The parameters of a line

A line takes its parameters segment by segment, and a name that is written again takes
the later values. So what stands under a name is what the last segment with that name
says (`lastValues?`), and a line has no more parameters than commas.

* `get?_eq_lastValues?`: the values under a name, in terms of the text of the line.
* `size_le_count`: parameters against commas.
* `length_name_le`: the name of a line is no longer than the line.
-/

namespace MigrationDbml

open Text

variable {number : Nat} {t : Text} {l : Line}

theorem Literal.length_value_le (k : Literal) : k.value.length ≤ k.text.length := by
  obtain ⟨quoting, text⟩ := k
  cases quoting with
  | quoted =>
    have hfilter := List.length_filter_le (fun c => decide (c ≠ '\\')) (dropClosing (dropOpening text))
    have hclosing : (dropClosing (dropOpening text)).length ≤ (dropOpening text).length := by
      unfold dropClosing
      split
      · exact (List.dropLast_sublist _).length_le
      · exact Nat.le_refl _
    have hopening : (dropOpening text).length ≤ text.length := by
      unfold dropOpening
      split
      · exact (List.tail_sublist _).length_le
      · exact Nat.le_refl _
    exact Nat.le_trans hfilter (Nat.le_trans hclosing hopening)
  | bare => exact Nat.le_refl _

theorem Lead.length_name_le (t : Text) : (ofText t).name.length ≤ t.length := by
  have hafter := Nat.le_trans (length_afterWord_le (trimStart t)) (length_trimStart_le t)
  unfold ofText
  simp only
  cases hrest : trimStart (afterWord (trimStart t)) with
  | nil =>
    rw [Literal.scan_of_trimStart_eq_nil hrest]
    exact Nat.zero_le _
  | cons c r =>
    -- the name is the value of the literal that comes next
    rw [Literal.scan_of_trimStart_eq_cons hrest]
    have hvalue := Literal.length_value_le (Literal.next c r).1
    have hnext := congrArg List.length (Literal.next_append c r)
    have htrim := length_trimStart_le (afterWord (trimStart t))
    rw [hrest, ← hnext, List.length_append] at htrim
    simp only [List.head?_cons, Option.map_some, Option.getD_some]
    omega

/-- What is read of segments that are all accepted. -/
theorem Param.filterMap_toOption {ss : List Text} {ps : List Param}
    (h : ss.map (parse number) = ps.map .ok) : ss.filterMap (fun s => (parse number s).toOption) = ps := by
  have hmap := congrArg (List.filterMap Except.toOption) h
  rw [List.filterMap_map, List.filterMap_map] at hmap
  exact hmap.trans List.filterMap_some

namespace Params

theorem length_names (p : Params) : p.names.length = p.size := List.length_map Prod.fst

theorem size_insert_le (p : Params) (name : Text) (values : List Text) :
    (p.insert name values).size ≤ p.size + 1 := by
  rw [← length_names, ← length_names, p.names_insert]
  split
  · omega
  · rw [List.length_append, List.length_singleton]

theorem mem_names_of_get? {p : Params} {name : Text} (h : (p.get? name).isSome = true) :
    name ∈ p.names := by
  obtain ⟨values, hget⟩ := Option.isSome_iff_exists.1 h
  obtain ⟨before, after, hentries, -⟩ := List.lookup_eq_some_iff.1 hget
  rw [names, hentries]
  simp

/-- Different names that are found are no more than there are names. -/
theorem countP_le_size (p : Params) {names : List Text} (h : names.Nodup) :
    names.countP (fun name => (p.get? name).isSome) ≤ p.size := by
  have hsub : names.filter (fun name => (p.get? name).isSome) ⊆ p.names :=
    fun name hname => mem_names_of_get? (List.mem_filter.1 hname).2
  have hperm := List.subperm_of_subset (h.filter _) hsub
  rw [List.countP_eq_length_filter, ← length_names]
  exact hperm.length_le

end Params

namespace Line

/-- The values that the last segment of a name gives it, if there is one. -/
def lastValues? (number : Nat) (t name : Text) : Option (List Text) :=
  (((segments t).tail.filterMap fun s => (Param.parse number s).toOption).reverse.find?
    (·.name = name)).map Param.values

theorem get?_withParams (l : Line) (ps : List Param) (name : Text) :
    (l.withParams ps).params.get? name =
      ((ps.reverse.find? (·.name = name)).map Param.values).or (l.params.get? name) := by
  induction ps generalizing l with
  | nil => rfl
  | cons p ps ih =>
    rw [withParams_cons, ih, withParam, Params.get?_insert, List.reverse_cons, List.find?_append]
    cases ps.reverse.find? (·.name = name) with
    | some q => rfl
    | none =>
      by_cases hname : p.name = name
      · simp [hname]
      · have hother : ¬ name = p.name := fun e => hname e.symm
        simp [hname, hother]

/-- **The values under a name are those of its last segment.** -/
theorem get?_eq_lastValues? (h : parse number t = .ok l) (name : Text) :
    l.params.get? name = lastValues? number t name := by
  obtain ⟨first, rest, ps, hs, hps, rfl⟩ := parse_eq_ok_iff.1 h
  have hnone : (ofLead (Lead.ofText first)).params.get? name = none := rfl
  rw [get?_withParams, hnone, Option.or_none, lastValues?, hs, List.tail_cons,
    Param.filterMap_toOption hps]

theorem size_withParams_le (l : Line) (ps : List Param) :
    (l.withParams ps).params.size ≤ l.params.size + ps.length := by
  induction ps generalizing l with
  | nil => exact Nat.le_refl _
  | cons p ps ih =>
    have hwrite : (l.withParam p.name p.values).params.size ≤ l.params.size + 1 :=
      l.params.size_insert_le p.name p.values
    have hrest := ih (l.withParam p.name p.values)
    rw [withParams_cons, List.length_cons]
    omega

/-- **A line has no more parameters than commas.** -/
theorem size_le_count (h : parse number t = .ok l) : l.params.size ≤ t.count ',' := by
  obtain ⟨first, rest, ps, hs, hps, rfl⟩ := parse_eq_ok_iff.1 h
  have hsize := size_withParams_le (ofLead (Lead.ofText first)) ps
  have hnone : (ofLead (Lead.ofText first)).params.size = 0 := rfl
  have hlength := congrArg List.length hps
  have hcount : (segments t).length = t.count ',' + 1 := length_splitOn t
  rw [hs, List.length_cons] at hcount
  rw [List.length_map, List.length_map] at hlength
  omega

theorem length_name_le (h : parse number t = .ok l) : l.name.length ≤ t.length := by
  obtain ⟨first, rest, hs⟩ := exists_segments t
  have hfirst := Lead.length_name_le first
  have htext : t = ended ',' [] ++ first ++ led ',' rest := eq_of_splitOn hs
  have hlength := congrArg List.length htext
  rw [List.length_append, List.length_append] at hlength
  rw [(lead_of_parse h hs).2]
  exact Nat.le_trans hfirst (by omega)

end Line

end MigrationDbml
