import Mathlib.Data.List.Nodup
import MigrationDbml.Proofs.Emissions
import MigrationDbml.Proofs.Sources

/-!
# What is read of a source

A source that is converted was read (`Reads`): there is a reading for each physical line,
in order. The readings are numbered from 1, one more than there are line feeds.

* `exists_reads`: a conversion is made of what the readings become.
* `Reads.map_number`, `Reads.map_text`: the readings in terms of the source.
* `Reads.map_emission`: what they become, text by text.
-/

namespace MigrationDbml

open Text Source Dbml

theorem PhysicalLine.parse_eq_ok_iff {p : PhysicalLine} {l : Line} :
    p.parse = .ok l ↔ Line.parse p.number p.text = .ok l := by
  unfold PhysicalLine.parse
  cases Line.parse p.number p.text <;> simp [Except.mapError]

namespace Source

/-- Whether `rs` is what a source is read to, line by line. -/
structure Reads (source : Text) (rs : List Reading) : Prop where
  map_source : rs.map Reading.source = physicalLines source
  parse_eq : ∀ r ∈ rs, r.source.parse = .ok r.line

variable {source : Text} {c : Conversion} {rs : List Reading} {r : Reading}

theorem map_text_place (ps : List Text) : ∀ number offset,
    (place number offset ps).map PhysicalLine.text = ps.map dropReturn := by
  induction ps with
  | nil => intro number offset; rfl
  | cons p ps ih => intro number offset; rw [place, List.map_cons, List.map_cons, ih]

theorem map_text_physicalLines (source : Text) :
    (physicalLines source).map PhysicalLine.text = texts source := map_text_place _ _ _

theorem newline_not_mem_text {t : Text} (ht : t ∈ texts source) : '\n' ∉ t := by
  obtain ⟨p, hp, rfl⟩ := List.mem_map.1 ht
  obtain ⟨r, hr⟩ := exists_dropReturn_append p
  intro hm
  refine not_mem_of_mem_splitOn hp ?_
  rw [hr]
  exact List.mem_append_left r hm

theorem map_number_place (ps : List Text) : ∀ number offset,
    (place number offset ps).map PhysicalLine.number = List.range' number ps.length := by
  induction ps with
  | nil => intro number offset; rfl
  | cons p ps ih =>
    intro number offset
    rw [place, List.map_cons, ih, List.length_cons, List.range'_succ]

theorem length_pieces (source : Text) : (pieces source).length = source.count '\n' + 1 := by
  obtain ⟨m, hsource, -, hm⟩ := exists_body_append source
  have hcount : source.count '\n' = (body source).count '\n' := by
    conv_lhs => rw [hsource]
    rw [List.count_append, List.count_eq_zero_of_not_mem hm, Nat.zero_add]
  rw [pieces, length_splitOn, hcount]

theorem map_number_physicalLines (source : Text) :
    (physicalLines source).map PhysicalLine.number = List.range' 1 (source.count '\n' + 1) := by
  rw [← length_pieces]
  exact map_number_place _ _ _

theorem read_eq_none {ps : List PhysicalLine} (h : read ps = (rs, none)) :
    rs.map Reading.source = ps ∧ ∀ r ∈ rs, r.source.parse = .ok r.line := by
  induction ps generalizing rs with
  | nil => cases h; exact ⟨rfl, fun r hr => by cases hr⟩
  | cons p ps ih =>
    rw [read] at h
    cases hp : p.parse with
    | error m => rw [hp] at h; cases h
    | ok l =>
      rw [hp] at h
      obtain ⟨rfl, hnone⟩ := Prod.mk.inj h
      obtain ⟨hsource, hparse⟩ := ih (Prod.ext rfl hnone)
      refine ⟨by rw [List.map_cons, hsource], ?_⟩
      intro r hr
      rcases List.mem_cons.1 hr with rfl | hr
      · exact hp
      · exact hparse r hr

/-- **What is converted was read**, and is made of what its lines become. -/
theorem exists_reads (h : convert source = .ok c) :
    ∃ rs, Reads source rs ∧ c = Conversion.ofReadings (lineCount source) rs := by
  unfold convert transcribe at h
  cases hread : read (physicalLines source) with
  | mk rs malformed =>
    rw [hread] at h
    cases malformed with
    | some m => cases h
    | none =>
      obtain ⟨hsource, hparse⟩ := read_eq_none hread
      exact ⟨rs, ⟨hsource, hparse⟩, (Except.ok.inj h).symm⟩

namespace Reads

theorem map_number (h : Reads source rs) :
    (rs.map fun r => r.source.number) = List.range' 1 (source.count '\n' + 1) := by
  rw [← map_number_physicalLines, ← h.map_source, List.map_map]; rfl

theorem map_text (h : Reads source rs) :
    (rs.map fun r => r.source.text) = ((body source).splitOn '\n').map dropReturn := by
  have htexts := map_text_physicalLines source
  rw [← h.map_source, List.map_map] at htexts
  exact htexts

/-- **Readings are told apart by their numbers.** -/
theorem eq_of_number_eq (h : Reads source rs) {r' : Reading} (hr : r ∈ rs) (hr' : r' ∈ rs)
    (hnumber : r.source.number = r'.source.number) : r = r' := by
  have hnodup : (rs.map fun r => r.source.number).Nodup := by
    rw [h.map_number]
    exact List.nodup_range'
  exact List.inj_on_of_nodup_map hnodup hr hr' hnumber

theorem map_parse (h : Reads source rs) :
    (physicalLines source).map PhysicalLine.parse = (rs.map Reading.line).map .ok := by
  rw [← h.map_source, List.map_map, List.map_map]
  exact List.map_congr_left h.parse_eq

theorem number_eq (h : Reads source rs) {i : Nat} (hi : rs[i]? = some r) : r.source.number = 1 + i := by
  have hnumber : (List.range' 1 (source.count '\n' + 1))[i]? = some r.source.number := by
    rw [← h.map_number, List.getElem?_map, hi]; rfl
  obtain ⟨hlt, hvalue⟩ := List.getElem?_eq_some_iff.1 hnumber
  rw [← hvalue, List.getElem_range', Nat.one_mul]

theorem text_eq (h : Reads source rs) {i : Nat} (hi : rs[i]? = some r) :
    (texts source)[i]? = some r.source.text := by
  have htexts : (rs.map fun r => r.source.text) = texts source := h.map_text
  rw [← htexts, List.getElem?_map, hi]; rfl

/-- **What the readings become** is what the texts become under their numbers. -/
theorem map_emission (h : Reads source rs) :
    rs.map Reading.emission = Emission.ofTexts 1 (texts source) := by
  have htexts : (rs.map fun r => r.source.text) = texts source := h.map_text
  refine List.ext_getElem? fun i => ?_
  rw [Emission.ofTexts, List.getElem?_mapIdx, ← htexts, List.getElem?_map, List.getElem?_map]
  cases hi : rs[i]? with
  | none => rfl
  | some r =>
    have hr := List.mem_of_getElem? hi
    have hnumber : r.source.number = 1 + i := h.number_eq hi
    have hparse := PhysicalLine.parse_eq_ok_iff.1 (h.parse_eq r hr)
    rw [Option.map_some, Option.map_some, Option.map_some, Emission.ofText_of_parse hparse, ← hnumber]
    rfl

theorem newline_not_mem (h : Reads source rs) (hr : r ∈ rs) : '\n' ∉ r.source.text := by
  obtain ⟨i, hi⟩ := List.mem_iff_getElem?.1 hr
  exact newline_not_mem_text (List.mem_of_getElem? (h.text_eq hi))

end Reads

end Source

end MigrationDbml
