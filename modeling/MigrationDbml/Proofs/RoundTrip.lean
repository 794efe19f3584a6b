import MigrationDbml.Proofs.Lines
import MigrationDbml.Proofs.Writing

/-!
# Lines and their canonical texts

The lines that can be read are the well-formed ones, and each is read back from its
canonical text (`Line.write`), whichever way of writing values is preferred.

* `wellFormed_of_parse`: a line that is read is well formed.
* `parse_write`: a well-formed line is read from its canonical text.
* `parse_image_iff_wellFormed`: both, for any line.
-/

namespace MigrationDbml

namespace Params

variable {p : Params} {name : Text} {values : List Text}

theorem mem_replaceEntry {e : Entry} {es : List Entry} (h : e ∈ (replaceEntry name values es).2) :
    e = (name, values) ∨ e ∈ es := by
  induction es with
  | nil => exact .inl (List.mem_singleton.1 h)
  | cons d es ih =>
    rw [replaceEntry] at h
    split at h
    · rcases List.mem_cons.1 h with h | h
      · exact .inl h
      · exact .inr (List.mem_cons_of_mem d h)
    · rcases List.mem_cons.1 h with rfl | h
      · exact .inr List.mem_cons_self
      · exact (ih h).imp_right (List.mem_cons_of_mem d)

theorem replaceEntry_of_not_mem {es : List Entry} (h : name ∉ es.map Prod.fst) :
    (replaceEntry name values es).2 = es ++ [(name, values)] := by
  induction es with
  | nil => rfl
  | cons d es ih =>
    rw [List.map_cons, List.mem_cons, not_or] at h
    have hd : ¬ d.1 = name := fun e => h.1 e.symm
    rw [replaceEntry, if_neg hd]
    simp only [ih h.2, List.cons_append]

/-- A new name is written behind the others. -/
theorem entries_insert_of_not_mem (h : name ∉ p.names) :
    (p.insert name values).entries = p.entries ++ [(name, values)] :=
  replaceEntry_of_not_mem h

theorem ext_entries {p q : Params} (h : p.entries = q.entries) : p = q := by
  cases p; cases q; cases h; rfl

end Params

namespace Line

open Text

theorem ext_fields {l l' : Line} (hh : l.head = l'.head) (hn : l.name = l'.name)
    (hp : l.params = l'.params) : l = l' := by
  cases l; cases l'; cases hh; cases hn; cases hp; rfl

/-- Whether a line can be read from some text. -/
structure WellFormed (l : Line) : Prop where
  lead : Lead.WellFormed ⟨l.head, l.name⟩
  names_nodup : l.params.names.Nodup
  params : ∀ e ∈ l.params.entries, Param.WellFormed ⟨e.1, e.2⟩

/-- **The canonical text of a line.** Values are written in the preferred way where they can be. -/
def write (q : Quoting) (l : Line) : Text :=
  Lead.write q ⟨l.head, l.name⟩ ++ led ',' (l.params.entries.map fun e => Param.write q ⟨e.1, e.2⟩)

variable {l : Line} {t : Text} {number : Nat} {q : Quoting}

/-- **One parameter more keeps a line well formed**, also where it replaces another. -/
theorem WellFormed.withParam (h : l.WellFormed) {p : Param} (hp : p.WellFormed) :
    (l.withParam p.name p.values).WellFormed := by
  refine ⟨h.lead, (l.params.insert p.name p.values).nodup, ?_⟩
  intro e he
  -- an entry is the one written or was there before
  rcases Params.mem_replaceEntry he with rfl | he
  · exact hp
  · exact h.params e he

theorem WellFormed.withParams (h : l.WellFormed) {ps : List Param} (hps : ∀ p ∈ ps, p.WellFormed) :
    (l.withParams ps).WellFormed := by
  induction ps generalizing l with
  | nil => exact h
  | cons p ps ih =>
    rw [withParams_cons]
    exact ih (h.withParam (hps p List.mem_cons_self)) fun r hr => hps r (List.mem_cons_of_mem p hr)

/-- **A line that is read is well formed.** -/
theorem wellFormed_of_parse (h : parse number t = .ok l) : l.WellFormed := by
  obtain ⟨first, rest, ps, hs, hps, rfl⟩ := parse_eq_ok_iff.1 h
  have hcomma : ∀ s ∈ first :: rest, ',' ∉ s := by
    intro s hm
    rw [← hs] at hm
    exact not_mem_of_mem_splitOn hm
  have hlead : (ofLead (Lead.ofText first)).WellFormed :=
    ⟨Lead.wellFormed_ofText (hcomma first List.mem_cons_self), List.nodup_nil, fun e he => by cases he⟩
  refine hlead.withParams fun p hp => ?_
  have hok : (.ok p : Except Malformed Param) ∈ rest.map (Param.parse number) := by
    rw [hps]; exact List.mem_map_of_mem hp
  obtain ⟨s, hm, hparse⟩ := List.mem_map.1 hok
  exact Param.wellFormed_of_parse (hcomma s (List.mem_cons_of_mem first hm)) hparse

/-- Parameters with new and different names are taken as they come. -/
theorem withParams_of_nodup {es : List Params.Entry} (h : (l.params.names ++ es.map Prod.fst).Nodup) :
    (l.withParams (es.map fun e => ⟨e.1, e.2⟩)).head = l.head ∧
      (l.withParams (es.map fun e => ⟨e.1, e.2⟩)).name = l.name ∧
      (l.withParams (es.map fun e => ⟨e.1, e.2⟩)).params.entries = l.params.entries ++ es := by
  induction es generalizing l with
  | nil => exact ⟨rfl, rfl, (List.append_nil _).symm⟩
  | cons e es ih =>
    rw [List.map_cons] at h
    -- as the name is new, its entry goes behind those that the line has
    have hnew : e.1 ∉ l.params.names := by
      intro hm
      exact (List.nodup_append.1 h).2.2 e.1 hm e.1 List.mem_cons_self rfl
    have hentries : (l.withParam e.1 e.2).params.entries = l.params.entries ++ [e] :=
      Params.entries_insert_of_not_mem hnew
    have hnames : (l.withParam e.1 e.2).params.names = l.params.names ++ [e.1] := by
      rw [Params.names, hentries, List.map_append]; rfl
    obtain ⟨h1, h2, h3⟩ := ih (l := l.withParam e.1 e.2) (by rw [hnames, List.append_assoc]; exact h)
    rw [List.map_cons, withParams_cons]
    refine ⟨h1, h2, ?_⟩
    rw [h3, hentries, List.append_assoc]; rfl

theorem segments_write (q : Quoting) (h : l.WellFormed) : segments (l.write q) =
    Lead.write q ⟨l.head, l.name⟩ :: l.params.entries.map fun e => Param.write q ⟨e.1, e.2⟩ := by
  have hcomma : ∀ r ∈ [] ++ Lead.write q ⟨l.head, l.name⟩ ::
      l.params.entries.map fun e => Param.write q ⟨e.1, e.2⟩, ',' ∉ r := by
    intro r hr
    rcases List.mem_cons.1 hr with rfl | hr
    · exact Lead.comma_not_mem_write q h.lead
    · obtain ⟨e, he, rfl⟩ := List.mem_map.1 hr
      exact Param.comma_not_mem_write q (h.params e he)
  have hsplit := splitOn_ended_led hcomma
  rw [ended_nil, List.nil_append, List.nil_append] at hsplit
  exact hsplit

/-- **A well-formed line is read from its canonical text.** -/
theorem parse_write (q : Quoting) (number : Nat) (h : l.WellFormed) : parse number (l.write q) = .ok l := by
  refine parse_eq_ok_iff.2 ⟨_, _, l.params.entries.map fun e => ⟨e.1, e.2⟩, segments_write q h, ?_, ?_⟩
  · rw [List.map_map, List.map_map]
    refine List.map_congr_left fun e he => ?_
    exact Param.parse_write q (h.params e he)
  · rw [Lead.ofText_write q h.lead]
    obtain ⟨h1, h2, h3⟩ := withParams_of_nodup (l := ofLead ⟨l.head, l.name⟩) h.names_nodup
    exact ext_fields h1.symm h2.symm (Params.ext_entries h3).symm

/-- **The lines that are read are the well-formed ones**, and each is read from its canonical
text, on a line of any number. -/
theorem parse_image_iff_wellFormed (l : Line) :
    ((∃ number t, parse number t = .ok l) ↔ l.WellFormed) ∧
      (l.WellFormed → ∀ q number, parse number (l.write q) = .ok l) := by
  refine ⟨⟨?_, ?_⟩, ?_⟩
  · rintro ⟨number, t, h⟩
    exact wellFormed_of_parse h
  · intro h
    exact ⟨1, l.write .bare, parse_write .bare 1 h⟩
  · intro h q number
    exact parse_write q number h

/-- A line on which names and values have all the forms they can have. -/
theorem parse_image_iff_wellFormed_of_mixed :
    let l : Line := ⟨"t.string".toList, "b c".toList,
      ⟨[([], []), (":x\"y".toList, ["a\"b".toList, [], "c\\d".toList, "e f".toList]),
        ("null".toList, [])], by decide⟩⟩
    l.WellFormed ∧ parse 3 (l.write .quoted) = .ok l := by
  intro l
  have hlead : Lead.WellFormed ⟨l.head, l.name⟩ := ⟨by decide, by decide, by decide, by decide⟩
  have h : l.WellFormed := ⟨hlead, by decide, by decide⟩
  exact ⟨h, (parse_image_iff_wellFormed l).2 h .quoted 3⟩

end Line

end MigrationDbml
