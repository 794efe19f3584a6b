import MigrationDbml.Line.Basic
import MigrationDbml.Proofs.Segments

/-!
# Reading a line

A line is read segment by segment. Either all segments behind the first comma are
well formed, and then the line takes their parameters in order (`withParams`), or one
of them is the first malformed one (`BreaksAt`), and then it is the one reported.

* `parse_eq_ok_iff`: an accepted line is its lead with the parameters of its segments.
* `parse_eq_error_iff`: a refused line breaks at its first malformed segment, and the
  place of the break is counted from the start of the line.
-/

namespace MigrationDbml.Line

open Text

/-- The line with parameters written into it, from left to right. -/
def withParams (l : Line) (ps : List Param) : Line :=
  ps.foldl (fun l p => l.withParam p.name p.values) l

@[simp] theorem withParams_cons (l : Line) (p : Param) (ps : List Param) :
    l.withParams (p :: ps) = (l.withParam p.name p.values).withParams ps := rfl

theorem head_withParams (l : Line) (ps : List Param) : (l.withParams ps).head = l.head := by
  induction ps generalizing l with
  | nil => rfl
  | cons p ps ih => rw [withParams_cons, ih, withParam]

theorem name_withParams (l : Line) (ps : List Param) : (l.withParams ps).name = l.name := by
  induction ps generalizing l with
  | nil => rfl
  | cons p ps ih => rw [withParams_cons, ih, withParam]

/-- Whether a line has a malformed segment behind its first comma. -/
def IsBroken (t : Text) : Prop := ∃ s ∈ (segments t).tail, Param.IsBroken s

/-- Whether `b` is the first malformed segment of a line, behind the segments `before`.
The first segment of a line is its lead, which is never malformed. -/
structure BreaksAt (t : Text) (before : List Text) (b : Param.Break) : Prop where
  segments_eq : ∃ after, segments t = before ++ b.segment :: after
  before_ne_nil : before ≠ []
  unbroken : ∀ s ∈ before.tail, ¬ Param.IsBroken s

variable {number offset : Nat} {l l' : Line} {t : Text} {m : Malformed}

theorem addSegments_cons_ok {s : Text} {p : Param} (h : Param.parse number s = .ok p)
    (ss : List Text) : addSegments number offset (s :: ss) l =
      addSegments number (offset + byteLength (ended ',' [s])) ss (l.withParam p.name p.values) := by
  have hlen : byteLength (ended ',' [s]) = byteLength s + 1 := byteLength_ended_cons rfl s []
  rw [addSegments, h, hlen, ← Nat.add_assoc]

/-- **All segments are accepted exactly when each is**, and the line takes what was read. -/
theorem addSegments_eq_ok_iff {ss : List Text} : addSegments number offset ss l = .ok l' ↔
    ∃ ps, ss.map (Param.parse number) = ps.map .ok ∧ l' = l.withParams ps := by
  induction ss generalizing offset l with
  | nil =>
    constructor
    · intro h
      cases h
      exact ⟨[], rfl, rfl⟩
    · rintro ⟨ps, hps, rfl⟩
      have : ps = [] := by simpa using hps.symm
      subst this; rfl
  | cons s ss ih =>
    cases hs : Param.parse number s with
    | error m =>
      -- a refused segment leaves neither side anything to read
      constructor
      · intro h
        rw [addSegments, hs] at h
        cases h
      · rintro ⟨ps, hps, -⟩
        cases ps with
        | nil => cases hps
        | cons p ps => rw [List.map_cons, List.map_cons, hs] at hps; cases hps
    | ok p =>
      rw [addSegments_cons_ok hs, ih]
      constructor
      · rintro ⟨ps, hps, rfl⟩
        exact ⟨p :: ps, by rw [List.map_cons, List.map_cons, hs, hps], rfl⟩
      · rintro ⟨ps, hps, rfl⟩
        cases ps with
        | nil => cases hps
        | cons q qs =>
          rw [List.map_cons, List.map_cons, hs, List.cons.injEq] at hps
          obtain ⟨hq, hqs⟩ := hps
          cases hq
          exact ⟨qs, hqs, rfl⟩

theorem exists_addSegments_ok {ss : List Text} (h : ∀ s ∈ ss, ¬ Param.IsBroken s) :
    ∃ l', addSegments number offset ss l = .ok l' := by
  induction ss generalizing offset l with
  | nil => exact ⟨l, rfl⟩
  | cons s ss ih =>
    obtain ⟨p, hp⟩ := (Param.not_isBroken_iff number).1 (h s List.mem_cons_self)
    rw [addSegments_cons_ok hp]
    exact ih fun r hr => h r (List.mem_cons_of_mem s hr)

/-- The first malformed segment is the one reported, whatever comes behind it. -/
theorem addSegments_of_break {before : List Text} (h : ∀ s ∈ before, ¬ Param.IsBroken s)
    (b : Param.Break) (after : List Text) :
    addSegments number offset (before ++ b.segment :: after) l =
      .error ((b.malformed number).shift (offset + byteLength (ended ',' before))) := by
  -- every accepted segment moves the offset past itself and its comma
  induction before generalizing offset l with
  | nil =>
    have hb : Param.parse number b.segment = _ := Param.parse_shape number (.broken b)
    rw [List.nil_append, addSegments, hb]
    rfl
  | cons s ss ih =>
    obtain ⟨p, hp⟩ := (Param.not_isBroken_iff number).1 (h s List.mem_cons_self)
    have hlen : offset + byteLength (ended ',' [s]) + byteLength (ended ',' ss) =
        offset + byteLength (ended ',' (s :: ss)) := by
      rw [Nat.add_assoc, ← byteLength_append, ← ended_append]; rfl
    rw [List.cons_append, addSegments_cons_ok hp, ih fun r hr => h r (List.mem_cons_of_mem s hr), hlen]

theorem exists_segments (t : Text) : ∃ first rest, segments t = first :: rest :=
  List.exists_cons_of_ne_nil (List.splitOn_ne_nil ',' t)

/-- The segments of a line and their commas are as long as the line and one comma. -/
theorem byteLength_ended_segments (t : Text) : byteLength (ended ',' (segments t)) = byteLength t + 1 :=
  byteLength_ended_splitOn rfl t

theorem comma_not_mem_of_mem_segments {s : Text} (h : s ∈ segments t) : ',' ∉ s :=
  not_mem_of_mem_splitOn h

theorem parse_of_segments {first : Text} {rest : List Text} (h : segments t = first :: rest) :
    parse number t = addSegments number (byteLength (ended ',' [first])) rest (ofLead (Lead.ofText first)) := by
  have hlen : byteLength (ended ',' [first]) = byteLength first + 1 := byteLength_ended_cons rfl first []
  unfold parse
  rw [h, hlen, List.headD_cons, List.tail_cons]

/-- **An accepted line** is its lead with the parameters of the later segments. -/
theorem parse_eq_ok_iff : parse number t = .ok l ↔ ∃ first rest ps, segments t = first :: rest ∧
    rest.map (Param.parse number) = ps.map .ok ∧ l = (ofLead (Lead.ofText first)).withParams ps := by
  obtain ⟨first, rest, h⟩ := exists_segments t
  rw [parse_of_segments h, addSegments_eq_ok_iff]
  constructor
  · rintro ⟨ps, hps, hl⟩
    exact ⟨first, rest, ps, h, hps, hl⟩
  · rintro ⟨first', rest', ps, h', hps, hl⟩
    rw [h, List.cons.injEq] at h'
    obtain ⟨rfl, rfl⟩ := h'
    exact ⟨ps, hps, hl⟩

/-- The head and the name of a line are those of its first segment. -/
theorem lead_of_parse {first : Text} {ss : List Text} (h : parse number t = .ok l)
    (hs : segments t = first :: ss) :
    l.head = (Lead.ofText first).head ∧ l.name = (Lead.ofText first).name := by
  obtain ⟨first', rest, ps, hs', -, rfl⟩ := parse_eq_ok_iff.1 h
  obtain ⟨rfl, rfl⟩ := List.cons.inj (hs.symm.trans hs')
  rw [head_withParams, name_withParams]
  exact ⟨rfl, rfl⟩

theorem parse_ok_of_parse_ok (number' : Nat) (h : parse number t = .ok l) : parse number' t = .ok l := by
  obtain ⟨first, rest, ps, hs, hps, hl⟩ := parse_eq_ok_iff.1 h
  refine parse_eq_ok_iff.2 ⟨first, rest, ps, hs, ?_, hl⟩
  have hmap := congrArg (List.map (Except.mapError fun m => { m with line := number' })) hps
  rw [List.map_map, List.map_map] at hmap
  refine Eq.trans (List.map_congr_left fun s _ => ?_) hmap
  exact Param.parse_eq_mapError number' number s

/-- Where a line breaks is what is reported about it. -/
theorem parse_of_breaksAt {before : List Text} {b : Param.Break} (h : BreaksAt t before b) :
    parse number t = .error ((b.malformed number).shift (byteLength (ended ',' before))) := by
  obtain ⟨⟨after, hs⟩, hne, hu⟩ := h
  obtain ⟨first, rest, rfl⟩ := List.exists_cons_of_ne_nil hne
  have hs' : segments t = first :: (rest ++ b.segment :: after) := hs
  have hu' : ∀ s ∈ rest, ¬ Param.IsBroken s := hu
  rw [parse_of_segments hs', addSegments_of_break hu', ← byteLength_append, ← ended_append]
  rfl

theorem exists_breaksAt (h : IsBroken t) : ∃ before b, BreaksAt t before b := by
  obtain ⟨first, rest, hs⟩ := exists_segments t
  obtain ⟨s, hmem, hb⟩ := h
  rw [hs, List.tail_cons] at hmem
  obtain ⟨before, r, after, rfl, hu, b, rfl⟩ := exists_first hmem hb
  exact ⟨first :: before, b, ⟨after, hs⟩, List.cons_ne_nil _ _, hu⟩

/-- A line breaks at the first malformed one of the segments behind its first comma. -/
theorem exists_breaksAt_iff {b : Param.Break} : (∃ before, BreaksAt t before b) ↔
    ∃ before after, (segments t).tail = before ++ b.segment :: after ∧
      ∀ s ∈ before, ¬ Param.IsBroken s := by
  obtain ⟨first, rest, hs⟩ := exists_segments t
  rw [hs, List.tail_cons]
  constructor
  · rintro ⟨before, ⟨after, h⟩, hne, hu⟩
    obtain ⟨e, before, rfl⟩ := List.exists_cons_of_ne_nil hne
    exact ⟨before, after, (List.cons.inj (hs.symm.trans h)).2, hu⟩
  · rintro ⟨before, after, rfl, hu⟩
    exact ⟨first :: before, ⟨after, hs⟩, List.cons_ne_nil _ _, hu⟩

theorem not_isBroken_of_parse (h : parse number t = .ok l) : ¬ IsBroken t := by
  intro hb
  obtain ⟨before, b, hat⟩ := exists_breaksAt hb
  rw [parse_of_breaksAt hat] at h
  cases h

theorem BreaksAt.isBroken {before : List Text} {b : Param.Break} (h : BreaksAt t before b) : IsBroken t := by
  obtain ⟨⟨after, hs⟩, hne, -⟩ := h
  obtain ⟨first, rest, rfl⟩ := List.exists_cons_of_ne_nil hne
  refine ⟨b.segment, ?_, b, rfl⟩
  rw [hs, List.cons_append, List.tail_cons]
  exact List.mem_append_right rest List.mem_cons_self

/-- The text of a broken line up to the character of the break. -/
theorem BreaksAt.text_eq {before : List Text} {b : Param.Break} (h : BreaksAt t before b) :
    ∃ after, t = ended ',' before ++ b.text ++ b.found :: after := by
  obtain ⟨⟨after, hs⟩, -, -⟩ := h
  refine ⟨b.rest ++ led ',' after, ?_⟩
  rw [eq_of_splitOn hs, Param.Break.segment]
  simp

theorem BreaksAt.comma_not_mem {before : List Text} {b : Param.Break} (h : BreaksAt t before b) :
    ',' ∉ b.segment := by
  obtain ⟨⟨after, hs⟩, -, -⟩ := h
  exact comma_not_mem_of_mem_segments (t := t) (by rw [hs]; simp)

theorem BreaksAt.comma_mem {before : List Text} {b : Param.Break} (h : BreaksAt t before b) :
    ',' ∈ ended ',' before := by
  obtain ⟨first, rest, rfl⟩ := List.exists_cons_of_ne_nil h.before_ne_nil
  rw [ended_cons]
  simp

theorem exists_parse_ok (number : Nat) (h : ¬ IsBroken t) : ∃ l, parse number t = .ok l := by
  obtain ⟨first, rest, hs⟩ := exists_segments t
  rw [parse_of_segments hs]
  refine exists_addSegments_ok fun s hmem hb => h ⟨s, ?_, hb⟩
  rw [hs]; exact hmem

/-- **A refused line breaks at its first malformed segment**, and that is what is reported. -/
theorem parse_eq_error_iff : parse number t = .error m ↔ ∃ before b, BreaksAt t before b ∧
    m = (b.malformed number).shift (byteLength (ended ',' before)) := by
  constructor
  · intro h
    by_cases hb : IsBroken t
    · obtain ⟨before, b, hat⟩ := exists_breaksAt hb
      rw [parse_of_breaksAt hat] at h
      exact ⟨before, b, hat, (Except.error.inj h).symm⟩
    · obtain ⟨l, hl⟩ := exists_parse_ok number hb
      rw [hl] at h
      cases h
  · rintro ⟨before, b, hat, rfl⟩
    exact parse_of_breaksAt hat

end MigrationDbml.Line
