import MigrationDbml.Conversion
import MigrationDbml.Proofs.Lines

/-!
# Reading a source

A source is read line by line, and the first line with a malformed segment refuses it
(`Source.BreaksAt`). The pieces between line feeds stand for the lines here: a line
starts where the pieces before it, each with its line feed, end.

* `convert_eq_error_iff`: a refused source breaks at the first malformed segment of its
  first broken line, and the place of the break is counted from the start of the source.
* `exists_convert_ok`: a source without a broken line is converted.
-/

namespace MigrationDbml.Source

open Text

/-- The pieces of a source between its line feeds. -/
def pieces (source : Text) : List Text := (body source).splitOn '\n'

/-- The texts of the physical lines. -/
def texts (source : Text) : List Text := (pieces source).map dropReturn

/-- Whether `piece` is the first piece of a source with a broken line, behind the pieces `before`. -/
structure BreaksAt (source : Text) (before : List Text) (piece : Text) : Prop where
  pieces_eq : ∃ after, pieces source = before ++ piece :: after
  unbroken : ∀ q ∈ before, ¬ Line.IsBroken (dropReturn q)

variable {source : Text} {m : Malformed}

theorem exists_dropReturn_append (t : Text) : ∃ r, t = dropReturn t ++ r := by
  unfold dropReturn
  split
  · obtain ⟨r, hr⟩ := t.dropLast_prefix
    exact ⟨r, hr.symm⟩
  · exact ⟨[], (List.append_nil t).symm⟩

/-- A source is its byte order mark, if it has one, and its body. -/
theorem exists_body_append (source : Text) :
    ∃ m, source = m ++ body source ∧ byteLength m = bodyOffset source ∧ '\n' ∉ m := by
  unfold body bodyOffset
  split
  · rename_i h
    obtain ⟨t, rfl⟩ := List.head?_eq_some_iff.1 h
    exact ⟨[mark], rfl, by simp, by decide⟩
  · exact ⟨[], rfl, rfl, List.not_mem_nil⟩

/-- What a source starts with has the same byte order mark. -/
theorem body_append {s : Text} (hs : s ≠ []) (t : Text) : body (s ++ t) = body s ++ t := by
  -- the first character alone says whether there is a mark
  obtain ⟨c, r, rfl⟩ := List.exists_cons_of_ne_nil hs
  unfold body
  rw [List.cons_append, List.head?_cons, List.head?_cons]
  split <;> rfl

/-- The body of a source up to the end of its first broken line. -/
theorem BreaksAt.body_eq {before : List Text} {piece : Text} (h : BreaksAt source before piece) :
    ∃ after, body source = ended '\n' before ++ dropReturn piece ++ after := by
  obtain ⟨⟨after, hp⟩, -⟩ := h
  obtain ⟨r, hr⟩ := exists_dropReturn_append piece
  refine ⟨r ++ led '\n' after, ?_⟩
  rw [eq_of_splitOn hp, List.append_assoc, List.append_assoc, ← List.append_assoc _ r, ← hr]

theorem BreaksAt.newline_not_mem {before : List Text} {piece : Text}
    (h : BreaksAt source before piece) : (∀ q ∈ before, '\n' ∉ q) ∧ '\n' ∉ dropReturn piece := by
  obtain ⟨⟨after, hp⟩, -⟩ := h
  have hmem : ∀ q ∈ before ++ piece :: after, '\n' ∉ q := by
    intro q hq
    rw [← hp] at hq
    exact not_mem_of_mem_splitOn hq
  obtain ⟨r, hr⟩ := exists_dropReturn_append piece
  refine ⟨fun q hq => hmem q (List.mem_append_left _ hq), fun hn => hmem piece (by simp) ?_⟩
  rw [hr]; exact List.mem_append_left r hn

theorem place_append (ps qs : List Text) : ∀ number offset, place number offset (ps ++ qs) =
    place number offset ps ++
      place (number + ps.length) (offset + byteLength (ended '\n' ps)) qs := by
  induction ps with
  | nil => intro number offset; rfl
  | cons p ps ih =>
    intro number offset
    have hn : number + 1 + ps.length = number + (p :: ps).length := by
      rw [List.length_cons]; omega
    have ho : offset + byteLength p + 1 + byteLength (ended '\n' ps) =
        offset + byteLength (ended '\n' (p :: ps)) := by
      rw [byteLength_ended_cons rfl]; omega
    rw [List.cons_append, place, place, ih, hn, ho, List.cons_append]

/-- Lines that are not broken are all read. -/
theorem read_place_of_unbroken {ps : List Text} (h : ∀ p ∈ ps, ¬ Line.IsBroken (dropReturn p))
    (later : List PhysicalLine) : ∀ number offset,
      (read (place number offset ps ++ later)).2 = (read later).2 := by
  induction ps with
  | nil => intro number offset; rfl
  | cons p ps ih =>
    intro number offset
    obtain ⟨l, hl⟩ := Line.exists_parse_ok number (h p List.mem_cons_self)
    have hp : PhysicalLine.parse ⟨number, offset, dropReturn p⟩ = .ok l := by
      rw [PhysicalLine.parse, hl]; rfl
    rw [place, List.cons_append, read, hp]
    exact ih (fun q hq => h q (List.mem_cons_of_mem p hq)) _ _

theorem convert_eq_error_iff_read : convert source = .error m ↔
    (read (physicalLines source)).2 = some m := by
  unfold convert transcribe
  generalize read (physicalLines source) = r
  obtain ⟨rs, _ | m'⟩ := r
  · simp
  · simp

/-- The first broken line is the one reported, whatever comes behind it. -/
theorem convert_of_breaksAt {before segs : List Text} {piece : Text} {b : Param.Break}
    (h : BreaksAt source before piece) (hb : Line.BreaksAt (dropReturn piece) segs b) :
    convert source = .error ((b.malformed (before.length + 1)).shift
      (byteLength (ended ',' segs) + (bodyOffset source + byteLength (ended '\n' before)))) := by
  obtain ⟨⟨after, hp⟩, hu⟩ := h
  have hlines : physicalLines source = place 1 (bodyOffset source) before ++
      ⟨before.length + 1, bodyOffset source + byteLength (ended '\n' before), dropReturn piece⟩ ::
        place (before.length + 2)
          (bodyOffset source + byteLength (ended '\n' before) + byteLength piece + 1) after := by
    unfold physicalLines
    rw [← pieces, hp, place_append, place, Nat.add_comm 1]
  -- the place is moved twice, from the segment to its line and from the line to the source
  have hparse : ∀ number offset, PhysicalLine.parse ⟨number, offset, dropReturn piece⟩ =
      .error ((b.malformed number).shift (byteLength (ended ',' segs) + offset)) := by
    intro number offset
    rw [PhysicalLine.parse, Line.parse_of_breaksAt hb, ← Malformed.shift_shift]
    rfl
  rw [convert_eq_error_iff_read, hlines, read_place_of_unbroken hu, read, hparse]

/-- **A source without a broken line is converted.** -/
theorem exists_convert_ok (h : ∀ t ∈ texts source, ¬ Line.IsBroken t) :
    ∃ c, convert source = .ok c := by
  have hu : ∀ p ∈ pieces source, ¬ Line.IsBroken (dropReturn p) :=
    fun p hp => h _ (List.mem_map_of_mem hp)
  have hread := read_place_of_unbroken hu [] 1 (bodyOffset source)
  rw [List.append_nil] at hread
  cases hc : convert source with
  | ok c => exact ⟨c, rfl⟩
  | error m =>
    rw [convert_eq_error_iff_read, physicalLines, ← pieces, hread] at hc
    cases hc

theorem exists_breaksAt {t : Text} (ht : t ∈ texts source) (h : Line.IsBroken t) :
    ∃ before piece, BreaksAt source before piece ∧ Line.IsBroken (dropReturn piece) := by
  obtain ⟨p, hp, rfl⟩ := List.mem_map.1 ht
  obtain ⟨before, piece, after, hpieces, hu, hb⟩ :=
    exists_first (q := fun p => Line.IsBroken (dropReturn p)) hp h
  exact ⟨before, piece, ⟨⟨after, hpieces⟩, hu⟩, hb⟩

/-- **A refused source breaks at the first malformed segment of its first broken line**,
and that is what is reported. -/
theorem convert_eq_error_iff : convert source = .error m ↔
    ∃ before piece segs b, BreaksAt source before piece ∧ Line.BreaksAt (dropReturn piece) segs b ∧
      m = (b.malformed (before.length + 1)).shift
        (byteLength (ended ',' segs) + (bodyOffset source + byteLength (ended '\n' before))) := by
  constructor
  · intro h
    by_cases hb : ∃ t ∈ texts source, Line.IsBroken t
    · obtain ⟨t, ht, hb⟩ := hb
      obtain ⟨before, piece, hat, hbroken⟩ := exists_breaksAt ht hb
      obtain ⟨segs, b, hseg⟩ := Line.exists_breaksAt hbroken
      rw [convert_of_breaksAt hat hseg] at h
      exact ⟨before, piece, segs, b, hat, hseg, (Except.error.inj h).symm⟩
    · obtain ⟨c, hc⟩ := exists_convert_ok fun t ht hbt => hb ⟨t, ht, hbt⟩
      rw [hc] at h
      cases h
  · rintro ⟨before, piece, segs, b, hat, hseg, rfl⟩
    exact convert_of_breaksAt hat hseg

end MigrationDbml.Source
