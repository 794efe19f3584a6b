import MigrationDbml.Proofs.Readings

/-!
# A conversion as a loop

`convert` puts together at the end what the lines of a source have become. A loop over the pieces
between line feeds keeps what it has so far (`Progress`): a text, a counter of the lines in it, the
warnings, and the number and offset of the next line. It comes to the same.

* `foldlM_advance`: what the loop adds, in terms of what is read.
* `convert_eq_foldlM`: the loop over a whole source. Its text and its counter are those of the
  conversion.
* `length_lines`: the lines of a source, counted one by one.
-/

namespace MigrationDbml

open Text Source Dbml

/-- What a conversion has come to before a physical line. -/
structure Progress where
  number : Nat
  offset : Nat
  dbml : Text
  linesEmitted : Nat
  warnings : List Warning

namespace Progress

/-- Before the first line. -/
def start (source : Text) : Progress := ⟨1, bodyOffset source, [], 0, []⟩

/-- Puts a line behind the text and counts it. -/
def emit (q : Progress) (line : Text) : Progress :=
  { q with dbml := q.dbml ++ line ++ ['\n'], linesEmitted := q.linesEmitted + 1 }

/-- Reads a piece between line feeds and emits what its line becomes. -/
def advance (q : Progress) (piece : Text) : Except Malformed Progress :=
  let raw := dropReturn piece
  match Line.parse q.number raw with
  | .error m => .error (m.shift q.offset)
  | .ok l =>
    let e := Emission.ofLine q.number raw l
    .ok { e.lines.foldl emit q with
      number := q.number + 1
      offset := q.offset + byteLength piece + 1
      warnings := q.warnings ++ e.warnings }

theorem foldl_emit (q : Progress) (ls : List Text) : ls.foldl emit q =
    { q with dbml := q.dbml ++ ended '\n' ls, linesEmitted := q.linesEmitted + ls.length } := by
  induction ls generalizing q with
  | nil => simp [ended]
  | cons l ls ih =>
    rw [List.foldl_cons, ih, emit, ended_cons, List.length_cons, Nat.add_right_comm, Nat.add_assoc]
    simp only [List.append_assoc, List.singleton_append]

/-- What is reported in the end. -/
def report (q : Progress) : Text × Nat × List Warning := (q.dbml, q.linesEmitted, q.warnings)

/-- What is reported with readings added to it. -/
def withReadings (q : Progress) (rs : List Reading) : Text × Nat × List Warning :=
  (q.dbml ++ ended '\n' (rs.flatMap fun r => r.emission.lines),
    q.linesEmitted + (rs.flatMap fun r => r.emission.lines).length,
    q.warnings ++ rs.flatMap fun r => r.emission.warnings)

end Progress

open Progress

/-- **The loop adds what is read**, and ends at the first malformed line. -/
theorem foldlM_advance (ps : List Text) (q : Progress) : (ps.foldlM advance q).map report =
    match read (place q.number q.offset ps) with
    | (_, some m) => .error m
    | (rs, none) => .ok (q.withReadings rs) := by
  induction ps generalizing q with
  | nil =>
    have hnone : q.withReadings [] = q.report := by simp [withReadings, report, ended]
    exact congrArg Except.ok hnone.symm
  | cons p ps ih =>
    rw [List.foldlM_cons, place, Source.read, PhysicalLine.parse, advance]
    cases hparse : Line.parse q.number (dropReturn p) with
    | error m => rfl
    | ok l =>
      simp only [Except.mapError, foldl_emit]
      refine (ih _).trans ?_
      dsimp only
      generalize read (place (q.number + 1) (q.offset + byteLength p + 1) ps) = r
      obtain ⟨rs, _ | m⟩ := r
      · refine congrArg Except.ok ?_
        simp [withReadings, Reading.emission, ended_append, Nat.add_assoc]
      · rfl

/-- **The loop comes to the conversion**: its text is what is written, and its counter counts the
lines in it. -/
theorem convert_eq_foldlM (source : Text) :
    (((body source).splitOn '\n').foldlM advance (start source)).map report =
      (convert source).map fun c => (c.dbml, c.linesEmitted, c.warnings) := by
  rw [foldlM_advance, start, convert, transcribe, physicalLines]
  generalize read (place 1 (bodyOffset source) ((body source).splitOn '\n')) = r
  obtain ⟨rs, _ | m⟩ := r
  · simp only [withReadings, List.nil_append, Nat.zero_add]
    rfl
  · rfl

/-! ### Counting lines -/

namespace Source

/-- The lines of a text with the characters `acc` of its first line before it, in reverse. -/
def linesFrom (acc : Text) : Text → List Text
  | [] => if acc = [] then [] else [acc.reverse]
  | c :: t => if c = '\n' then dropReturn acc.reverse :: linesFrom [] t else linesFrom (c :: acc) t

/-- The lines of a source, each with its line end taken off. There is none behind a last line feed. -/
def lines (source : Text) : List Text := linesFrom [] source

theorem length_linesFrom {acc : Text} (hacc : '\n' ∉ acc) (t : Text) : (linesFrom acc t).length =
    t.count '\n' + if (acc.reverse ++ t).getLast?.all (· = '\n') then 0 else 1 := by
  induction t generalizing acc with
  | nil =>
    cases acc with
    | nil => rfl
    | cons d acc =>
      have hd : d ≠ '\n' := fun e => hacc (e ▸ List.mem_cons_self)
      simp [linesFrom, hd]
  | cons c t ih =>
    unfold linesFrom
    split
    · rename_i hc
      have hlast : ((acc.reverse ++ c :: t).getLast?.all (· = '\n')) = t.getLast?.all (· = '\n') := by
        rw [List.getLast?_append_cons]
        cases t with
        | nil => simp [hc]
        | cons d t => rw [List.getLast?_cons_cons]
      rw [List.length_cons, ih List.not_mem_nil, hlast, hc, List.count_cons_self,
        List.reverse_nil, List.nil_append]
      omega
    · rename_i hc
      have hlast : (c :: acc).reverse ++ t = acc.reverse ++ c :: t := by simp
      rw [ih (by simp [hacc, Ne.symm hc]), hlast, List.count_cons_of_ne hc]

/-- **Lines counted one by one.** -/
theorem length_lines (source : Text) : (lines source).length = lineCount source :=
  length_linesFrom List.not_mem_nil source

end Source

end MigrationDbml
