import MigrationDbml.Line.Segment
import MigrationDbml.Proofs.Cuts

/-!
# The shapes of a segment

A later segment of a line has one of four shapes: it is blank, or it starts with a
name between blanks (`Label`), and behind that it ends, goes on with a colon, or is
broken off by another character (`Break`).

* `exists_shape`: every text has one of the shapes.
* `parse_shape`: what a text of each shape is read as, with the place of a break.
* `parse_eq_error_iff`: a segment is refused exactly when it is broken, and where.
-/

namespace MigrationDbml.Param

open Text

/-- Whether a text can be a parameter's name: its first character is not blank, and no
later one is blank or a colon. -/
def isName : Text → Bool
  | [] => false
  | c :: r => !isBlank c && r.all isNameChar

/-- A name with blanks before and after it. -/
structure Label where
  indent : Text
  name : Text
  gap : Text
  indent_blank : ∀ d ∈ indent, isBlank d = true
  isName_name : isName name = true
  gap_blank : ∀ d ∈ gap, isBlank d = true

/-- The label as it stands in a segment. -/
def Label.text (l : Label) : Text := l.indent ++ l.name ++ l.gap

/-- A malformed segment: a name and at least one blank, and then a character that is
neither a blank nor a colon. -/
structure Break extends Label where
  found : Char
  rest : Text
  gap_ne_nil : gap ≠ []
  isNameChar_found : isNameChar found = true

namespace Break

/-- The whole segment. -/
def segment (b : Break) : Text := b.text ++ b.found :: b.rest

/-- What is reported about the segment on the line with the given number. -/
def malformed (line : Nat) (b : Break) : Malformed :=
  ⟨line, b.name, b.found, ⟨byteLength b.text, byteLength b.text + b.found.utf8Size⟩⟩

end Break

/-- Whether a segment is malformed. -/
def IsBroken (t : Text) : Prop := ∃ b : Break, b.segment = t

/-- A segment in its parts. -/
inductive Shape where
  | blank (t : Text) (h : ∀ d ∈ t, isBlank d = true)
  | named (l : Label)
  | valued (l : Label) (rest : Text)
  | broken (b : Break)

namespace Shape

/-- The segment that the parts make up. -/
def text : Shape → Text
  | blank t _ => t
  | named l => l.text
  | valued l rest => l.text ++ ':' :: rest
  | broken b => b.segment

/-- What is read on the line with the given number. -/
def result (line : Nat) : Shape → Except Malformed Param
  | blank _ _ => .ok ⟨[], []⟩
  | named l => .ok ⟨l.name, []⟩
  | valued l rest => .ok ⟨l.name, valuesOf rest⟩
  | broken b => .error (b.malformed line)

end Shape

theorem isNameChar_of_isBlank {c : Char} (h : isBlank c = true) : isNameChar c = false := by
  simp [isNameChar, h]

theorem isNameChar_iff {c : Char} : isNameChar c = true ↔ isBlank c = false ∧ c ≠ ':' := by
  simp [isNameChar]

theorem exists_cons_of_isName {name : Text} (h : isName name = true) :
    ∃ c r, name = c :: r ∧ isBlank c = false ∧ ∀ d ∈ r, isNameChar d = true := by
  cases name with
  | nil => simp [isName] at h
  | cons c r =>
    unfold isName at h
    rw [Bool.and_eq_true, Bool.not_eq_true', List.all_eq_true] at h
    exact ⟨c, r, rfl, h.1, h.2⟩

/-- What is read where a label is followed by a text. -/
def Label.result (line : Nat) (l : Label) : Text → Except Malformed Param
  | [] => .ok ⟨l.name, []⟩
  | found :: rest =>
    if found = ':' then .ok ⟨l.name, valuesOf rest⟩
    else .error ⟨line, l.name, found, ⟨byteLength l.text, byteLength l.text + found.utf8Size⟩⟩

/-- What stands behind a label decides what is read, as long as it does not continue the label. -/
theorem parse_label (line : Nat) (l : Label) {r : Text}
    (hn : ∀ d, (l.gap ++ r).head? = some d → isNameChar d = false)
    (hb : ∀ d, r.head? = some d → isBlank d = false) :
    parse line (l.text ++ r) = l.result line r := by
  obtain ⟨c, y, hname, hc, hy⟩ := exists_cons_of_isName l.isName_name
  have htext : l.text ++ r = l.indent ++ (c :: (y ++ (l.gap ++ r))) := by
    simp [Label.text, hname]
  have hstart : trimStart (l.text ++ r) = c :: (y ++ (l.gap ++ r)) := by
    rw [htext, trimStart_append l.indent_blank]
    exact trimStart_eq_self (by simp [hc])
  have hgap : trimStart (l.gap ++ r) = r := by
    rw [trimStart_append l.gap_blank, trimStart_eq_self hb]
  unfold parse
  simp only [hstart, takeWhile_of_append hy hn, dropWhile_of_append hy hn, hgap, ← hname]
  cases r with
  | nil => rfl
  | cons found rest => simp only [Label.result, byteLength_append, Nat.add_sub_cancel]

/-- **What a segment of each shape is read as.** -/
theorem parse_shape (line : Nat) (s : Shape) : parse line s.text = s.result line := by
  cases s with
  | blank t h => simp only [parse, Shape.text, Shape.result, trimStart_eq_nil_iff.2 h]
  | named l =>
    have h := parse_label (r := []) line l
      (fun d hd => by
        rw [List.append_nil] at hd
        exact isNameChar_of_isBlank (l.gap_blank d (List.mem_of_head? hd)))
      (by simp)
    rw [List.append_nil] at h
    exact h
  | valued l rest =>
    have h := parse_label (r := ':' :: rest) line l
      (fun d hd => by
        -- without a gap it is the colon itself that ends the name
        cases hg : l.gap with
        | nil => rw [hg] at hd; cases hd; decide
        | cons e g =>
          rw [hg] at hd; cases hd
          exact isNameChar_of_isBlank (l.gap_blank d (by rw [hg]; exact List.mem_cons_self)))
      (fun d hd => by cases hd; decide)
    rw [Label.result, if_pos rfl] at h
    exact h
  | broken b =>
    obtain ⟨e, g, hg⟩ := List.exists_cons_of_ne_nil b.gap_ne_nil
    have he : isBlank e = true := b.gap_blank e (by rw [hg]; exact List.mem_cons_self)
    obtain ⟨hblank, hcolon⟩ := isNameChar_iff.1 b.isNameChar_found
    have h := parse_label (r := b.found :: b.rest) line b.toLabel
      (fun d hd => by rw [hg] at hd; cases hd; exact isNameChar_of_isBlank he)
      (fun d hd => by cases hd; exact hblank)
    rw [Label.result, if_neg hcolon] at h
    exact h

/-- **Every text has one of the shapes.** -/
theorem exists_shape (t : Text) : ∃ s : Shape, s.text = t := by
  obtain ⟨indent, hi, ht⟩ := exists_append_trimStart t
  cases hs : trimStart t with
  | nil => exact ⟨.blank t (trimStart_eq_nil_iff.1 hs), rfl⟩
  | cons c r =>
    have hname : isName (c :: r.takeWhile isNameChar) = true := by
      simp [isName, not_isBlank_of_trimStart hs]
    obtain ⟨gap, hg, hgap⟩ := exists_append_trimStart (r.dropWhile isNameChar)
    let l : Label := ⟨indent, c :: r.takeWhile isNameChar, gap, hi, hname, hg⟩
    have htext : l.text ++ trimStart (r.dropWhile isNameChar) = t := by
      rw [ht, hs, Label.text, List.append_assoc, ← hgap]
      simp [l]
    cases hrest : trimStart (r.dropWhile isNameChar) with
    | nil =>
      rw [hrest, List.append_nil] at htext
      exact ⟨.named l, htext⟩
    | cons found rest =>
      rw [hrest] at htext
      by_cases hf : found = ':'
      · subst hf
        exact ⟨.valued l rest, htext⟩
      · have hfound : isNameChar found = true :=
          isNameChar_iff.2 ⟨not_isBlank_of_trimStart hrest, hf⟩
        -- without a gap the character found would have continued the name
        have hne : gap ≠ [] := by
          intro e
          rw [e, List.nil_append, hrest] at hgap
          have := head?_dropWhile (d := found) (by rw [hgap]; rfl)
          rw [this] at hfound
          cases hfound
        exact ⟨.broken { l with found, rest, gap_ne_nil := hne, isNameChar_found := hfound }, htext⟩

/-- **A segment is refused exactly when it is broken**, with the name and the character of
the break, and at its place. -/
theorem parse_eq_error_iff {line : Nat} {t : Text} {m : Malformed} :
    parse line t = .error m ↔ ∃ b : Break, b.segment = t ∧ b.malformed line = m := by
  constructor
  · intro h
    obtain ⟨s, rfl⟩ := exists_shape t
    rw [parse_shape] at h
    cases s with
    | blank t ht => cases h
    | named l => cases h
    | valued l rest => cases h
    | broken b =>
      cases h
      exact ⟨b, rfl, rfl⟩
  · rintro ⟨b, rfl, rfl⟩
    exact parse_shape line (.broken b)

theorem isBroken_iff {t : Text} (line : Nat) : IsBroken t ↔ ∃ m, parse line t = .error m := by
  constructor
  · rintro ⟨b, rfl⟩
    exact ⟨b.malformed line, parse_eq_error_iff.2 ⟨b, rfl, rfl⟩⟩
  · rintro ⟨m, h⟩
    obtain ⟨b, hb, -⟩ := parse_eq_error_iff.1 h
    exact ⟨b, hb⟩

theorem not_isBroken_iff {t : Text} (line : Nat) : ¬ IsBroken t ↔ ∃ p, parse line t = .ok p := by
  rw [isBroken_iff line]
  cases parse line t with
  | error m => simp
  | ok p => simp

/-- The number of the line matters for what is reported only. -/
theorem parse_eq_mapError (line number : Nat) (t : Text) :
    parse line t = (parse number t).mapError fun m => { m with line } := by
  obtain ⟨s, rfl⟩ := exists_shape t
  rw [parse_shape, parse_shape]
  cases s <;> rfl

end MigrationDbml.Param
