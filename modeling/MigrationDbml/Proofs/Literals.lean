import MigrationDbml.Line.Segment
import MigrationDbml.Proofs.Cuts

/-!
# Reading literals

Behind its blanks a text is empty, or it starts with a bare literal, with a quoted
literal that has its end, or with one that has none. `scan_induction` is induction
along these cases, and the lemmas before it say what is read in each.

* `next_cases`: the three literals a text can start with.
* `valuesOf_blank`, `valuesOf_bare`, `valuesOf_closed`, `valuesOf_unclosed`: the values of a
  text, one literal after the other.
-/

namespace MigrationDbml

namespace Literal

open Text

/-- A quoted literal with its end. -/
def ofClosed (inner : Text) : Literal := ⟨.quoted, '"' :: (inner ++ ['"'])⟩

/-- A quoted literal that runs to the end of the text. -/
def ofUnclosed (inner : Text) : Literal := ⟨.quoted, '"' :: inner⟩

/-- What is left of the inside of quotes. -/
def unescaped (inner : Text) : Text := inner.filter (· ≠ '\\')

variable {c : Char} {inner rest r t w : Text}

theorem unescaped_subset (inner : Text) : unescaped inner ⊆ inner := List.filter_subset_self inner

theorem unescaped_eq_self (h : '\\' ∉ t) : unescaped t = t :=
  List.filter_eq_self.2 (decide_ne_of_not_mem h)

@[simp] theorem value_ofClosed : (ofClosed inner).value = unescaped inner := by
  simp [ofClosed, value, dropOpening, dropClosing, unescaped]

theorem getLast?_ne (h : '"' ∉ inner) : inner.getLast? ≠ some '"' :=
  fun e => h (List.mem_of_getLast? e)

@[simp] theorem value_ofUnclosed (h : '"' ∉ inner) : (ofUnclosed inner).value = unescaped inner := by
  simp [ofUnclosed, value, dropOpening, dropClosing, unescaped, getLast?_ne h]

@[simp] theorem closed_ofClosed : (ofClosed inner).closed = true := by
  have h := Char.utf8Size_pos '"'
  simp only [ofClosed, closed, byteLength_cons, byteLength_append, byteLength_nil,
    Bool.and_eq_true, decide_eq_true_eq]
  refine ⟨by omega, ?_⟩
  rw [← List.cons_append, List.getLast?_concat]

@[simp] theorem closed_ofUnclosed (h : '"' ∉ inner) : (ofUnclosed inner).closed = false := by
  cases inner with
  | nil => rfl
  | cons d s =>
    simp only [ofUnclosed, closed, Bool.and_eq_false_iff, decide_eq_false_iff_not]
    right
    rw [List.getLast?_cons_cons]
    exact getLast?_ne h

theorem next_bare (h : c ≠ '"') : next c r = (⟨.bare, c :: word r⟩, afterWord r) := by
  rw [next, if_neg h]

theorem next_closed (h : '"' ∉ inner) : next '"' (inner ++ '"' :: rest) = (ofClosed inner, rest) := by
  have hi := decide_ne_of_not_mem h
  have hr : ∀ d, ('"' :: rest).head? = some d → decide (d ≠ '"') = false := by
    intro d hd
    cases hd; decide
  rw [next, if_pos rfl]
  simp only [takeWhile_of_append hi hr, dropWhile_of_append hi hr]
  rfl

theorem next_unclosed (h : '"' ∉ inner) : next '"' inner = (ofUnclosed inner, []) := by
  have hi := decide_ne_of_not_mem h
  have ht := takeWhile_of_append (r := []) hi (by simp)
  have hd := dropWhile_of_append (r := []) hi (by simp)
  rw [List.append_nil] at ht hd
  rw [next, if_pos rfl]
  simp only [ht, hd]
  rfl

/-- **The literals a text can start with.** -/
theorem next_cases (c : Char) (r : Text) :
    (c ≠ '"' ∧ next c r = (⟨.bare, c :: word r⟩, afterWord r)) ∨
      (c = '"' ∧ ∃ inner rest, r = inner ++ '"' :: rest ∧ '"' ∉ inner ∧
        next c r = (ofClosed inner, rest)) ∨
      (c = '"' ∧ '"' ∉ r ∧ next c r = (ofUnclosed r, [])) := by
  by_cases hc : c = '"'
  · subst hc
    by_cases hr : '"' ∈ r
    · obtain ⟨inner, rest, rfl, hi⟩ := List.eq_append_cons_of_mem hr
      exact .inr (.inl ⟨rfl, inner, rest, rfl, hi, next_closed hi⟩)
    · exact .inr (.inr ⟨rfl, hr, next_unclosed hr⟩)
  · exact .inl ⟨hc, next_bare hc⟩

theorem trimStart_blank_append (hw : ∀ d ∈ w, isBlank d = true) (hc : isBlank c = false) :
    trimStart (w ++ c :: r) = c :: r := by
  rw [trimStart_append hw]
  exact trimStart_eq_self (by simp [hc])

theorem scan_blank (hw : ∀ d ∈ w, isBlank d = true) : scan w = [] :=
  scan_of_trimStart_eq_nil (trimStart_eq_nil_iff.2 hw)

theorem scan_nil : scan [] = [] := scan_blank fun _ hd => absurd hd List.not_mem_nil

theorem scan_next (hw : ∀ d ∈ w, isBlank d = true) (hc : isBlank c = false) :
    scan (w ++ c :: r) = (next c r).1 :: scan (next c r).2 :=
  scan_of_trimStart_eq_cons (trimStart_blank_append hw hc)

/-- **Induction along the literals of a text.** -/
theorem scan_induction {P : Text → Prop} (blank : ∀ w, (∀ d ∈ w, isBlank d = true) → P w)
    (bare : ∀ w c r, (∀ d ∈ w, isBlank d = true) → isBlank c = false → c ≠ '"' →
      P (afterWord r) → P (w ++ c :: r))
    (closed : ∀ w inner rest, (∀ d ∈ w, isBlank d = true) → '"' ∉ inner → P rest →
      P (w ++ '"' :: (inner ++ '"' :: rest)))
    (unclosed : ∀ w inner, (∀ d ∈ w, isBlank d = true) → '"' ∉ inner → P (w ++ '"' :: inner))
    (t : Text) : P t := by
  induction t using scan.induct with
  | case1 t h => exact blank t (trimStart_eq_nil_iff.1 h)
  | case2 t c r h _ _ ih =>
    obtain ⟨w, hw, ht⟩ := exists_append_trimStart t
    rw [h] at ht
    subst ht
    have hrest : P (next c r).2 := ih
    -- the recursion goes on behind the literal that the text starts with
    rcases next_cases c r with ⟨hc, hn⟩ | ⟨rfl, inner, rest, rfl, hi, hn⟩ | ⟨rfl, hi, hn⟩
    · exact bare w c r hw (not_isBlank_of_trimStart h) hc (by rw [hn] at hrest; exact hrest)
    · exact closed w inner rest hw hi (by rw [hn] at hrest; exact hrest)
    · exact unclosed w r hw hi

end Literal

namespace Param

open Text Literal

variable {c : Char} {inner rest r w : Text}

theorem valuesOf_blank (hw : ∀ d ∈ w, isBlank d = true) : valuesOf w = [] := by
  rw [valuesOf, scan_blank hw]; rfl

theorem valuesOf_nil : valuesOf [] = [] := valuesOf_blank fun _ hd => absurd hd List.not_mem_nil

theorem valuesOf_bare (hw : ∀ d ∈ w, isBlank d = true) (hb : isBlank c = false) (hc : c ≠ '"') :
    valuesOf (w ++ c :: r) = (c :: word r) :: valuesOf (afterWord r) := by
  rw [valuesOf, scan_next hw hb, next_bare hc]
  rfl

theorem valuesOf_closed (hw : ∀ d ∈ w, isBlank d = true) (hi : '"' ∉ inner) :
    valuesOf (w ++ '"' :: (inner ++ '"' :: rest)) = unescaped inner :: valuesOf rest := by
  have hcounts : counts (ofClosed inner) = true := by simp [counts]
  rw [valuesOf, scan_next hw (by decide), next_closed hi, List.filter_cons_of_pos hcounts,
    List.map_cons, value_ofClosed]
  rfl

/-- A quoted literal without its end counts unless there is nothing in it. -/
theorem valuesOf_unclosed (hw : ∀ d ∈ w, isBlank d = true) (hi : '"' ∉ inner) :
    valuesOf (w ++ '"' :: inner) =
      if unescaped inner = [] then [] else [unescaped inner] := by
  have hcounts : counts (ofUnclosed inner) = !(unescaped inner).isEmpty := by
    simp [counts, closed_ofUnclosed hi, value_ofUnclosed hi]
  rw [valuesOf, scan_next hw (by decide), next_unclosed hi, scan_nil]
  split
  · rename_i h
    rw [List.filter_cons_of_neg (by simp [hcounts, h])]; rfl
  · rename_i h
    rw [List.filter_cons_of_pos (by simp [hcounts, h]), List.map_cons, value_ofUnclosed hi]; rfl

end Param

end MigrationDbml
