import Mathlib.Data.List.DropRight
import MigrationDbml.Text.Slice
import MigrationDbml.Text.Utf8

/-!
# Cuts and runs

A source is cut at its line feeds and a line at its commas. The pieces before a
given one, each with the separator after it (`ended`), that piece, and the pieces
behind it, each with the separator before it (`led`), are the text that was cut.
So the byte length of the first part is where the piece starts.

* `eq_of_splitOn`, `splitOn_ended_led`, `splitOn_ended`: what is cut is what the pieces make up.
* `byteLength_ended_cons`, `byteLength_ended_splitOn`: the byte lengths of pieces with a separator of one byte.
* `not_mem_of_mem_splitOn`: no piece holds the separator.
* `count_ended`, `rtakeWhile_ended`: the separators in front of a piece are as many as
  the pieces there, and behind the last of them the piece starts.
* `takeWhile_of_append`, `dropWhile_of_append`: a run ends where it is said to end.
* `eq_of_runs`, `length_le_of_run`: so two runs of one text are the same, and no start of its kind is
  longer.
* `word_of_append`, `afterWord_of_append`: a word ends at the first blank.
* `length_encode`: byte lengths are the lengths of UTF-8 forms.
-/

namespace MigrationDbml.Text

/-- Pieces, each with the separator after it. -/
def ended (c : Char) (ps : List Text) : Text := ps.flatMap (· ++ [c])

/-- Pieces, each with the separator before it. -/
def led (c : Char) (ps : List Text) : Text := ps.flatMap (c :: ·)

variable {c : Char}

@[simp] theorem ended_nil : ended c [] = [] := rfl

@[simp] theorem ended_cons (p : Text) (ps : List Text) : ended c (p :: ps) = p ++ c :: ended c ps := by
  simp [ended]

@[simp] theorem ended_append (ps qs : List Text) : ended c (ps ++ qs) = ended c ps ++ ended c qs :=
  List.flatMap_append

@[simp] theorem led_nil : led c [] = [] := rfl

@[simp] theorem led_cons (p : Text) (ps : List Text) : led c (p :: ps) = c :: (p ++ led c ps) := rfl

/-- Pieces with a separator between them, from a given piece on and up to it. -/
theorem intercalate_eq_flatMap (sep : Text) (ps : List Text) (p : Text) (qs : List Text) :
    sep.intercalate (ps ++ p :: qs) = ps.flatMap (· ++ sep) ++ p ++ qs.flatMap (sep ++ ·) := by
  induction ps with
  | nil =>
    rw [List.nil_append]
    induction qs generalizing p with
    | nil => simp
    | cons q qs ih => rw [List.intercalate_cons_cons, ih]; simp
  | cons r rs ih => rw [List.cons_append, List.intercalate_cons_of_ne_nil (by simp), ih]; simp

theorem intercalate_cons (p : Text) (qs : List Text) : [c].intercalate (p :: qs) = p ++ led c qs :=
  intercalate_eq_flatMap [c] [] p qs

theorem intercalate_append_cons (ps : List Text) (p : Text) (qs : List Text) :
    [c].intercalate (ps ++ p :: qs) = ended c ps ++ p ++ led c qs :=
  intercalate_eq_flatMap [c] ps p qs

/-- **A text is what its pieces make up.** -/
theorem eq_of_splitOn {t p : Text} {ps qs : List Text} (h : t.splitOn c = ps ++ p :: qs) :
    t = ended c ps ++ p ++ led c qs := by
  rw [← intercalate_append_cons, ← h, List.intercalate_splitOn]

/-- No piece holds the separator. -/
theorem not_mem_of_mem_splitOn {t p : Text} (h : p ∈ t.splitOn c) : c ∉ p := by
  induction t generalizing p with
  | nil =>
    rw [List.splitOn_nil, List.mem_singleton] at h
    subst h; exact List.not_mem_nil
  | cons d t ih =>
    rw [List.splitOn_cons_eq_if_modifyHead] at h
    split at h
    · rcases List.mem_cons.1 h with rfl | h
      · exact List.not_mem_nil
      · exact ih h
    · rename_i hd
      -- a character that is no separator goes to the front of the first piece
      obtain ⟨q, qs, hq⟩ := List.exists_cons_of_ne_nil (List.splitOn_ne_nil c t)
      rw [hq, List.modifyHead_cons] at h
      rw [hq] at ih
      rcases List.mem_cons.1 h with rfl | h
      · have hdc : c ≠ d := fun e => hd (by simp [e])
        exact List.not_mem_cons_of_ne_of_not_mem hdc (ih List.mem_cons_self)
      · exact ih (List.mem_cons_of_mem q h)

theorem splitOn_ended_led {p : Text} {ps qs : List Text} (h : ∀ r ∈ ps ++ p :: qs, c ∉ r) :
    (ended c ps ++ p ++ led c qs).splitOn c = ps ++ p :: qs := by
  rw [← intercalate_append_cons, List.splitOn_intercalate c h (by simp)]

/-- Behind the last separator there is an empty piece. -/
theorem splitOn_ended {ps : List Text} (h : ∀ p ∈ ps, c ∉ p) : (ended c ps).splitOn c = ps ++ [[]] := by
  have hlast : ∀ p ∈ ps ++ [[]], c ∉ p := by
    intro p hp
    rcases List.mem_append.1 hp with hp | hp
    · exact h p hp
    · rw [List.mem_singleton.1 hp]
      exact List.not_mem_nil
  have hsplit := splitOn_ended_led hlast
  rw [led_nil, List.append_nil, List.append_nil] at hsplit
  exact hsplit

theorem count_ended {ps : List Text} (h : ∀ p ∈ ps, c ∉ p) : (ended c ps).count c = ps.length := by
  induction ps with
  | nil => rfl
  | cons p ps ih =>
    have hp := List.count_eq_zero_of_not_mem (h p List.mem_cons_self)
    have hps := ih fun q hq => h q (List.mem_cons_of_mem p hq)
    rw [ended_cons, List.count_append, List.count_cons_self, hp, hps, List.length_cons]
    omega

theorem decide_ne_of_not_mem {s : Text} (h : c ∉ s) : ∀ d ∈ s, decide (d ≠ c) = true :=
  fun _ hd => decide_eq_true fun e => h (e ▸ hd)

theorem decide_eq_of_not_mem {s : Text} (h : c ∉ s) : ∀ d ∈ s, decide (d = c) = false :=
  fun _ hd => decide_eq_false fun e => h (e ▸ hd)

/-- A run of other characters ends at the separator. -/
theorem decide_ne_of_head? {r : Text} {d : Char} (h : (c :: r).head? = some d) :
    decide (d ≠ c) = false := by
  rw [← Option.some.inj h]
  simp

theorem not_mem_append_cons {d : Char} {s r : Text} (hs : c ∉ s) (hd : c ≠ d) (hr : c ∉ r) :
    c ∉ s ++ d :: r := by
  rw [List.mem_append, List.mem_cons]
  rintro (h | h | h)
  · exact hs h
  · exact hd h
  · exact hr h

theorem ended_splitOn (t : Text) : ended c (t.splitOn c) = t ++ [c] := by
  obtain ⟨ps, p, hp⟩ := (t.splitOn c).eq_nil_or_concat.resolve_left (List.splitOn_ne_nil c t)
  rw [List.concat_eq_append] at hp
  rw [hp, ended_append, eq_of_splitOn hp]
  simp

theorem byteLength_ended_cons (hc : c.utf8Size = 1) (p : Text) (ps : List Text) :
    byteLength (ended c (p :: ps)) = byteLength p + 1 + byteLength (ended c ps) := by
  rw [ended_cons, byteLength_append, byteLength_cons, hc, Nat.add_assoc]

/-- The pieces, each with its separator, are as long as the text and one separator. -/
theorem byteLength_ended_splitOn (hc : c.utf8Size = 1) (t : Text) :
    byteLength (ended c (t.splitOn c)) = byteLength t + 1 := by
  rw [ended_splitOn, byteLength_append, byteLength_cons, hc, byteLength_nil]

/-- A separator for each piece but the last. -/
theorem length_splitOn (t : Text) : (t.splitOn c).length = t.count c + 1 := by
  have hnot : ∀ p ∈ t.splitOn c, c ∉ p := fun _ hp => not_mem_of_mem_splitOn hp
  rw [← count_ended hnot, ended_splitOn, List.count_append, List.count_singleton_self]

/-- What follows the last separator. -/
theorem rtakeWhile_ended (ps : List Text) {s : Text} (h : c ∉ s) :
    (ended c ps ++ s).rtakeWhile (· ≠ c) = s := by
  have hs := decide_ne_of_not_mem (s := s.reverse) (fun hm => h (List.mem_reverse.1 hm))
  unfold List.rtakeWhile
  rw [List.reverse_append, List.takeWhile_append_of_pos hs]
  -- the separator of the last piece, if there is one, stops the run
  rcases List.eq_nil_or_concat ps with rfl | ⟨qs, p, rfl⟩
  · simp
  · simp [ended]

/-- A list that holds something of a kind holds a first thing of that kind. -/
theorem exists_first {α : Type} {q : α → Prop} {xs : List α} {x : α} (hx : x ∈ xs) (h : q x) :
    ∃ before y after, xs = before ++ y :: after ∧ (∀ z ∈ before, ¬ q z) ∧ q y := by
  induction xs with
  | nil => cases hx
  | cons z zs ih =>
    by_cases hz : q z
    · exact ⟨[], z, zs, rfl, by simp, hz⟩
    · have hzs : x ∈ zs := by
        rcases List.mem_cons.1 hx with rfl | hx
        · exact absurd h hz
        · exact hx
      obtain ⟨before, y, after, rfl, hu, hy⟩ := ih hzs
      refine ⟨z :: before, y, after, rfl, ?_, hy⟩
      intro w hw
      rcases List.mem_cons.1 hw with rfl | hw
      · exact hz
      · exact hu w hw

theorem takeWhile_of_append {p : Char → Bool} {s r : Text} (hs : ∀ d ∈ s, p d = true)
    (hr : ∀ d, r.head? = some d → p d = false) : (s ++ r).takeWhile p = s := by
  rw [List.takeWhile_append_of_pos hs]
  cases r with
  | nil => simp
  | cons d r => rw [List.takeWhile_cons_of_neg (by simp [hr d rfl]), List.append_nil]

theorem dropWhile_of_append {p : Char → Bool} {s r : Text} (hs : ∀ d ∈ s, p d = true)
    (hr : ∀ d, r.head? = some d → p d = false) : (s ++ r).dropWhile p = r := by
  rw [List.dropWhile_append_of_pos hs]
  cases r with
  | nil => rfl
  | cons d r => rw [List.dropWhile_cons_of_neg (by simp [hr d rfl])]

/-- Where a run ends is seen from what it is made of and what stops it. -/
theorem eq_of_runs {p : Char → Bool} {s s' r r' : Text} (hs : ∀ d ∈ s, p d = true)
    (hs' : ∀ d ∈ s', p d = true) (hr : ∀ d, r.head? = some d → p d = false)
    (hr' : ∀ d, r'.head? = some d → p d = false) (h : s ++ r = s' ++ r') : s = s' ∧ r = r' := by
  have htake := congrArg (List.takeWhile p) h
  have hdrop := congrArg (List.dropWhile p) h
  rw [takeWhile_of_append hs hr, takeWhile_of_append hs' hr'] at htake
  rw [dropWhile_of_append hs hr, dropWhile_of_append hs' hr'] at hdrop
  exact ⟨htake, hdrop⟩

/-- The text before the first sign of a kind, and the text behind it. -/
theorem eq_of_append_cons {s s' r r' : Text} (hs : c ∉ s) (hs' : c ∉ s')
    (h : s ++ c :: r = s' ++ c :: r') : s = s' ∧ r = r' := by
  obtain ⟨hs, hr⟩ := eq_of_runs (decide_ne_of_not_mem hs) (decide_ne_of_not_mem hs')
    (fun _ hd => decide_ne_of_head? hd) (fun _ hd => decide_ne_of_head? hd) h
  exact ⟨hs, List.tail_eq_of_cons_eq hr⟩

/-- A start that is made of a run's characters is no longer than the run. -/
theorem length_le_of_run {p : Char → Bool} {s r u v : Text} (hu : ∀ d ∈ u, p d = true)
    (hr : ∀ d, r.head? = some d → p d = false) (h : u ++ v = s ++ r) : u.length ≤ s.length := by
  rcases List.append_eq_append_iff.1 h with ⟨a, rfl, -⟩ | ⟨a, rfl, rfl⟩
  · rw [List.length_append]
    omega
  · cases a with
    | nil => rw [List.append_nil]
    | cons d a =>
      have hp := hu d (by simp)
      rw [hr d rfl] at hp
      cases hp

/-- What stands behind a run does not continue it. -/
theorem head?_dropWhile {p : Char → Bool} {t : Text} {d : Char}
    (h : (t.dropWhile p).head? = some d) : p d = false := by
  have := List.head?_dropWhile_not p t
  rw [h] at this
  simpa using this

theorem not_isBlank_of_trimStart {t r : Text} {d : Char} (h : trimStart t = d :: r) :
    isBlank d = false :=
  head?_dropWhile (t := t) (by rw [← trimStart, h]; rfl)

theorem trimStart_eq_self {t : Text} (h : ∀ d, t.head? = some d → isBlank d = false) :
    trimStart t = t :=
  dropWhile_of_append (s := []) (by simp) h

theorem trimStart_eq_nil_iff {t : Text} : trimStart t = [] ↔ ∀ d ∈ t, isBlank d = true := by
  unfold trimStart
  rw [List.dropWhile_eq_nil_iff]

/-- What is said of the characters of a text is decided over the text, not over all characters. -/
instance decidableForallMem (p : Char → Prop) [DecidablePred p] (t : Text) :
    Decidable (∀ d ∈ t, p d) := List.decidableBAll p t

theorem not_isBlank_of_mem_word {t : Text} {d : Char} (h : d ∈ word t) : isBlank d = false := by
  simpa using List.mem_takeWhile_imp h

theorem isBlank_of_head?_afterWord {t : Text} {d : Char} (h : (afterWord t).head? = some d) :
    isBlank d = true := by
  simpa using head?_dropWhile h

theorem trimStart_subset (t : Text) : trimStart t ⊆ t := (List.dropWhile_suffix _).subset

theorem word_subset (t : Text) : word t ⊆ t := (List.takeWhile_prefix _).subset

theorem afterWord_subset (t : Text) : afterWord t ⊆ t := (List.dropWhile_suffix _).subset

section Word

variable {s r : Text} (hs : ∀ d ∈ s, isBlank d = false)
  (hr : ∀ d, r.head? = some d → isBlank d = true)

include hs hr

theorem word_of_append : word (s ++ r) = s :=
  takeWhile_of_append (fun d hd => by rw [hs d hd]; rfl) fun d hd => by rw [hr d hd]; rfl

theorem afterWord_of_append : afterWord (s ++ r) = r :=
  dropWhile_of_append (fun d hd => by rw [hs d hd]; rfl) fun d hd => by rw [hr d hd]; rfl

end Word

theorem length_encode (t : Text) : (Utf8.encode t).length = byteLength t := by
  induction t with
  | nil => rfl
  | cons d t ih =>
    rw [byteLength_cons, ← ih, Utf8.encode_cons, List.length_append, String.length_utf8EncodeChar]

end MigrationDbml.Text
