import MigrationDbml.Proofs.Machine
import MigrationDbml.Proofs.Writing

/-!
# Reading a lead character by character

A second reader of first segments, again a machine that knows only what it is in the middle of
(`Lead.Phase`). It takes a word, then one literal, and lets go of everything behind it.
`ofText_eq_run` says that it reads what `Lead.ofText` reads, which cuts off the word and scans the
whole rest for literals.

* `finish_foldl_afterHead`: behind the word the machine reads the first literal, and no other.
-/

namespace MigrationDbml.Lead

open Text Literal

/-- What the reader of a first segment is in the middle of, with what it holds by then. -/
inductive Phase where
  | indent
  | inHead (head : Text)
  | afterHead (head : Text)
  | inBare (head name : Text)
  | inQuoted (head name : Text)
  | done (head name : Text)
deriving DecidableEq

namespace Phase

/-- Reads one character. A backslash inside quotes is dropped and protects nothing. -/
def step : Phase → Char → Phase
  | indent, c => if isBlank c then indent else inHead [c]
  | inHead h, c => if isBlank c then afterHead h else inHead (h ++ [c])
  | afterHead h, c =>
    if isBlank c then afterHead h
    else if c = '"' then inQuoted h []
    else inBare h [c]
  | inBare h n, c => if isBlank c then done h n else inBare h (n ++ [c])
  | inQuoted h n, c =>
    if c = '"' then done h n
    else if c = '\\' then inQuoted h n
    else inQuoted h (n ++ [c])
  | done h n, _ => done h n

/-- What is read when the segment ends: a head or a name under way counts as it is. -/
def finish : Phase → Lead
  | indent => ⟨[], []⟩
  | inHead h | afterHead h => ⟨h, []⟩
  | inBare h n | inQuoted h n | done h n => ⟨h, n⟩

/-- Reads a whole segment. -/
def run (t : Text) : Lead := (t.foldl step indent).finish

variable {h n w t : Text}

theorem foldl_indent (hw : ∀ c ∈ w, isBlank c = true) : w.foldl step indent = indent :=
  foldl_stay fun c hc => by rw [step, if_pos (hw c hc)]

theorem foldl_inHead (hw : ∀ c ∈ w, isBlank c = false) :
    w.foldl step (inHead h) = inHead (h ++ w) := by
  refine foldl_collect inHead ?_ h
  intro c hc u
  rw [step, hw c hc, if_neg Bool.false_ne_true]

theorem foldl_afterHead (hw : ∀ c ∈ w, isBlank c = true) :
    w.foldl step (afterHead h) = afterHead h :=
  foldl_stay fun c hc => by rw [step, if_pos (hw c hc)]

theorem foldl_inBare (hw : ∀ c ∈ w, isBlank c = false) :
    w.foldl step (inBare h n) = inBare h (n ++ w) := by
  refine foldl_collect (inBare h) ?_ n
  intro c hc u
  rw [step, hw c hc, if_neg Bool.false_ne_true]

theorem foldl_inQuoted (hw : '"' ∉ w) :
    w.foldl step (inQuoted h n) = inQuoted h (n ++ unescaped w) := by
  refine foldl_unescaped (inQuoted h) hw ?_ n
  intro c u hc
  rw [step, if_neg hc]

/-- **Whatever stands behind the name is let go.** -/
theorem foldl_done (h n w : Text) : w.foldl step (done h n) = done h n :=
  foldl_stay fun _ _ => rfl

/-- The value of the literal that a text starts with behind its blanks, if there is one. -/
def firstValue (t : Text) : Text := ((scan t).head?.map value).getD []

/-- A bare name ends at the first blank, or with the segment. -/
theorem finish_foldl_inBare (h n t : Text) :
    (t.foldl step (inBare h n)).finish = ⟨h, n ++ word t⟩ := by
  conv_lhs => rw [← word_append_afterWord t]
  rw [List.foldl_append, foldl_inBare fun d hd => not_isBlank_of_mem_word hd]
  cases hrest : afterWord t with
  | nil => rfl
  | cons d s =>
    have hd : isBlank d = true := isBlank_of_head?_afterWord (t := t) (by rw [hrest]; rfl)
    rw [List.foldl_cons, step, if_pos hd, foldl_done]
    rfl

/-- **Behind the head the machine reads the first literal**, and no other. -/
theorem finish_foldl_afterHead (h t : Text) :
    (t.foldl step (afterHead h)).finish = ⟨h, firstValue t⟩ := by
  unfold firstValue
  induction t using scan_induction with
  | blank w hw => rw [foldl_afterHead hw, scan_blank hw]; rfl
  | bare w c r hw hb hc _ =>
    rw [scan_next hw hb, next_bare hc, List.foldl_append, foldl_afterHead hw, List.foldl_cons, step,
      hb, if_neg Bool.false_ne_true, if_neg hc, finish_foldl_inBare]
    rfl
  | closed w inner rest hw hi _ =>
    rw [scan_next hw (by decide), next_closed hi, List.foldl_append, foldl_afterHead hw,
      List.foldl_cons, step, if_neg (by decide), if_pos rfl, List.foldl_append, foldl_inQuoted hi,
      List.foldl_cons, step, if_pos rfl, foldl_done, List.head?_cons, Option.map_some, value_ofClosed]
    rfl
  | unclosed w inner hw hi =>
    -- the end of the segment closes the name as it is
    rw [scan_next hw (by decide), next_unclosed hi, List.foldl_append, foldl_afterHead hw,
      List.foldl_cons, step, if_neg (by decide), if_pos rfl, foldl_inQuoted hi, List.head?_cons,
      Option.map_some, value_ofUnclosed hi]
    rfl

/-- Behind the characters of a head comes a blank, or the segment ends. -/
theorem finish_foldl_inHead (ht : ∀ d, t.head? = some d → isBlank d = true) :
    (t.foldl step (inHead h)).finish = ⟨h, firstValue t⟩ := by
  cases t with
  | nil => rw [firstValue, scan_nil]; rfl
  | cons d s =>
    have hd : isBlank d = true := ht d rfl
    -- that blank leaves the machine behind the head, where it changes nothing
    have hstep : step (inHead h) d = step (afterHead h) d := by rw [step, step, if_pos hd, if_pos hd]
    rw [List.foldl_cons, hstep, ← List.foldl_cons, finish_foldl_afterHead]

end Phase

/-- **Both readers read the same head and name.** -/
theorem ofText_eq_run (t : Text) : ofText t = Phase.run t := by
  obtain ⟨w, hw, ht⟩ := exists_append_trimStart t
  unfold Phase.run
  cases hs : trimStart t with
  | nil =>
    have hblank : ∀ c ∈ t, isBlank c = true := trimStart_eq_nil_iff.1 hs
    rw [Phase.foldl_indent hblank, ofText_blank hblank]
    rfl
  | cons c r =>
    have hc : isBlank c = false := not_isBlank_of_trimStart hs
    have hword : ∀ d ∈ word r, isBlank d = false := fun d hd => not_isBlank_of_mem_word hd
    have hrest : ∀ d, (afterWord r).head? = some d → isBlank d = true :=
      fun d hd => isBlank_of_head?_afterWord hd
    have hhead : ∀ d ∈ c :: word r, isBlank d = false := by
      intro d hd
      rcases List.mem_cons.1 hd with rfl | hd
      · exact hc
      · exact hword d hd
    have htext : t = w ++ (c :: word r ++ afterWord r) := by
      rw [List.cons_append, word_append_afterWord, ← hs]
      exact ht
    rw [htext, ofText_append hw (List.cons_ne_nil c _) hhead hrest, List.foldl_append,
      Phase.foldl_indent hw, List.cons_append, List.foldl_cons, Phase.step, hc,
      if_neg Bool.false_ne_true, List.foldl_append, Phase.foldl_inHead hword,
      Phase.finish_foldl_inHead hrest]
    rfl

end MigrationDbml.Lead
