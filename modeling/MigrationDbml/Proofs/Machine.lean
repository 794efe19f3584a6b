import MigrationDbml.Proofs.Literals
import MigrationDbml.Proofs.Segments

/-!
# Reading a segment character by character

A second reader of later segments: a machine that takes one character after the other
and knows only what it is in the middle of (`Phase`). `parse_eq_run` says that it reads
what `Param.parse` reads, which cuts a segment into runs and scans literals.

* `foldl_stay`, `foldl_collect`, `foldl_unescaped`: what a machine holds behind a run of characters.
* `run_spec`: what the machine reads of a segment of each shape.
* `finish_foldl_between`: what it reads behind a colon are the values written there.
-/

namespace MigrationDbml

namespace Text

variable {σ : Type} {step : σ → Char → σ} {w : Text}

/-- Characters that leave a machine where it is can be skipped. -/
theorem foldl_stay {s : σ} (h : ∀ c ∈ w, step s c = s) : w.foldl step s = s := by
  induction w with
  | nil => rfl
  | cons c w ih =>
    rw [List.foldl_cons, h c List.mem_cons_self]
    exact ih fun d hd => h d (List.mem_cons_of_mem c hd)

/-- Of the characters it goes through, a machine holds those of a kind, in order. -/
theorem foldl_collect_filter (p : Char → Bool) (g : Text → σ)
    (h : ∀ c ∈ w, ∀ u, step (g u) c = if p c then g (u ++ [c]) else g u) :
    ∀ u, w.foldl step (g u) = g (u ++ w.filter p) := by
  induction w with
  | nil => intro u; rw [List.filter_nil, List.append_nil]; rfl
  | cons c w ih =>
    intro u
    have hrest := ih fun d hd => h d (List.mem_cons_of_mem c hd)
    rw [List.foldl_cons, h c List.mem_cons_self]
    split
    · rename_i hc
      rw [hrest, List.filter_cons_of_pos hc, List.append_assoc, List.singleton_append]
    · rename_i hc
      rw [hrest, List.filter_cons_of_neg hc]

/-- Characters that a machine appends to what it holds are appended in order. -/
theorem foldl_collect (g : Text → σ) (h : ∀ c ∈ w, ∀ u, step (g u) c = g (u ++ [c])) (u : Text) :
    w.foldl step (g u) = g (u ++ w) := by
  rw [foldl_collect_filter (fun _ => true) g h, List.filter_true]

/-- Inside of quotes a machine holds what it goes through without its backslashes. -/
theorem foldl_unescaped (g : Text → σ) (hq : '"' ∉ w)
    (h : ∀ c u, c ≠ '"' → step (g u) c = if c = '\\' then g u else g (u ++ [c])) (u : Text) :
    w.foldl step (g u) = g (u ++ Literal.unescaped w) := by
  refine foldl_collect_filter _ g ?_ u
  intro c hc u
  have hne : c ≠ '"' := fun e => hq (e ▸ hc)
  by_cases hs : c = '\\'
  · rw [h c u hne, if_pos hs, if_neg (by simp [hs])]
  · rw [h c u hne, if_neg hs, if_pos (by simp [hs])]

end Text

namespace Param

open Text Literal

/-- What the reader of a segment is in the middle of, with what it holds by then. -/
inductive Phase where
  | indent
  | inName (name : Text)
  | awaitingColon (name : Text)
  | between (name : Text) (values : List Text)
  | inBare (name : Text) (values : List Text) (value : Text)
  | inQuoted (name : Text) (values : List Text) (value : Text)
  | refused (name : Text) (found : Char)
deriving DecidableEq

namespace Phase

/-- Reads one character. A backslash inside quotes is dropped and protects nothing. -/
def step : Phase → Char → Phase
  | indent, c => if isBlank c then indent else inName [c]
  | inName n, c =>
    if isBlank c then awaitingColon n
    else if c = ':' then between n []
    else inName (n ++ [c])
  | awaitingColon n, c =>
    if isBlank c then awaitingColon n
    else if c = ':' then between n []
    else refused n c
  | between n vs, c =>
    if isBlank c then between n vs
    else if c = '"' then inQuoted n vs []
    else inBare n vs [c]
  | inBare n vs v, c => if isBlank c then between n (vs ++ [v]) else inBare n vs (v ++ [c])
  | inQuoted n vs v, c =>
    if c = '"' then between n (vs ++ [v])
    else if c = '\\' then inQuoted n vs v
    else inQuoted n vs (v ++ [c])
  | refused n c, _ => refused n c

/-- What is read when the segment ends: a value under way counts if it holds something. A
refusal has the name and the character that was found instead of a colon. -/
def finish : Phase → Except (Text × Char) Param
  | indent => .ok ⟨[], []⟩
  | inName n | awaitingColon n => .ok ⟨n, []⟩
  | between n vs => .ok ⟨n, vs⟩
  | inBare n vs v | inQuoted n vs v => .ok ⟨n, if v = [] then vs else vs ++ [v]⟩
  | refused n c => .error (n, c)

/-- Reads a whole segment. -/
def run (t : Text) : Except (Text × Char) Param := (t.foldl step indent).finish

variable {n v w t : Text} {vs : List Text}

theorem foldl_indent (h : ∀ c ∈ w, isBlank c = true) : w.foldl step indent = indent :=
  foldl_stay fun c hc => by rw [step, if_pos (h c hc)]

theorem foldl_awaitingColon (h : ∀ c ∈ w, isBlank c = true) :
    w.foldl step (awaitingColon n) = awaitingColon n :=
  foldl_stay fun c hc => by rw [step, if_pos (h c hc)]

theorem foldl_between (h : ∀ c ∈ w, isBlank c = true) :
    w.foldl step (between n vs) = between n vs :=
  foldl_stay fun c hc => by rw [step, if_pos (h c hc)]

theorem foldl_inName (h : ∀ c ∈ w, isNameChar c = true) :
    w.foldl step (inName n) = inName (n ++ w) := by
  refine foldl_collect inName ?_ n
  intro c hc u
  obtain ⟨hb, hcolon⟩ := isNameChar_iff.1 (h c hc)
  rw [step, hb, if_neg Bool.false_ne_true, if_neg hcolon]

theorem foldl_inBare (h : ∀ c ∈ w, isBlank c = false) :
    w.foldl step (inBare n vs v) = inBare n vs (v ++ w) := by
  refine foldl_collect (inBare n vs) ?_ v
  intro c hc u
  rw [step, h c hc, if_neg Bool.false_ne_true]

theorem foldl_inQuoted (h : '"' ∉ w) :
    w.foldl step (inQuoted n vs v) = inQuoted n vs (v ++ unescaped w) := by
  refine foldl_unescaped (inQuoted n vs) h ?_ v
  intro c u hc
  rw [step, if_neg hc]

/-- **Behind a colon the machine reads the values written there**, after those it holds. -/
theorem finish_foldl_between (n t : Text) (vs : List Text) :
    (t.foldl step (between n vs)).finish = .ok ⟨n, vs ++ valuesOf t⟩ := by
  induction t using scan_induction generalizing vs with
  | blank w hw => rw [foldl_between hw, valuesOf_blank hw, List.append_nil]; rfl
  | bare w c r hw hb hc ih =>
    rw [valuesOf_bare hw hb hc, List.foldl_append, foldl_between hw, List.foldl_cons, step, hb,
      if_neg Bool.false_ne_true, if_neg hc]
    have hr : r.foldl step (inBare n vs [c]) =
        (afterWord r).foldl step (inBare n vs (c :: word r)) := by
      conv_lhs => rw [← word_append_afterWord r]
      rw [List.foldl_append, foldl_inBare fun d hd => not_isBlank_of_mem_word hd]; rfl
    rw [hr]
    -- a bare value is pushed by the blank behind it, or by the end of the segment
    cases hrest : afterWord r with
    | nil => rw [valuesOf_nil]; rfl
    | cons d s =>
      have hd : isBlank d = true := isBlank_of_head?_afterWord (t := r) (by rw [hrest]; rfl)
      -- and that blank changes nothing for what follows
      have hstep : ∀ us, (d :: s).foldl step (between n us) = s.foldl step (between n us) := by
        intro us
        rw [List.foldl_cons, step, if_pos hd]
      rw [hrest] at ih
      rw [List.foldl_cons, step, if_pos hd, ← hstep, ih, List.append_assoc, List.singleton_append]
  | closed w inner rest hw hi ih =>
    -- the closing quote pushes the value, also an empty one, and what follows is looked at afresh
    rw [valuesOf_closed hw hi, List.foldl_append, foldl_between hw, List.foldl_cons, step,
      if_neg (by decide), if_pos rfl, List.foldl_append, foldl_inQuoted hi, List.foldl_cons, step,
      if_pos rfl, ih, List.nil_append, List.append_assoc, List.singleton_append]
  | unclosed w inner hw hi =>
    rw [valuesOf_unclosed hw hi, List.foldl_append, foldl_between hw, List.foldl_cons, step,
      if_neg (by decide), if_pos rfl, foldl_inQuoted hi, List.nil_append, finish]
    split
    · rw [List.append_nil]
    · rfl

theorem foldl_refused (n : Text) (c : Char) (w : Text) : w.foldl step (refused n c) = refused n c :=
  foldl_stay fun _ _ => rfl

/-- Behind a name and blanks the machine waits for the colon, or still is in the name. -/
theorem foldl_label (l : Label) : l.text.foldl step indent =
    if l.gap = [] then inName l.name else awaitingColon l.name := by
  obtain ⟨c, r, hname, hc, hr⟩ := exists_cons_of_isName l.isName_name
  have hstart : (l.indent ++ l.name).foldl step indent = inName l.name := by
    rw [List.foldl_append, foldl_indent l.indent_blank, hname, List.foldl_cons, step, hc,
      if_neg Bool.false_ne_true, foldl_inName hr]
    rfl
  rw [Label.text, List.foldl_append, hstart]
  cases hg : l.gap with
  | nil => rfl
  | cons d g =>
    have hb : ∀ e ∈ d :: g, isBlank e = true := by
      intro e he
      exact l.gap_blank e (by rw [hg]; exact he)
    rw [List.foldl_cons, step, if_pos (hb d List.mem_cons_self),
      foldl_awaitingColon fun e he => hb e (List.mem_cons_of_mem d he), if_neg (List.cons_ne_nil d g)]

/-- **What the machine reads of a segment of each shape.** -/
theorem run_spec (s : Shape) (line : Nat) :
    run s.text = (s.result line).mapError fun m => (m.name, m.found) := by
  cases s with
  | blank t h => rw [run, Shape.text, foldl_indent h]; rfl
  | named l =>
    rw [run, Shape.text, foldl_label]
    split <;> rfl
  | valued l rest =>
    have hcolon : step (if l.gap = [] then inName l.name else awaitingColon l.name) ':' =
        between l.name [] := by split <;> rfl
    rw [run, Shape.text, List.foldl_append, foldl_label, List.foldl_cons, hcolon,
      finish_foldl_between]
    rfl
  | broken b =>
    obtain ⟨hb, hc⟩ := isNameChar_iff.1 b.isNameChar_found
    rw [run, Shape.text, Break.segment, List.foldl_append, foldl_label, if_neg b.gap_ne_nil,
      List.foldl_cons, step, hb, if_neg Bool.false_ne_true, if_neg hc, foldl_refused]
    rfl

end Phase

/-- **Both readers read the same**: the same name and values, or a refusal with the same name
and character, on the line that was given. -/
theorem parse_eq_run (line : Nat) (t : Text) :
    (parse line t).mapError (fun m => (m.line, m.name, m.found)) =
      (Phase.run t).mapError fun r => (line, r.1, r.2) := by
  obtain ⟨s, rfl⟩ := exists_shape t
  rw [Phase.run_spec s line, parse_shape]
  cases s <;> rfl

end Param

end MigrationDbml
