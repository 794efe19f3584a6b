import MigrationDbml.Proofs.Literals

/-!
# The longest match

A lexer is told what it looks for by patterns (`Pattern`): the two kinds of literals, and the gaps
it skips. Where it stands it takes the longest start of the text that has the form of a pattern
(`Longest`), and goes on behind it. Where no start has such a form it reports an error (`Lexes`).

* `matches_next`, `length_le_next`: of all starts of a text, `next` is the longest match.
* `lexes_iff`: what a lexer reads is what `scan` reads, and it never reports an error.
-/

namespace MigrationDbml.Literal

open Text

/-- What a lexer looks for. -/
inductive Pattern where
  | literal (q : Quoting)
  | gap
deriving DecidableEq

/-- **The forms.** A quoted literal is a quote, characters other than quotes, and a quote again,
which may be missing. A bare one is a character that is neither blank nor a quote, and characters
that are not blank. A gap is one or more blanks. -/
def Pattern.Matches : Pattern → Text → Prop
  | .literal .quoted, m => ∃ inner, '"' ∉ inner ∧ (m = '"' :: inner ∨ m = '"' :: (inner ++ ['"']))
  | .literal .bare, m =>
    ∃ c r, m = c :: r ∧ isBlank c = false ∧ c ≠ '"' ∧ ∀ d ∈ r, isBlank d = false
  | .gap, m => m ≠ [] ∧ ∀ d ∈ m, isBlank d = true

/-- Whether `m` has the form of a pattern, and no start of `m ++ r` that has the form of any
pattern is longer. -/
def Longest (p : Pattern) (m r : Text) : Prop :=
  p.Matches m ∧ ∀ (q : Pattern) u v, m ++ r = u ++ v → q.Matches u → u.length ≤ m.length

/-- **What a lexer reads.** A part without a kind is an error: no start of the text has a form. -/
inductive Lexes : Text → List (Option Quoting × Text) → Prop where
  | nil : Lexes [] []
  | gap {m r ks} : Longest .gap m r → Lexes r ks → Lexes (m ++ r) ks
  | literal {q m r ks} : Longest (.literal q) m r → Lexes r ks → Lexes (m ++ r) ((some q, m) :: ks)
  | error {m r ks} : m ≠ [] → (∀ (q : Pattern) u v, m ++ r = u ++ v → ¬ q.Matches u) → Lexes r ks →
    Lexes (m ++ r) ((none, m) :: ks)

variable {c : Char} {m r t u v w : Text} {q : Pattern}

/-- The first character of a match tells its form. -/
theorem Pattern.Matches.exists_cons (h : q.Matches u) : ∃ c s, u = c :: s ∧
    q = if isBlank c then .gap else if c = '"' then .literal .quoted else .literal .bare := by
  cases q with
  | gap =>
    obtain ⟨hne, hu⟩ := h
    obtain ⟨c, s, rfl⟩ := List.exists_cons_of_ne_nil hne
    exact ⟨c, s, rfl, by rw [hu c List.mem_cons_self, if_pos rfl]⟩
  | literal k =>
    cases k with
    | quoted =>
      obtain ⟨inner, -, rfl | rfl⟩ := h
      · exact ⟨'"', inner, rfl, by decide⟩
      · exact ⟨'"', inner ++ ['"'], rfl, by decide⟩
    | bare =>
      obtain ⟨c, s, rfl, hb, hc, -⟩ := h
      exact ⟨c, s, rfl, by rw [hb, if_neg Bool.false_ne_true, if_neg hc]⟩

/-- A start has the form that its text's first character tells. -/
theorem Pattern.Matches.eq_of_append (h : q.Matches u) (hu : c :: r = u ++ v) :
    q = (if isBlank c then .gap else if c = '"' then .literal .quoted else .literal .bare) ∧
      ∃ s, u = c :: s ∧ r = s ++ v := by
  obtain ⟨d, s, rfl, hq⟩ := h.exists_cons
  rw [List.cons_append, List.cons.injEq] at hu
  obtain ⟨rfl, hr⟩ := hu
  exact ⟨hq, s, rfl, hr⟩

theorem matches_next (hc : isBlank c = false) (r : Text) :
    (Pattern.literal (next c r).1.quoting).Matches (next c r).1.text := by
  rcases next_cases c r with ⟨hq, hn⟩ | ⟨rfl, inner, rest, rfl, hi, hn⟩ | ⟨rfl, hi, hn⟩
  · rw [hn]
    exact ⟨c, word r, rfl, hc, hq, fun d hd => not_isBlank_of_mem_word hd⟩
  · rw [hn]
    exact ⟨inner, hi, .inr rfl⟩
  · rw [hn]
    exact ⟨r, hi, .inl rfl⟩

/-- **No start of a text that has a form is longer than its next literal.** -/
theorem length_le_next (hc : isBlank c = false) (hu : c :: r = u ++ v) (h : q.Matches u) :
    u.length ≤ (next c r).1.text.length := by
  obtain ⟨hq, s, rfl, hr⟩ := h.eq_of_append hu
  rw [hc, if_neg Bool.false_ne_true] at hq
  rcases next_cases c r with ⟨hne, hn⟩ | ⟨rfl, inner, rest, rfl, hi, hn⟩ | ⟨rfl, hi, hn⟩
  · -- a bare literal goes on to the first blank
    rw [if_neg hne] at hq
    subst hq
    obtain ⟨d, s', hs, -, -, hb⟩ := h
    cases hs
    have hrun : s.length ≤ (word r).length := by
      refine length_le_of_run (p := fun d => !isBlank d) (r := afterWord r) (fun d hd => ?_)
        (fun d hd => ?_) (hr.symm.trans (word_append_afterWord r).symm)
      · rw [hb d hd]; rfl
      · rw [isBlank_of_head?_afterWord hd]; rfl
    rw [hn, List.length_cons, List.length_cons]
    omega
  · -- a quoted literal goes on to the next quote
    rw [if_pos rfl] at hq
    subst hq
    obtain ⟨inner', hi', hs⟩ := h
    have hrun : ∀ x, inner ++ '"' :: rest = inner' ++ x → inner'.length ≤ inner.length := by
      intro x hx
      exact length_le_of_run (decide_ne_of_not_mem hi') (fun _ hd => decide_ne_of_head? hd) hx.symm
    rw [hn, ofClosed]
    rcases hs with hs | hs
    · cases hs
      have := hrun v hr
      simp only [List.length_cons, List.length_append, List.length_nil]
      omega
    · cases hs
      have := hrun (['"'] ++ v) (by rw [hr, List.append_assoc])
      simp only [List.length_cons, List.length_append, List.length_nil]
      omega
  · -- and to the end of the text if there is none
    rw [hn, ofUnclosed, hr]
    simp

theorem longest_next (hc : isBlank c = false) (r : Text) :
    Longest (.literal (next c r).1.quoting) (next c r).1.text (next c r).2 := by
  refine ⟨matches_next hc r, ?_⟩
  intro p u v hu h
  rw [next_append] at hu
  exact length_le_next hc hu h

/-- **The longest match of a literal** is the next literal. -/
theorem next_of_longest {k : Quoting} (hc : isBlank c = false) (hm : m ++ r = c :: t)
    (h : Longest (.literal k) m r) : next c t = (⟨k, m⟩, r) := by
  have happend : m ++ r = (next c t).1.text ++ (next c t).2 := by rw [hm, next_append]
  have hle : m.length ≤ (next c t).1.text.length := length_le_next hc hm.symm h.1
  have hge : (next c t).1.text.length ≤ m.length := h.2 _ _ _ happend (matches_next hc t)
  obtain ⟨htext, hrest⟩ := List.append_inj happend (Nat.le_antisymm hle hge)
  have hkind : Pattern.literal k = .literal (next c t).1.quoting := by
    obtain ⟨hk, -⟩ := h.1.eq_of_append hm.symm
    obtain ⟨hn, -⟩ := (matches_next hc t).eq_of_append (next_append c t).symm
    rw [hk, hn]
  cases hkind
  rw [htext, hrest]

/-- A gap in front of another character is the longest match. -/
theorem longest_gap (hne : w ≠ []) (hw : ∀ d ∈ w, isBlank d = true)
    (hr : ∀ d, r.head? = some d → isBlank d = false) : Longest .gap w r := by
  refine ⟨⟨hne, hw⟩, ?_⟩
  intro p u v hu h
  obtain ⟨c, s, rfl⟩ := List.exists_cons_of_ne_nil hne
  obtain ⟨hp, -⟩ := h.eq_of_append hu
  rw [hw c List.mem_cons_self, if_pos rfl] at hp
  subst hp
  exact length_le_of_run h.2 hr hu.symm

theorem scan_blank_append (hw : ∀ d ∈ w, isBlank d = true) (t : Text) : scan (w ++ t) = scan t := by
  have htrim := trimStart_append hw t
  cases hs : trimStart t with
  | nil =>
    rw [hs] at htrim
    rw [scan_of_trimStart_eq_nil hs, scan_of_trimStart_eq_nil htrim]
  | cons c r =>
    rw [hs] at htrim
    rw [scan_of_trimStart_eq_cons hs, scan_of_trimStart_eq_cons htrim]

/-- A literal as a lexer reports it. -/
def report (k : Literal) : Option Quoting × Text := (some k.quoting, k.text)

theorem Lexes.eq_map_scan {ks : List (Option Quoting × Text)} (h : Lexes t ks) :
    ks = (scan t).map report := by
  induction h with
  | nil => rw [scan_nil]; rfl
  | gap hm _ ih => rw [scan_blank_append hm.1.2, ih]
  | @literal k m r ks hm _ ih =>
    obtain ⟨c, s, rfl, hk⟩ := hm.1.exists_cons
    have hc : isBlank c = false := by
      by_contra hb
      rw [Bool.not_eq_false] at hb
      rw [if_pos hb] at hk
      cases hk
    have hn : next c (s ++ r) = (⟨k, c :: s⟩, r) := next_of_longest hc rfl hm
    have hscan := scan_next (w := []) (r := s ++ r) (by simp) hc
    rw [List.nil_append, hn] at hscan
    rw [List.cons_append, hscan, ih]
    rfl
  | @error m r ks hne hno _ _ =>
    -- a blank is a gap, and any other character starts a literal
    obtain ⟨c, s, rfl⟩ := List.exists_cons_of_ne_nil hne
    cases hc : isBlank c with
    | true => exact absurd ⟨List.cons_ne_nil c [], by simp [hc]⟩ (hno .gap [c] (s ++ r) rfl)
    | false => exact absurd (matches_next hc (s ++ r)) (hno _ _ _ (next_append c (s ++ r)).symm)

theorem Lexes.blank_append {ks : List (Option Quoting × Text)} (hw : ∀ d ∈ w, isBlank d = true)
    (hr : ∀ d, r.head? = some d → isBlank d = false) (h : Lexes r ks) : Lexes (w ++ r) ks := by
  by_cases hne : w = []
  · rw [hne]
    exact h
  · exact .gap (longest_gap hne hw hr) h

theorem lexes_scan (t : Text) : Lexes t ((scan t).map report) := by
  induction t using scan.induct with
  | case1 t h =>
    rw [scan_of_trimStart_eq_nil h, ← List.append_nil t]
    exact Lexes.blank_append (trimStart_eq_nil_iff.1 h) (by simp) .nil
  | case2 t c r h _ _ ih =>
    obtain ⟨w, hw, ht⟩ := exists_append_trimStart t
    have hc : isBlank c = false := not_isBlank_of_trimStart h
    have hrest : Lexes (next c r).2 ((scan (next c r).2).map report) := ih
    rw [scan_of_trimStart_eq_cons h, ht, h]
    refine Lexes.blank_append hw (by simp [hc]) ?_
    conv_lhs => rw [← next_append c r]
    exact .literal (longest_next hc r) hrest

/-- **What a lexer reads** by the longest match is what `scan` reads, and no part is an error. -/
theorem lexes_iff {ks : List (Option Quoting × Text)} : Lexes t ks ↔ ks = (scan t).map report := by
  constructor
  · exact Lexes.eq_map_scan
  · rintro rfl
    exact lexes_scan t

end MigrationDbml.Literal
