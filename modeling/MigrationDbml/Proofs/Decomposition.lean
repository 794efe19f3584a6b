import MigrationDbml.Proofs.LongestMatch

/-!
# A text is its literals and the gaps between them

The literals of a text, with the gaps in front of them, between them and behind them, make up the
text (`Decomposes`). A quoted literal stands between the first quote and the next one; without a
second one it goes on to the end of the text. A bare literal has no blanks, and a blank or the end
of the text behind it (`Fits`).

* `next_eq_iff`: what `next` takes is the literal that fits.
* `decomposes_cons`, `Decomposes.unique`: a text has one decomposition.
* `scan_decomposes`: `scan` gives the literals of that decomposition, which are those that a lexer
  reads by the longest match.
-/

namespace MigrationDbml.Literal

open Text

/-- Whether a literal can stand in front of the text `r`. -/
def Fits (k : Literal) (r : Text) : Prop :=
  match k.quoting with
  | .quoted => (∃ s, k.text = '"' :: s ∧ '"' ∉ s.dropLast) ∧
      (k.text.length = 1 ∨ k.text.getLast? ≠ some '"' → r = [])
  | .bare => k.text ≠ [] ∧ (∀ d ∈ k.text, isBlank d = false) ∧ k.text.head? ≠ some '"' ∧
      ∀ d, r.head? = some d → isBlank d = true

/-- The text of literals, each with the gap behind it. -/
def spaced (ps : List (Literal × Text)) : Text := ps.flatMap fun p => p.1.text ++ p.2

/-- **A decomposition of a text**: the gap in front, and literals, each with the gap behind it. -/
structure Decomposes (t indent : Text) (ps : List (Literal × Text)) : Prop where
  text_eq : t = indent ++ spaced ps
  indent_blank : ∀ d ∈ indent, isBlank d = true
  gap_blank : ∀ p ∈ ps, ∀ d ∈ p.2, isBlank d = true
  fits : ∀ before p after, ps = before ++ p :: after → p.1.Fits (p.2 ++ spaced after)

variable {c : Char} {k : Literal} {r t indent gap : Text} {ps : List (Literal × Text)}

theorem fits_next (hc : isBlank c = false) (r : Text) : (next c r).1.Fits (next c r).2 := by
  rcases next_cases c r with ⟨hq, hn⟩ | ⟨rfl, inner, rest, rfl, hi, hn⟩ | ⟨rfl, hi, hn⟩
  · rw [hn]
    have hword : ∀ d ∈ c :: word r, isBlank d = false := by
      intro d hd
      rcases List.mem_cons.1 hd with rfl | hd
      · exact hc
      · exact not_isBlank_of_mem_word hd
    exact ⟨List.cons_ne_nil c _, hword, fun e => hq (Option.some.inj e),
      fun d hd => isBlank_of_head?_afterWord hd⟩
  · rw [hn]
    refine ⟨⟨inner ++ ['"'], rfl, by rwa [List.dropLast_concat]⟩, ?_⟩
    rintro (hlength | hlast)
    · simp [ofClosed] at hlength
    · exact absurd (by rw [ofClosed, ← List.cons_append, List.getLast?_concat]) hlast
  · rw [hn]
    exact ⟨⟨r, rfl, fun hm => hi (List.dropLast_subset r hm)⟩, fun _ => rfl⟩

theorem not_mem_of_dropLast {s : Text} (hs : c ∉ s.dropLast) (hlast : s.getLast? ≠ some c) : c ∉ s := by
  intro hm
  rcases List.eq_nil_or_concat s with rfl | ⟨u, d, rfl⟩
  · cases hm
  · rw [List.concat_eq_append] at hs hlast hm
    rw [List.dropLast_concat] at hs
    rcases List.mem_append.1 hm with hm | hm
    · exact hs hm
    · exact hlast (by rw [List.getLast?_concat, List.mem_singleton.1 hm])

/-- A literal that fits is the next one of the text it makes up. -/
theorem Fits.next_eq (h : k.Fits r) :
    ∃ c s, k.text ++ r = c :: s ∧ isBlank c = false ∧ next c s = (k, r) := by
  obtain ⟨quoting, text⟩ := k
  cases quoting with
  | bare =>
    obtain ⟨hne, hblank, hquote, hr⟩ := h
    obtain ⟨c, s, rfl⟩ := List.exists_cons_of_ne_nil hne
    have hs : ∀ d ∈ s, isBlank d = false := fun d hd => hblank d (List.mem_cons_of_mem c hd)
    refine ⟨c, s ++ r, rfl, hblank c List.mem_cons_self, ?_⟩
    rw [next_bare fun e => hquote (congrArg some e), word_of_append hs hr, afterWord_of_append hs hr]
  | quoted =>
    obtain ⟨⟨s, rfl, hs⟩, hr⟩ := h
    refine ⟨'"', s ++ r, rfl, by decide, ?_⟩
    by_cases hlast : s.getLast? = some '"'
    · -- the quote at the end is the first one behind the opening quote
      obtain ⟨inner, rfl⟩ := List.getLast?_eq_some_iff.1 hlast
      rw [List.dropLast_concat] at hs
      rw [List.append_assoc, List.singleton_append, next_closed hs, ofClosed]
    · have hnot : '"' ∉ s := not_mem_of_dropLast hs hlast
      have hopen : ('"' :: s).length = 1 ∨ ('"' :: s).getLast? ≠ some '"' := by
        cases s with
        | nil => exact .inl rfl
        | cons d s => exact .inr (by rwa [List.getLast?_cons_cons])
      rw [hr hopen, List.append_nil, next_unclosed hnot, ofUnclosed]

/-- **What `next` takes is the literal that fits.** -/
theorem next_eq_iff (hc : isBlank c = false) :
    next c t = (k, r) ↔ k.text ++ r = c :: t ∧ k.Fits r := by
  constructor
  · intro h
    have htext := next_append c t
    have hfits := fits_next hc t
    rw [h] at htext hfits
    exact ⟨htext, hfits⟩
  · rintro ⟨htext, hfits⟩
    obtain ⟨d, s, hs, -, hn⟩ := hfits.next_eq
    rw [htext, List.cons.injEq] at hs
    obtain ⟨rfl, rfl⟩ := hs
    exact hn

theorem decomposes_nil (ht : ∀ d ∈ t, isBlank d = true) : Decomposes t t [] where
  text_eq := (List.append_nil t).symm
  indent_blank := ht
  gap_blank := fun _ hp => absurd hp List.not_mem_nil
  fits := fun before _ _ h => absurd h.symm (by simp)

/-- **One literal more**: behind the first literal a decomposition is one of the rest. -/
theorem decomposes_cons : Decomposes t indent ((k, gap) :: ps) ↔ (∀ d ∈ indent, isBlank d = true) ∧
    ∃ r, t = indent ++ (k.text ++ r) ∧ k.Fits r ∧ Decomposes r gap ps := by
  constructor
  · rintro ⟨htext, hindent, hgap, hfits⟩
    refine ⟨hindent, gap ++ spaced ps, by rw [htext]; simp [spaced], hfits [] (k, gap) ps rfl, ?_⟩
    refine ⟨rfl, hgap (k, gap) List.mem_cons_self, ?_, ?_⟩
    · exact fun p hp => hgap p (List.mem_cons_of_mem _ hp)
    · rintro before p after rfl
      exact hfits ((k, gap) :: before) p after rfl
  · rintro ⟨hindent, r, rfl, hk, hr⟩
    refine ⟨by rw [hr.text_eq]; simp [spaced], hindent, ?_, ?_⟩
    · intro p hp
      rcases List.mem_cons.1 hp with rfl | hp
      · exact hr.indent_blank
      · exact hr.gap_blank p hp
    · intro before p after h
      cases before with
      | nil =>
        rw [List.nil_append, List.cons.injEq] at h
        obtain ⟨rfl, rfl⟩ := h
        rw [← hr.text_eq]
        exact hk
      | cons q before =>
        rw [List.cons_append, List.cons.injEq] at h
        exact hr.fits before p after h.2

/-- **A text has one decomposition.** -/
theorem Decomposes.unique {indent' : Text} {ps' : List (Literal × Text)}
    (h : Decomposes t indent ps) (h' : Decomposes t indent' ps') : indent' = indent ∧ ps' = ps := by
  -- a literal starts with a character that is not blank, so the gaps in front end together
  have hstop : ∀ (k : Literal) (r : Text), k.Fits r →
      ∀ d, (k.text ++ r).head? = some d → isBlank d = false := by
    intro k r hk d hd
    obtain ⟨c, s, hs, hc, -⟩ := hk.next_eq
    rw [hs] at hd
    rw [← Option.some.inj hd]
    exact hc
  have hblank : ∀ (k : Literal) (r w : Text), k.Fits r → ¬ ∀ d ∈ w ++ (k.text ++ r), isBlank d = true := by
    intro k r w hk hall
    obtain ⟨c, s, hs, hc, -⟩ := hk.next_eq
    have hmem : c ∈ w ++ (k.text ++ r) := by rw [hs]; simp
    rw [hall c hmem] at hc
    cases hc
  induction ps generalizing t indent indent' ps' with
  | nil =>
    have ht : t = indent := h.text_eq.trans (List.append_nil indent)
    cases ps' with
    | nil => exact ⟨(h'.text_eq.trans (List.append_nil indent')).symm.trans ht, rfl⟩
    | cons p' ps' =>
      obtain ⟨-, r', htext, hk', -⟩ := decomposes_cons.1 h'
      exact absurd (by rw [← htext, ht]; exact h.indent_blank) (hblank p'.1 r' indent' hk')
  | cons p ps ih =>
    obtain ⟨hindent, r, rfl, hk, hr⟩ := decomposes_cons.1 h
    cases ps' with
    | nil =>
      have ht : indent ++ (p.1.text ++ r) = indent' := h'.text_eq.trans (List.append_nil indent')
      exact absurd (by rw [ht]; exact h'.indent_blank) (hblank p.1 r indent hk)
    | cons p' ps' =>
      obtain ⟨hindent', r', htext, hk', hr'⟩ := decomposes_cons.1 h'
      obtain ⟨rfl, htail⟩ := eq_of_runs hindent hindent' (hstop p.1 r hk) (hstop p'.1 r' hk') htext
      obtain ⟨c, s, hs, hc, hn⟩ := hk.next_eq
      have hn' : next c s = (p'.1, r') := (next_eq_iff hc).2 ⟨htail.symm.trans hs, hk'⟩
      obtain ⟨hliteral, rfl⟩ := Prod.mk.inj (hn.symm.trans hn')
      obtain ⟨hgap, rfl⟩ := ih hr hr'
      exact ⟨rfl, by rw [← Prod.eta p, ← Prod.eta p', hliteral, hgap]⟩

/-- The literals that `scan` gives, with the gaps around them. -/
theorem exists_decomposes (t : Text) :
    ∃ indent ps, ps.map Prod.fst = scan t ∧ Decomposes t indent ps := by
  induction t using scan.induct with
  | case1 t h =>
    exact ⟨t, [], by rw [scan_of_trimStart_eq_nil h]; rfl, decomposes_nil (trimStart_eq_nil_iff.1 h)⟩
  | case2 t c r h _ _ ih =>
    obtain ⟨w, hw, ht⟩ := exists_append_trimStart t
    obtain ⟨gap, ps, hps, hrest⟩ := ih
    have hc : isBlank c = false := not_isBlank_of_trimStart h
    refine ⟨w, ((next c r).1, gap) :: ps, ?_, decomposes_cons.2 ⟨hw, _, ?_, fits_next hc r, hrest⟩⟩
    · rw [scan_of_trimStart_eq_cons h, List.map_cons, hps]
    · rw [next_append, ← h]
      exact ht

/-- **A text is its literals and gaps, in one way.** A lexer that takes the longest match reads the
literals of that decomposition, in order and without an error. -/
theorem scan_decomposes (t : Text) :
    (∀ ks, Lexes t ks ↔ ks = (scan t).map report) ∧
      ∃ indent ps, ps.map Prod.fst = scan t ∧ Decomposes t indent ps ∧
        ∀ indent' ps', Decomposes t indent' ps' → indent' = indent ∧ ps' = ps := by
  refine ⟨fun ks => lexes_iff, ?_⟩
  obtain ⟨indent, ps, hps, h⟩ := exists_decomposes t
  exact ⟨indent, ps, hps, h, fun _ _ h' => h.unique h'⟩

end MigrationDbml.Literal
