import MigrationDbml.Line.Basic
import MigrationDbml.Proofs.Literals
import MigrationDbml.Proofs.Segments

/-!
# Writing segments

The text from which a lead or a parameter is read back. A value can be written bare,
when it is a word that does not start with a quote, or in quotes, when it holds neither
quotes nor backslashes (`CanWrite`). A writer prefers one of the two ways and takes the
other where the value asks for it.

* `scan_written`: a written value is read back, whatever follows behind a blank.
* `canWrite_of_mem_scan`: every value that is read can be written.
* `parse_write`, `ofText_write`: a written parameter or lead is read back.
* `wellFormed_of_parse`, `wellFormed_ofText`: what is read is well formed.
-/

namespace MigrationDbml

/-- The other way to write a value. -/
def Quoting.other : Quoting → Quoting
  | .quoted => .bare
  | .bare => .quoted

namespace Literal

open Text

/-- Whether a value can be written in one of the two ways. -/
def CanWrite : Quoting → Text → Prop
  | .bare, v => v ≠ [] ∧ (∀ c ∈ v, isBlank c = false) ∧ v.head? ≠ some '"'
  | .quoted, v => '"' ∉ v ∧ '\\' ∉ v

instance decidableCanWrite : ∀ q v, Decidable (CanWrite q v)
  | .bare, v => inferInstanceAs (Decidable (v ≠ [] ∧ (∀ c ∈ v, isBlank c = false) ∧ v.head? ≠ some '"'))
  | .quoted, v => inferInstanceAs (Decidable ('"' ∉ v ∧ '\\' ∉ v))

/-- Whether a text can stand as a value on a line: it holds no comma and can be written. -/
def IsValue (v : Text) : Prop := ',' ∉ v ∧ (CanWrite .bare v ∨ CanWrite .quoted v)

instance decidableIsValue (v : Text) : Decidable (IsValue v) :=
  inferInstanceAs (Decidable (',' ∉ v ∧ (CanWrite .bare v ∨ CanWrite .quoted v)))

/-- A value as it is written. -/
def written : Quoting → Text → Text
  | .bare, v => v
  | .quoted, v => '"' :: (v ++ ['"'])

/-- A value written in the preferred way, or else in the other one. -/
def write (preferred : Quoting) (v : Text) : Text :=
  if CanWrite preferred v then written preferred v else written preferred.other v

variable {q : Quoting} {v r t : Text}

theorem exists_write_eq (q : Quoting) (h : IsValue v) : ∃ p, CanWrite p v ∧ write q v = written p v := by
  unfold write
  split
  · rename_i hq
    exact ⟨q, hq, rfl⟩
  · rename_i hq
    refine ⟨q.other, ?_, rfl⟩
    cases q with
    | bare => exact h.2.resolve_left hq
    | quoted => exact h.2.resolve_right hq

/-- **A written value is read back**, and it counts. -/
theorem scan_written (h : CanWrite q v) (hr : ∀ d, r.head? = some d → isBlank d = true) :
    ∃ l, l.value = v ∧ Param.counts l = true ∧ scan (' ' :: (written q v ++ r)) = l :: scan r := by
  have hw : ∀ d ∈ [' '], isBlank d = true := by decide
  cases q with
  | bare =>
    obtain ⟨hne, hb, hq⟩ := h
    obtain ⟨c, s, rfl⟩ := List.exists_cons_of_ne_nil hne
    have hc : c ≠ '"' := fun e => hq (by rw [e]; rfl)
    have hs : ∀ d ∈ s, isBlank d = false := fun d hd => hb d (List.mem_cons_of_mem c hd)
    have hscan := scan_next (r := s ++ r) hw (hb c List.mem_cons_self)
    rw [next_bare hc, word_of_append hs hr, afterWord_of_append hs hr] at hscan
    exact ⟨⟨.bare, c :: s⟩, rfl, rfl, hscan⟩
  | quoted =>
    obtain ⟨hq, hs⟩ := h
    have hscan := scan_next (c := '"') (r := v ++ '"' :: r) hw (by decide)
    rw [next_closed hq] at hscan
    refine ⟨ofClosed v, by rw [value_ofClosed, unescaped_eq_self hs], by simp [Param.counts], ?_⟩
    simpa [written] using hscan

theorem canWrite_bare {c : Char} (hb : isBlank c = false) (hc : c ≠ '"') (r : Text) :
    CanWrite .bare (c :: word r) := by
  refine ⟨List.cons_ne_nil c _, ?_, fun e => hc (Option.some.inj e)⟩
  intro d hd
  rcases List.mem_cons.1 hd with rfl | hd
  · exact hb
  · exact not_isBlank_of_mem_word hd

/-- A value in quotes has lost its backslashes, and it never had a quote. -/
theorem canWrite_unescaped {inner : Text} (h : '"' ∉ inner) : CanWrite .quoted (unescaped inner) := by
  refine ⟨fun hq => h (unescaped_subset inner hq), fun hs => ?_⟩
  simpa using List.of_mem_filter hs

/-- **Every value that is read can be written**, and it is taken from the text. -/
theorem canWrite_of_mem_scan (t : Text) :
    ∀ l ∈ scan t, (CanWrite .bare l.value ∨ CanWrite .quoted l.value) ∧ l.value ⊆ t := by
  induction t using scan_induction with
  | blank w hw => rw [scan_blank hw]; simp
  | bare w c r hw hb hc ih =>
    rw [scan_next hw hb, next_bare hc]
    intro l hl
    rcases List.mem_cons.1 hl with rfl | hl
    · refine ⟨.inl (canWrite_bare hb hc r), ?_⟩
      exact List.Subset.trans (List.cons_subset_cons c (word_subset r)) (List.subset_append_right w _)
    · obtain ⟨hwrite, hsub⟩ := ih l hl
      have hr : afterWord r ⊆ c :: r := List.Subset.trans (afterWord_subset r) (List.subset_cons_self c r)
      exact ⟨hwrite, List.Subset.trans hsub (List.Subset.trans hr (List.subset_append_right w _))⟩
  | closed w inner rest hw hi ih =>
    rw [scan_next hw (by decide), next_closed hi]
    intro l hl
    rcases List.mem_cons.1 hl with rfl | hl
    · rw [value_ofClosed]
      refine ⟨.inr (canWrite_unescaped hi), fun d hd => ?_⟩
      have := unescaped_subset inner hd
      simp [this]
    · obtain ⟨hwrite, hsub⟩ := ih l hl
      refine ⟨hwrite, fun d hd => ?_⟩
      have := hsub hd
      simp [this]
  | unclosed w inner hw hi =>
    rw [scan_next hw (by decide), next_unclosed hi, scan_nil]
    intro l hl
    rw [List.mem_singleton] at hl
    subst hl
    rw [value_ofUnclosed hi]
    refine ⟨.inr (canWrite_unescaped hi), fun d hd => ?_⟩
    have := unescaped_subset inner hd
    simp [this]

theorem isValue_of_mem_scan {l : Literal} (hc : ',' ∉ t) (h : l ∈ scan t) : IsValue l.value :=
  ⟨fun hv => hc ((canWrite_of_mem_scan t l h).2 hv), (canWrite_of_mem_scan t l h).1⟩

theorem isValue_nil : IsValue [] :=
  ⟨List.not_mem_nil, .inr ⟨List.not_mem_nil, List.not_mem_nil⟩⟩

theorem comma_not_mem_write (q : Quoting) (h : IsValue v) : ',' ∉ write q v := by
  obtain ⟨p, -, hp⟩ := exists_write_eq q h
  rw [hp]
  cases p with
  | bare => exact h.1
  | quoted => simp [written, h.1]

end Literal

namespace Param

open Text Literal

/-- Whether a parameter can stand on a line. One without a name has no values. -/
def WellFormed (p : Param) : Prop :=
  (p.name = [] ∧ p.values = []) ∨
    (isName p.name = true ∧ ',' ∉ p.name ∧ ∀ v ∈ p.values, IsValue v)

instance decidableWellFormed (p : Param) : Decidable p.WellFormed :=
  inferInstanceAs (Decidable ((p.name = [] ∧ p.values = []) ∨
    (isName p.name = true ∧ ',' ∉ p.name ∧ ∀ v ∈ p.values, IsValue v)))

/-- Values as they stand behind a colon, each after a space. -/
def writeValues (q : Quoting) (vs : List Text) : Text := vs.flatMap fun v => ' ' :: Literal.write q v

/-- A parameter as it stands on a line. -/
def write (q : Quoting) (p : Param) : Text :=
  if p.name = [] then [] else p.name ++ ':' :: writeValues q p.values

variable {p : Param} {t : Text} {line : Nat}

/-- What is written behind a value starts with a blank, or there is nothing. -/
theorem isBlank_of_head?_writeValues {q : Quoting} {vs : List Text} {d : Char}
    (h : (writeValues q vs).head? = some d) : isBlank d = true := by
  cases vs with
  | nil => cases h
  | cons v vs => cases h; decide

theorem valuesOf_writeValues (q : Quoting) {vs : List Text} (h : ∀ v ∈ vs, IsValue v) :
    valuesOf (writeValues q vs) = vs := by
  induction vs with
  | nil => exact valuesOf_nil
  | cons v vs ih =>
    obtain ⟨p, hp, hw⟩ := exists_write_eq q (h v List.mem_cons_self)
    have hblank : ∀ d, (writeValues q vs).head? = some d → isBlank d = true :=
      fun _ hd => isBlank_of_head?_writeValues hd
    obtain ⟨l, hl, hc, hscan⟩ := scan_written hp hblank
    have htext : writeValues q (v :: vs) = ' ' :: (written p v ++ writeValues q vs) := by
      rw [writeValues, List.flatMap_cons, hw]; rfl
    have hrest := ih fun u hu => h u (List.mem_cons_of_mem v hu)
    rw [valuesOf] at hrest ⊢
    rw [htext, hscan, List.filter_cons_of_pos hc, List.map_cons, hl, hrest]

/-- **A written parameter is read back.** -/
theorem parse_write (q : Quoting) (h : p.WellFormed) : parse line (p.write q) = .ok p := by
  obtain ⟨name, values⟩ := p
  rcases h with ⟨hn, hv⟩ | ⟨hn, -, hv⟩
  · cases hn; cases hv
    exact parse_shape line (.blank [] (by simp))
  · have hne : name ≠ [] := by
      intro e
      rw [e] at hn; cases hn
    have hs := parse_shape line (.valued ⟨[], name, [], by simp, hn, by simp⟩ (writeValues q values))
    rw [Shape.text, Label.text, Shape.result, valuesOf_writeValues q hv] at hs
    simpa [write, hne] using hs

theorem comma_not_mem_write (q : Quoting) (h : p.WellFormed) : ',' ∉ p.write q := by
  unfold write
  split
  · exact List.not_mem_nil
  · rename_i hne
    obtain ⟨-, hc, hv⟩ := h.resolve_left fun h => hne h.1
    have hvalues : ',' ∉ writeValues q p.values := by
      intro hm
      obtain ⟨v, hvm, hm⟩ := List.mem_flatMap.1 hm
      rcases List.mem_cons.1 hm with hm | hm
      · cases hm
      · exact Literal.comma_not_mem_write q (hv v hvm) hm
    exact not_mem_append_cons hc (by decide) hvalues

/-- **A parameter that is read is well formed.** -/
theorem wellFormed_of_parse (hc : ',' ∉ t) (h : parse line t = .ok p) : p.WellFormed := by
  obtain ⟨s, rfl⟩ := exists_shape t
  rw [parse_shape] at h
  have hlabel : ∀ (l : Label) (r : Text), ',' ∉ l.text ++ r → ',' ∉ l.name := by
    intro l r hl hm
    exact hl (List.mem_append_left r (by simp [Label.text, hm]))
  cases s with
  | blank t ht => cases h; exact .inl ⟨rfl, rfl⟩
  | named l =>
    cases h
    exact .inr ⟨l.isName_name, hlabel l [] (by rw [List.append_nil]; exact hc), by simp⟩
  | valued l rest =>
    cases h
    refine .inr ⟨l.isName_name, hlabel l _ hc, ?_⟩
    intro v hv
    obtain ⟨k, hk, rfl⟩ := List.mem_map.1 hv
    have hrest : ',' ∉ rest := fun hm => hc (by simp [Shape.text, hm])
    exact isValue_of_mem_scan hrest (List.mem_of_mem_filter hk)
  | broken b => cases h

end Param

namespace Lead

open Text Literal

/-- Whether a lead can stand on a line. One without a head has no name. -/
structure WellFormed (l : Lead) : Prop where
  head_not_blank : ∀ c ∈ l.head, isBlank c = false
  head_comma : ',' ∉ l.head
  name_nil : l.head = [] → l.name = []
  name_isValue : IsValue l.name

/-- A lead as it stands on a line. -/
def write (q : Quoting) (l : Lead) : Text :=
  if l.head = [] then [] else l.head ++ ' ' :: Literal.write q l.name

variable {l : Lead} {t : Text}

/-- What is read of a head between blanks and of what follows it. -/
theorem ofText_append {indent head r : Text} (hi : ∀ d ∈ indent, isBlank d = true)
    (hne : head ≠ []) (hh : ∀ d ∈ head, isBlank d = false)
    (hr : ∀ d, r.head? = some d → isBlank d = true) :
    ofText (indent ++ (head ++ r)) = ⟨head, ((scan r).head?.map value).getD []⟩ := by
  have hstart : trimStart (indent ++ (head ++ r)) = head ++ r := by
    obtain ⟨c, s, rfl⟩ := List.exists_cons_of_ne_nil hne
    rw [trimStart_append hi]
    exact trimStart_eq_self fun d hd => by cases hd; exact hh c List.mem_cons_self
  unfold ofText
  simp only [hstart, word_of_append hh hr, afterWord_of_append hh hr]

theorem ofText_blank (h : ∀ c ∈ t, isBlank c = true) : ofText t = ⟨[], []⟩ := by
  unfold ofText
  simp only [trimStart_eq_nil_iff.2 h, word, afterWord, List.dropWhile_nil, List.takeWhile_nil, scan_nil]
  rfl

/-- **A written lead is read back.** -/
theorem ofText_write (q : Quoting) (h : l.WellFormed) : ofText (l.write q) = l := by
  obtain ⟨head, name⟩ := l
  unfold write
  split
  · rename_i he
    have hn := h.name_nil he
    cases he; cases hn
    exact ofText_blank (by simp)
  · rename_i hne
    obtain ⟨p, hp, hw⟩ := exists_write_eq q h.name_isValue
    obtain ⟨k, hk, -, hscan⟩ := scan_written (r := []) hp (by simp)
    have hnone : ∀ d ∈ ([] : Text), isBlank d = true := by simp
    have hread := ofText_append (r := ' ' :: written p name) hnone hne
      h.head_not_blank (fun d hd => by cases hd; decide)
    rw [List.append_nil] at hscan
    rw [hscan, List.head?_cons, Option.map_some, Option.getD_some, hk] at hread
    rw [hw]
    exact hread

theorem comma_not_mem_write (q : Quoting) (h : l.WellFormed) : ',' ∉ l.write q := by
  unfold write
  split
  · exact List.not_mem_nil
  · exact not_mem_append_cons h.head_comma (by decide) (Literal.comma_not_mem_write q h.name_isValue)

/-- **A lead that is read is well formed.** -/
theorem wellFormed_ofText (hc : ',' ∉ t) : (ofText t).WellFormed := by
  have hsub := trimStart_subset t
  have hafter := afterWord_subset (trimStart t)
  have hword := word_subset (trimStart t)
  refine ⟨fun c hm => not_isBlank_of_mem_word hm, fun hm => hc (hsub (hword hm)), ?_, ?_⟩
  · intro he
    -- without a head the text is blank, so nothing is left to be read as a name
    have hnil : trimStart t = [] := by
      cases hs : trimStart t with
      | nil => rfl
      | cons c r =>
        have he' : word (trimStart t) = [] := he
        rw [hs, word, List.takeWhile_cons_of_pos (by simp [not_isBlank_of_trimStart hs])] at he'
        cases he'
    unfold ofText
    simp only [hnil, afterWord, List.dropWhile_nil, scan_nil, List.head?_nil, Option.map_none,
      Option.getD_none]
  · unfold ofText
    simp only
    cases hs : scan (afterWord (trimStart t)) with
    | nil => exact isValue_nil
    | cons k ks =>
      exact isValue_of_mem_scan (fun hm => hc (hsub (hafter hm))) (by rw [hs]; exact List.mem_cons_self)

end Lead

end MigrationDbml
