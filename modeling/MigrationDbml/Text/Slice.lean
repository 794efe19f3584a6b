import MigrationDbml.Text.Basic

/-!
# Slices

Parts of a text that are given by byte offsets into its UTF-8 form. A cut that
falls inside a character, or behind the end, is refused.

* `splitAt?_eq_some_iff`: a cut is made exactly where so many bytes stand before it.
-/

namespace MigrationDbml.Text

/-- The first `n` bytes of a text and what follows them, if the cut falls between characters. -/
def splitAt? : Nat → Text → Option (Text × Text)
  | 0, t => some ([], t)
  | _ + 1, [] => none
  | n + 1, c :: t =>
    if c.utf8Size ≤ n + 1 then
      (splitAt? (n + 1 - c.utf8Size) t).map fun p => (c :: p.1, p.2)
    else none

/-- The part of a text from byte `start` on. -/
def sliceFrom? (start : Nat) (t : Text) : Option Text := (splitAt? start t).map Prod.snd

/-- The part of a text from byte `start` to byte `stop`. -/
def slice? (start stop : Nat) (t : Text) : Option Text :=
  (splitAt? stop t).bind fun p => sliceFrom? start p.1

theorem splitAt?_append (s t : Text) : splitAt? (byteLength s) (s ++ t) = some (s, t) := by
  induction s with
  | nil => simp [splitAt?]
  | cons c s ih =>
    have hc := Char.utf8Size_pos c
    obtain ⟨n, hn⟩ : ∃ n, byteLength (c :: s) = n + 1 :=
      ⟨byteLength (c :: s) - 1, by rw [byteLength_cons]; omega⟩
    have hs : n + 1 - c.utf8Size = byteLength s := by rw [← hn, byteLength_cons]; omega
    rw [hn, List.cons_append, splitAt?, if_pos (by rw [← hn, byteLength_cons]; omega), hs, ih]
    rfl

theorem eq_append_of_splitAt? {n : Nat} {t a b : Text} (h : splitAt? n t = some (a, b)) :
    t = a ++ b ∧ byteLength a = n := by
  fun_induction splitAt? n t generalizing a with
  | case1 t => simp_all
  | case2 => simp at h
  | case3 n c t hc ih =>
    obtain ⟨⟨a, b⟩, hp, he⟩ := Option.map_eq_some_iff.mp h
    cases he
    obtain ⟨rfl, hn⟩ := ih hp
    exact ⟨rfl, by rw [byteLength_cons, show byteLength a = _ from hn]; omega⟩
  | case4 => simp at h

/-- A cut after `n` bytes is made exactly where `n` bytes stand before it. -/
theorem splitAt?_eq_some_iff {n : Nat} {t a b : Text} :
    splitAt? n t = some (a, b) ↔ t = a ++ b ∧ byteLength a = n := by
  refine ⟨eq_append_of_splitAt?, ?_⟩
  rintro ⟨rfl, rfl⟩
  exact splitAt?_append a b

end MigrationDbml.Text
