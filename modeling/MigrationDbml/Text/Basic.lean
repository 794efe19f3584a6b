/-!
# Texts

A text is the list of its characters. Positions are counted in bytes of its
UTF-8 form (`byteLength`), and words are separated by blanks, the characters
with Unicode's White_Space property (`isBlank`).

* `byteLength_append`: byte lengths add up.
* `trimStart_append`, `exists_append_trimStart`: trimming takes off blanks and nothing else.
* `word_append_afterWord`: cutting off a word loses nothing.
-/

namespace MigrationDbml

/-- A text is the list of its characters, in order. -/
abbrev Text := List Char

namespace Text

/-- Whether a character lies in one of some inclusive ranges of code points. -/
def inRanges (ranges : List (Nat × Nat)) (c : Char) : Bool :=
  ranges.any fun r => decide (r.1 ≤ c.toNat) && decide (c.toNat ≤ r.2)

/-- The code points with the White_Space property, as inclusive ranges in order. -/
def blankRanges : List (Nat × Nat) :=
  [(0x0009, 0x000D), (0x0020, 0x0020), (0x0085, 0x0085), (0x00A0, 0x00A0), (0x1680, 0x1680),
   (0x2000, 0x200A), (0x2028, 0x2029), (0x202F, 0x202F), (0x205F, 0x205F), (0x3000, 0x3000)]

/-- Whether a character has the White_Space property. -/
def isBlank (c : Char) : Bool := inRanges blankRanges c

/-- The number of bytes of a text's UTF-8 form. -/
def byteLength (t : Text) : Nat := t.foldr (fun c n => c.utf8Size + n) 0

@[simp] theorem byteLength_nil : byteLength [] = 0 := rfl

@[simp] theorem byteLength_cons (c : Char) (t : Text) :
    byteLength (c :: t) = c.utf8Size + byteLength t := rfl

@[simp] theorem byteLength_append (s t : Text) :
    byteLength (s ++ t) = byteLength s + byteLength t := by
  induction s with
  | nil => rw [List.nil_append, byteLength_nil, Nat.zero_add]
  | cons c s ih => rw [List.cons_append, byteLength_cons, byteLength_cons, ih, Nat.add_assoc]

/-- The text without its leading blanks. -/
def trimStart (t : Text) : Text := t.dropWhile isBlank

/-- The text without its trailing blanks. -/
def trimEnd (t : Text) : Text := (t.reverse.dropWhile isBlank).reverse

/-- The text without blanks at either end. -/
def trim (t : Text) : Text := trimEnd (trimStart t)

/-- The longest start of a text that holds no blank. -/
def word (t : Text) : Text := t.takeWhile fun c => !isBlank c

/-- What follows `word`: empty, or starting with a blank. -/
def afterWord (t : Text) : Text := t.dropWhile fun c => !isBlank c

theorem word_append_afterWord (t : Text) : word t ++ afterWord t = t :=
  List.takeWhile_append_dropWhile

/-- Leading blanks make no difference once they are trimmed. -/
theorem trimStart_append {w : Text} (hw : ∀ c ∈ w, isBlank c = true) (t : Text) :
    trimStart (w ++ t) = trimStart t := by
  induction w with
  | nil => rfl
  | cons c w ih =>
    have hc := hw c List.mem_cons_self
    have h := ih fun d hd => hw d (List.mem_cons_of_mem c hd)
    rw [← h, trimStart, List.cons_append, List.dropWhile_cons, if_pos hc]
    rfl

/-- What is trimmed off is blank, and nothing else is lost. -/
theorem exists_append_trimStart (t : Text) :
    ∃ w, (∀ c ∈ w, isBlank c = true) ∧ t = w ++ trimStart t := by
  refine ⟨t.takeWhile isBlank, ?_, List.takeWhile_append_dropWhile.symm⟩
  intro c hc
  exact List.all_eq_true.mp List.all_takeWhile c hc

theorem length_trimStart_le (t : Text) : (trimStart t).length ≤ t.length :=
  (List.dropWhile_suffix _).length_le

theorem length_afterWord_le (t : Text) : (afterWord t).length ≤ t.length :=
  (List.dropWhile_suffix _).length_le

/-- The decimal digits of a number, without leading zeros. -/
def ofNat (n : Nat) : Text := Nat.toDigits 10 n

end Text

end MigrationDbml
