import MigrationDbml.Text.Basic

/-!
# Literals

A literal is a value as a source writes it. A quoted literal starts with a
double quote and ends with the next one, or runs to the end of the text when
there is none. A bare literal is a word that starts with another character.
Blanks between literals are skipped (`Literal.scan`).

Inside quotes a backslash is dropped from the value and protects nothing: the
quote after it still ends the literal.

* `Literal.next_append`: a literal and the rest after it are the text read.
* `Literal.scan_of_trimStart_eq_nil`, `Literal.scan_of_trimStart_eq_cons`: what a text scans to,
  by its first character that is not blank.
-/

namespace MigrationDbml

/-- The two ways to write a value. -/
inductive Quoting where
  | quoted
  | bare
deriving DecidableEq

/-- A value as written, quotes included. -/
structure Literal where
  quoting : Quoting
  text : Text
deriving DecidableEq

/-- What a literal of this kind is called. -/
def Quoting.description : Quoting → Text
  | .quoted => "quoted value".toList
  | .bare => "bare value".toList

namespace Literal

/-- The text without a double quote at its start, if it has one. -/
def dropOpening (t : Text) : Text := if t.head? = some '"' then t.tail else t

/-- The text without a double quote at its end, if it has one. -/
def dropClosing (t : Text) : Text := if t.getLast? = some '"' then t.dropLast else t

/-- The value a literal stands for: quotes and backslashes are removed from a quoted one. -/
def value : Literal → Text
  | ⟨.quoted, t⟩ => (dropClosing (dropOpening t)).filter (· ≠ '\\')
  | ⟨.bare, t⟩ => t

/-- Whether the literal has its end: a quoted one needs a quote besides the opening one. -/
def closed : Literal → Bool
  | ⟨.quoted, t⟩ => decide (1 < Text.byteLength t) && decide (t.getLast? = some '"')
  | ⟨.bare, _⟩ => true

/-- The literal that starts with `c` and goes on into `r`, and what follows it. -/
def next (c : Char) (r : Text) : Literal × Text :=
  if c = '"' then
    let inner := r.takeWhile (· ≠ '"')
    match r.dropWhile (· ≠ '"') with
    | [] => (⟨.quoted, c :: inner⟩, [])
    | closing :: rest => (⟨.quoted, c :: inner ++ [closing]⟩, rest)
  else (⟨.bare, c :: Text.word r⟩, Text.afterWord r)

theorem next_append (c : Char) (r : Text) : (next c r).1.text ++ (next c r).2 = c :: r := by
  have h := r.takeWhile_append_dropWhile (p := (· ≠ '"'))
  unfold next
  split
  · split <;> rename_i hd <;> rw [hd] at h
    · simpa using h
    · simpa using h
  · simp [Text.word_append_afterWord]

theorem text_next_ne_nil (c : Char) (r : Text) : (next c r).1.text ≠ [] := by
  unfold next
  split
  · split <;> simp
  · simp

theorem length_next_lt {t : Text} {c : Char} {r : Text} (h : Text.trimStart t = c :: r) :
    (next c r).2.length < t.length := by
  have h1 := Text.length_trimStart_le t
  have h2 := congrArg List.length (next_append c r)
  have h3 := List.length_pos_iff.mpr (text_next_ne_nil c r)
  rw [h] at h1
  simp only [List.length_append, List.length_cons] at h1 h2
  omega

/-- The literals of a text, in order. -/
def scan (t : Text) : List Literal :=
  match h : Text.trimStart t with
  | [] => []
  | c :: r =>
    have := length_next_lt h
    let n := next c r
    n.1 :: scan n.2
termination_by t.length

theorem scan_of_trimStart_eq_nil {t : Text} (h : Text.trimStart t = []) : scan t = [] := by
  rw [scan]
  split
  · rfl
  · rename_i h'
    rw [h] at h'
    cases h'

theorem scan_of_trimStart_eq_cons {t : Text} {c : Char} {r : Text}
    (h : Text.trimStart t = c :: r) : scan t = (next c r).1 :: scan (next c r).2 := by
  rw [scan]
  split
  · rename_i h'
    rw [h] at h'
    cases h'
  · rename_i h'
    rw [h] at h'
    cases h'
    rfl

end Literal

end MigrationDbml
