import MigrationDbml.Proofs.ByteSlices
import MigrationDbml.Proofs.Literals
import MigrationDbml.Proofs.Segments

/-!
# Reading segments from checked bytes

A second reader of segments. Its texts are bytes, its offsets are numbers up to a largest one
(`top`), and whatever can go wrong with them is a `Fault`: a slice outside of a text or off a
character boundary, a sum above `top`, a difference below 0. Where it takes a text apart by characters,
it does so as the core string functions do, which cut at boundaries only.

No segment makes it go wrong, and it reads what the reader of texts reads.

* `slice_append`, `slice_start`, `slice_rest`: slices between the ends of starts of a text.
* `tokenize_encode`: the ranges of the literals, wherever blanks of any width put them.
* `lead_encode`, `param_encode`: a first segment, and a later one.
-/

namespace MigrationDbml.Checked

open Text Utf8

/-- What can go wrong with offsets. -/
inductive Fault where
  /-- A slice is outside of its text, or comes off a character boundary. -/
  | slice
  /-- A sum is above the largest number. -/
  | overflow
  /-- A difference is below 0. -/
  | underflow
  /-- A running offset is more than 1 behind the end of its text. -/
  | outside
deriving DecidableEq

/-- A sum of numbers up to `top`. -/
def add (top m n : Nat) : Except Fault Nat := if m + n ≤ top then .ok (m + n) else .error .overflow

/-- A difference. -/
def sub (m n : Nat) : Except Fault Nat := if n ≤ m then .ok (m - n) else .error .underflow

/-- The bytes from `start` to `stop`. -/
def slice (start stop : Nat) (bs : Bytes) : Except Fault Bytes :=
  match slice? start stop bs with
  | some part => .ok part
  | none => .error .slice

/-- The bytes without the leading blanks. -/
def trimStart (bs : Bytes) : Bytes := encode (Text.trimStart (decode bs))

/-- Characters with their offsets, the first of which is `n`. -/
def indicesFrom : Nat → Text → List (Nat × Char)
  | _, [] => []
  | n, c :: t => (n, c) :: indicesFrom (n + c.utf8Size) t

/-- The characters, each with the offset at which it starts. -/
def charIndices (bs : Bytes) : List (Nat × Char) := indicesFrom 0 (decode bs)

/-- The offset of the first character of a kind. -/
def find? (p : Char → Bool) (bs : Bytes) : Option Nat :=
  ((charIndices bs).find? fun i => p i.2).map Prod.fst

theorem ok_bind {α β : Type} (a : α) (f : α → Except Fault β) : (Except.ok a >>= f) = f a := rfl

theorem add_of_le {top m n : Nat} (h : m + n ≤ top) : add top m n = .ok (m + n) := if_pos h

theorem sub_of_le {m n : Nat} (h : n ≤ m) : sub m n = .ok (m - n) := if_pos h

/-- **A part of a text** is sliced by the byte lengths of what stands before it and of itself. -/
theorem slice_append (s t u : Text) :
    slice (byteLength s) (byteLength s + byteLength t) (encode (s ++ t ++ u)) = .ok (encode t) := by
  rw [slice, slice?_append]

theorem slice_start (s t : Text) : slice 0 (byteLength s) (encode (s ++ t)) = .ok (encode s) := by
  have h := slice_append [] s t
  rw [byteLength_nil, Nat.zero_add, List.nil_append] at h
  exact h

theorem slice_rest (s t : Text) :
    slice (byteLength s) (encode (s ++ t)).length (encode (s ++ t)) = .ok (encode t) := by
  have h := slice_append s t []
  rw [List.append_nil] at h
  rw [length_encode, byteLength_append]
  exact h

theorem slice_behind (s : Text) (c : Char) (t : Text) :
    slice (byteLength s + c.utf8Size) (encode (s ++ c :: t)).length (encode (s ++ c :: t)) =
      .ok (encode t) := by
  have h := slice_rest (s ++ [c]) t
  rw [List.append_assoc, List.singleton_append, byteLength_append] at h
  exact h

/-- What is trimmed off is as long as the lengths differ. -/
theorem sub_trimStart {t w : Text} (ht : t = w ++ Text.trimStart t) :
    sub (encode t).length (trimStart (encode t)).length = .ok (byteLength w) := by
  have hlen := congrArg byteLength ht
  rw [byteLength_append] at hlen
  rw [trimStart, decode_encode, length_encode, length_encode, sub_of_le (by omega)]
  congr 1
  omega

section Find

variable {p : Char → Bool} {s r : Text}

theorem find?_indicesFrom_append (hs : ∀ d ∈ s, p d = false) (n : Nat) :
    (indicesFrom n (s ++ r)).find? (fun i => p i.2) =
      (indicesFrom (n + byteLength s) r).find? (fun i => p i.2) := by
  induction s generalizing n with
  | nil => rfl
  | cons d s ih =>
    rw [List.cons_append, indicesFrom, List.find?_cons_of_neg (by simp [hs d List.mem_cons_self]),
      ih fun e he => hs e (List.mem_cons_of_mem d he), byteLength_cons, Nat.add_assoc]

theorem find?_append_cons {c : Char} (hs : ∀ d ∈ s, p d = false) (hc : p c = true) :
    find? p (encode (s ++ c :: r)) = some (byteLength s) := by
  have hfirst : ((byteLength s, c) :: indicesFrom (byteLength s + c.utf8Size) r).find? (fun i => p i.2) =
      some (byteLength s, c) := List.find?_cons_of_pos hc
  rw [find?, charIndices, decode_encode, find?_indicesFrom_append hs, Nat.zero_add, indicesFrom, hfirst]
  rfl

theorem find?_eq_none (hs : ∀ d ∈ s, p d = false) : find? p (encode s) = none := by
  have h : (indicesFrom 0 (s ++ [])).find? (fun i => p i.2) = none := find?_indicesFrom_append hs 0
  rw [List.append_nil] at h
  rw [find?, charIndices, decode_encode, h]
  rfl

end Find

/-! ### Literals -/

/-- The kinds and the ranges of the literals of a text that starts at `pos`. -/
def ranges (pos : Nat) (t : Text) : List (Quoting × Span) :=
  match h : Text.trimStart t with
  | [] => []
  | c :: r =>
    have := Literal.length_next_lt h
    let n := Literal.next c r
    let start := pos + (byteLength t - byteLength (c :: r))
    let stop := start + byteLength n.1.text
    (n.1.quoting, ⟨start, stop⟩) :: ranges stop n.2
termination_by t.length

/-- The literal of a kind at a range. -/
def literal (bs : Bytes) (r : Quoting × Span) : Except Fault Literal := do
  let text ← slice r.2.start r.2.stop bs
  return ⟨r.1, decode text⟩

/-- The literals, each sliced from its range. -/
def tokenize (bs : Bytes) : Except Fault (List Literal) := (ranges 0 (decode bs)).mapM (literal bs)

theorem ranges_of_trimStart_eq_nil {pos : Nat} {t : Text} (h : Text.trimStart t = []) :
    ranges pos t = [] := by
  rw [ranges]
  split
  · rfl
  · rename_i h'
    rw [h] at h'
    cases h'

theorem ranges_of_trimStart_eq_cons {pos : Nat} {t w r : Text} {c : Char} (ht : t = w ++ c :: r)
    (h : Text.trimStart t = c :: r) : ranges pos t =
      ((Literal.next c r).1.quoting,
        ⟨pos + byteLength w, pos + byteLength w + byteLength (Literal.next c r).1.text⟩) ::
      ranges (pos + byteLength w + byteLength (Literal.next c r).1.text) (Literal.next c r).2 := by
  have hw : byteLength t - byteLength (c :: r) = byteLength w := by
    rw [ht, byteLength_append]
    omega
  rw [ranges]
  split
  · rename_i h'
    rw [h] at h'
    cases h'
  · rename_i h'
    rw [h] at h'
    cases h'
    rw [hw]

/-- The literals behind a start `u` of a text are sliced from the whole text. -/
theorem mapM_ranges (u t : Text) :
    (ranges (byteLength u) t).mapM (literal (encode (u ++ t))) = .ok (Literal.scan t) := by
  -- each literal and the blanks before it join the start that the later ones stand behind
  induction t using Literal.scan.induct generalizing u with
  | case1 t h => rw [ranges_of_trimStart_eq_nil h, Literal.scan_of_trimStart_eq_nil h]; rfl
  | case2 t c r h _ n ih =>
    obtain ⟨w, -, ht⟩ := exists_append_trimStart t
    rw [h] at ht
    have hn : n.1.text ++ n.2 = c :: r := Literal.next_append c r
    have htext : u ++ t = (u ++ w) ++ n.1.text ++ n.2 := by
      rw [ht, ← hn]
      simp
    have hslice := slice_append (u ++ w) n.1.text n.2
    have hrest := ih (u ++ w ++ n.1.text)
    rw [byteLength_append, byteLength_append] at hrest
    rw [byteLength_append] at hslice
    rw [ranges_of_trimStart_eq_cons ht h, Literal.scan_of_trimStart_eq_cons h, List.mapM_cons, htext,
      literal, hslice, ok_bind, decode_encode]
    rw [hrest]
    rfl

/-- **No range goes wrong**, and the literals are those of the text. -/
theorem tokenize_encode (t : Text) : tokenize (encode t) = .ok (Literal.scan t) := by
  rw [tokenize, decode_encode]
  exact mapM_ranges [] t

/-! ### First segments -/

/-- Reads a first segment. It is split behind its first word. -/
def lead (segment : Bytes) : Except Fault Lead := do
  let rest := trimStart segment
  let stop := (find? isBlank rest).getD rest.length
  let head ← slice 0 stop rest
  let tail ← slice stop rest.length rest
  let tokens ← tokenize tail
  return ⟨decode head, (tokens.head?.map Literal.value).getD []⟩

/-- The first blank, or else the end, is where the first word ends. -/
theorem find?_isBlank (t : Text) :
    (find? isBlank (encode t)).getD (encode t).length = byteLength (word t) := by
  have hword : ∀ d ∈ word t, isBlank d = false := fun d hd => not_isBlank_of_mem_word hd
  have ht := word_append_afterWord t
  cases hrest : afterWord t with
  | nil =>
    rw [hrest, List.append_nil] at ht
    rw [ht] at hword
    rw [find?_eq_none hword, ht]
    exact length_encode t
  | cons d r =>
    have hd : isBlank d = true := isBlank_of_head?_afterWord (t := t) (by rw [hrest]; rfl)
    rw [hrest] at ht
    conv_lhs => rw [← ht]
    rw [find?_append_cons hword hd]
    rfl

/-- **Reading a first segment does not go wrong**, and gives the lead of the text. -/
theorem lead_encode (t : Text) : lead (encode t) = .ok (Lead.ofText t) := by
  have hsplit := word_append_afterWord (Text.trimStart t)
  have hhead := slice_start (word (Text.trimStart t)) (afterWord (Text.trimStart t))
  have htail := slice_rest (word (Text.trimStart t)) (afterWord (Text.trimStart t))
  rw [hsplit] at hhead htail
  unfold lead trimStart
  simp only [decode_encode, find?_isBlank, hhead, htail, tokenize_encode, ok_bind]
  rfl

/-! ### Later segments -/

/-- Reads on behind the first character of a name, in characters whose offsets count from `start`.
What is found is the name, and where the values start if there is a colon. -/
def scanName (top number start : Nat) :
    List (Nat × Char) → Text → Bool → Except Fault (Except Malformed (Text × Option Nat))
  | [], name, _ => return .ok (name, none)
  | (i, c) :: chars, name, awaitingColon => do
    let place ← add top start i
    if c = ':' then
      let values ← add top place 1
      return .ok (name, some values)
    else if awaitingColon then
      if isBlank c then scanName top number start chars name true
      else
        let stop ← add top place c.utf8Size
        return .error ⟨number, name, c, ⟨place, stop⟩⟩
    else if isBlank c then scanName top number start chars name true
    else scanName top number start chars (name ++ [c]) false

/-- Adds the values to a name that was read, if there is a place where they start. -/
def complete (segment : Bytes) :
    Except Malformed (Text × Option Nat) → Except Fault (Except Malformed Param)
  | .error m => return .error m
  | .ok (name, none) => return .ok ⟨name, []⟩
  | .ok (name, some start) => do
    let text ← slice start segment.length segment
    let tokens ← tokenize text
    return .ok ⟨name, (tokens.filter Param.counts).map Literal.value⟩

/-- Reads a later segment of the line with the given number. -/
def param (top number : Nat) (segment : Bytes) : Except Fault (Except Malformed Param) := do
  let start ← sub segment.length (trimStart segment).length
  let trimmed ← slice start segment.length segment
  match charIndices trimmed with
  | [] => return .ok ⟨[], []⟩
  | (_, first) :: chars =>
    let read ← scanName top number start chars [first] false
    complete segment read

variable {top number start n : Nat} {c : Char} {r w name : Text}

/-- The name takes every character that continues it. -/
theorem scanName_name (hw : ∀ d ∈ w, Param.isNameChar d = true)
    (h : start + n + byteLength w ≤ top) :
    scanName top number start (indicesFrom n (w ++ r)) name false =
      scanName top number start (indicesFrom (n + byteLength w) r) (name ++ w) false := by
  induction w generalizing n name with
  | nil => rw [List.nil_append, List.append_nil]; rfl
  | cons d w ih =>
    rw [byteLength_cons] at h
    obtain ⟨hblank, hcolon⟩ := Param.isNameChar_iff.1 (hw d List.mem_cons_self)
    have hlater : ∀ e ∈ w, Param.isNameChar e = true := fun e he => hw e (List.mem_cons_of_mem d he)
    rw [List.cons_append, indicesFrom, scanName, add_of_le (by omega), ok_bind, if_neg hcolon,
      if_neg Bool.false_ne_true, if_neg (by rw [hblank]; exact Bool.false_ne_true),
      ih hlater (by omega), byteLength_cons, Nat.add_assoc, List.append_assoc, List.singleton_append]

/-- Blanks leave the name as it is. Behind them only a colon may follow. -/
theorem scanName_gap (hw : ∀ d ∈ w, isBlank d = true) (h : start + n + byteLength w ≤ top)
    (awaitingColon : Bool) :
    scanName top number start (indicesFrom n (w ++ r)) name awaitingColon =
      scanName top number start (indicesFrom (n + byteLength w) r) name
        (awaitingColon || !w.isEmpty) := by
  induction w generalizing n awaitingColon with
  | nil => rw [List.nil_append, List.isEmpty_nil, Bool.not_true, Bool.or_false]; rfl
  | cons d w ih =>
    rw [byteLength_cons] at h
    have hblank := hw d List.mem_cons_self
    have hcolon : d ≠ ':' := by
      rintro rfl
      cases hblank
    have hlater : ∀ e ∈ w, isBlank e = true := fun e he => hw e (List.mem_cons_of_mem d he)
    rw [List.cons_append, indicesFrom, scanName, add_of_le (by omega), ok_bind, if_neg hcolon]
    simp only [hblank, if_true, ite_self]
    rw [ih hlater (by omega), byteLength_cons, Nat.add_assoc]
    simp

theorem scanName_colon {awaitingColon : Bool} (h : start + n + 1 ≤ top) :
    scanName top number start (indicesFrom n (':' :: r)) name awaitingColon =
      .ok (.ok (name, some (start + n + 1))) := by
  rw [indicesFrom, scanName, add_of_le (by omega), ok_bind, if_pos rfl, add_of_le h]
  rfl

theorem scanName_found (hc : Param.isNameChar c = true) (h : start + n + c.utf8Size ≤ top) :
    scanName top number start (indicesFrom n (c :: r)) name true =
      .ok (.error ⟨number, name, c, ⟨start + n, start + n + c.utf8Size⟩⟩) := by
  obtain ⟨hblank, hcolon⟩ := Param.isNameChar_iff.1 hc
  rw [indicesFrom, scanName, add_of_le (by omega), ok_bind, if_neg hcolon, if_pos rfl,
    if_neg (by rw [hblank]; exact Bool.false_ne_true), add_of_le h]
  rfl

/-- **A label is read off with offsets from two bases**: those of its characters count from the
trimmed text, and the trimmed text starts behind the indent. -/
theorem param_label (number : Nat) (l : Param.Label) (h : byteLength (l.text ++ r) ≤ top) :
    param top number (encode (l.text ++ r)) =
      (scanName top number (byteLength l.indent) (indicesFrom (byteLength (l.name ++ l.gap)) r) l.name
        (!l.gap.isEmpty) >>= complete (encode (l.text ++ r))) := by
  obtain ⟨c, y, hname, hc, hy⟩ := Param.exists_cons_of_isName l.isName_name
  have htext : l.text ++ r = l.indent ++ (c :: (y ++ (l.gap ++ r))) := by
    simp [Param.Label.text, hname]
  have htrim : Text.trimStart (l.text ++ r) = c :: (y ++ (l.gap ++ r)) := by
    rw [htext, Literal.trimStart_blank_append l.indent_blank hc]
  have hstart := sub_trimStart (t := l.text ++ r) (w := l.indent) (by rw [htrim, htext])
  have hslice := slice_rest l.indent (c :: (y ++ (l.gap ++ r)))
  rw [← htext] at hslice
  have hindices : charIndices (encode (c :: (y ++ (l.gap ++ r)))) =
      (0, c) :: indicesFrom c.utf8Size (y ++ (l.gap ++ r)) := by
    rw [charIndices, decode_encode, indicesFrom, Nat.zero_add]
  rw [htext, byteLength_append, byteLength_cons, byteLength_append, byteLength_append] at h
  have hplace : c.utf8Size + byteLength y + byteLength l.gap = byteLength (l.name ++ l.gap) := by
    rw [hname, byteLength_append, byteLength_cons]
  have hscan : scanName top number (byteLength l.indent)
        (indicesFrom c.utf8Size (y ++ (l.gap ++ r))) [c] false =
      scanName top number (byteLength l.indent) (indicesFrom (byteLength (l.name ++ l.gap)) r) l.name
        (!l.gap.isEmpty) := by
    rw [scanName_name hy (by omega), scanName_gap l.gap_blank (by omega), hplace,
      List.singleton_append, ← hname, Bool.false_or]
  unfold param
  rw [hstart]
  simp only [ok_bind, hslice, hindices]
  rw [hscan]

theorem byteLength_label (l : Param.Label) :
    byteLength l.indent + byteLength (l.name ++ l.gap) = byteLength l.text := by
  rw [Param.Label.text, List.append_assoc, ← byteLength_append]

/-- Each shape of a segment is read without going wrong. -/
theorem param_shape (number : Nat) (s : Param.Shape) (h : byteLength s.text ≤ top) :
    param top number (encode s.text) = .ok (s.result number) := by
  cases s with
  | blank t hb =>
    have htrim : Text.trimStart t = [] := trimStart_eq_nil_iff.2 hb
    have hstart := sub_trimStart (t := t) (w := t) (by rw [htrim, List.append_nil])
    have hslice := slice_rest t []
    rw [List.append_nil] at hslice
    show param top number (encode t) = _
    unfold param
    rw [hstart]
    simp only [ok_bind, hslice]
    rfl
  | named l =>
    have hle : byteLength (l.text ++ []) ≤ top := by rw [List.append_nil]; exact h
    have hlabel := param_label number l hle
    rw [List.append_nil] at hlabel
    show param top number (encode l.text) = _
    rw [hlabel]
    rfl
  | valued l rest =>
    have hle : byteLength (l.text ++ ':' :: rest) ≤ top := h
    have hcolon : ':'.utf8Size = 1 := rfl
    have hlen : byteLength l.text + 1 + byteLength rest ≤ top := by
      rw [byteLength_append, byteLength_cons, hcolon] at hle
      omega
    have hplace := byteLength_label l
    -- the values start one byte behind the colon, because a colon is one byte long
    have hslice := slice_behind l.text ':' rest
    rw [hcolon] at hslice
    show param top number (encode (l.text ++ ':' :: rest)) = _
    rw [param_label number l hle, scanName_colon (by omega), ok_bind, hplace, complete, hslice, ok_bind,
      tokenize_encode]
    rfl
  | broken b =>
    have hle : byteLength (b.text ++ b.found :: b.rest) ≤ top := h
    have hlen : byteLength b.text + b.found.utf8Size + byteLength b.rest ≤ top := by
      rw [byteLength_append, byteLength_cons] at hle
      omega
    have hplace := byteLength_label b.toLabel
    have hgap : (!b.gap.isEmpty) = true := by
      rw [List.isEmpty_eq_false_iff.2 b.gap_ne_nil]
      rfl
    show param top number (encode (b.text ++ b.found :: b.rest)) = _
    rw [param_label number b.toLabel hle, hgap, scanName_found b.isNameChar_found (by omega), ok_bind,
      hplace]
    rfl

/-- **Reading a later segment does not go wrong**, and gives what the text is read as. -/
theorem param_encode (number : Nat) {t : Text} (h : byteLength t ≤ top) :
    param top number (encode t) = .ok (Param.parse number t) := by
  obtain ⟨s, rfl⟩ := Param.exists_shape t
  rw [param_shape number s h, Param.parse_shape]

end MigrationDbml.Checked
