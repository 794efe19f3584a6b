import MigrationDbml.Proofs.Cuts

/-!
# Slices of bytes

A text written as UTF-8 is read back from its bytes, so bytes can stand for it. They are cut at
byte offsets, and only where a character starts or the text ends (`Utf8.isBoundary`).

* `decode_encode`: reading back loses nothing.
* `exists_encodeChar`: the first byte of a character is told from the later ones.
* `isBoundary_encode_iff`: the boundaries lie behind the starts of a text, and nowhere else.
* `slice?_append`: a slice between two of them is what stands there.
-/

namespace MigrationDbml.Utf8

open Text

/-! ### Reading back -/

section Decode

variable {acc cs : Text} {p q : Option Pending} {b low high value v : Nat} {bs : Bytes}

theorem decodeFrom_of_step {d : UInt8} (h : step p d.toNat = (cs, q)) :
    decodeFrom acc p (d :: bs) = decodeFrom (cs.reverse ++ acc) q bs := by
  rw [decodeFrom.eq_def]
  simp only [h]

theorem decodeFrom_cons (hb : b < 0x100) (h : step p b = (cs, q)) :
    decodeFrom acc p (UInt8.ofNat b :: bs) = decodeFrom (cs.reverse ++ acc) q bs :=
  decodeFrom_of_step (by rw [UInt8.toNat_ofNat_of_lt' hb, h])

/-- The second of three bytes is bounded: no overlong forms and no surrogates. -/
theorem step_three (hl : 0xE0 ≤ b) (hu : b < 0xF0) : step none b =
    ([], some ⟨b - 0xE0, 2, if b = 0xE0 then 0xA0 else 0x80, if b = 0xED then 0x9F else 0xBF⟩) := by
  show start b = _
  unfold start
  grind

/-- The second of four bytes is bounded: no overlong forms and nothing past the last character. -/
theorem step_four (hl : 0xF0 ≤ b) (hu : b < 0xF5) : step none b =
    ([], some ⟨b - 0xF0, 3, if b = 0xF0 then 0x90 else 0x80, if b = 0xF4 then 0x8F else 0xBF⟩) := by
  show start b = _
  unfold start
  grind

theorem step_last (hl : low ≤ b) (hu : b ≤ high) :
    step (some ⟨value, 1, low, high⟩) b = ([Char.ofNat (value * 0x40 + (b - 0x80))], none) := by
  simp only [step, if_pos (And.intro hl hu)]
  rfl

theorem step_more {missing : Nat} (hl : low ≤ b) (hu : b ≤ high) :
    step (some ⟨value, missing + 2, low, high⟩) b =
      ([], some ⟨value * 0x40 + (b - 0x80), missing + 1, 0x80, 0xBF⟩) := by
  simp only [step, if_pos (And.intro hl hu)]
  rfl

theorem decodeFrom_one (hv : v < 0x80) :
    decodeFrom acc none (UInt8.ofNat v :: bs) = decodeFrom (Char.ofNat v :: acc) none bs := by
  have hstart : step none v = ([Char.ofNat v], none) := if_pos hv
  rw [decodeFrom_cons (by omega) hstart]
  rfl

theorem decodeFrom_two (hl : 0x80 ≤ v) (hu : v < 0x800) :
    decodeFrom acc none (UInt8.ofNat (v / 64 % 32 + 192) :: UInt8.ofNat (v % 64 + 128) :: bs) =
      decodeFrom (Char.ofNat v :: acc) none bs := by
  have hstart : step none (v / 64 % 32 + 192) = ([], some ⟨v / 64 % 32, 1, 0x80, 0xBF⟩) := by
    show start _ = _
    unfold start
    rw [if_neg (by omega), if_neg (by omega), if_pos (by omega), Nat.add_sub_cancel]
  have hvalue : v / 64 % 32 * 0x40 + (v % 64 + 128 - 0x80) = v := by omega
  rw [decodeFrom_cons (by omega) hstart,
    decodeFrom_cons (by omega) (step_last (by omega) (by omega)), hvalue]
  rfl

theorem decodeFrom_three (hl : 0x800 ≤ v) (hu : v < 0x10000) (hs : v < 0xD800 ∨ 0xDFFF < v) :
    decodeFrom acc none (UInt8.ofNat (v / 4096 % 16 + 224) :: UInt8.ofNat (v / 64 % 64 + 128) ::
        UInt8.ofNat (v % 64 + 128) :: bs) = decodeFrom (Char.ofNat v :: acc) none bs := by
  have hstart := step_three (b := v / 4096 % 16 + 224) (by omega) (by omega)
  have hvalue : ((v / 4096 % 16 + 224 - 0xE0) * 0x40 + (v / 64 % 64 + 128 - 0x80)) * 0x40 +
      (v % 64 + 128 - 0x80) = v := by omega
  rw [decodeFrom_cons (by omega) hstart,
    decodeFrom_cons (by omega) (step_more (by split <;> omega) (by split <;> omega)),
    decodeFrom_cons (by omega) (step_last (by omega) (by omega)), hvalue]
  rfl

theorem decodeFrom_four (hl : 0x10000 ≤ v) (hu : v < 0x110000) :
    decodeFrom acc none (UInt8.ofNat (v / 262144 % 8 + 240) :: UInt8.ofNat (v / 4096 % 64 + 128) ::
        UInt8.ofNat (v / 64 % 64 + 128) :: UInt8.ofNat (v % 64 + 128) :: bs) =
      decodeFrom (Char.ofNat v :: acc) none bs := by
  have hstart := step_four (b := v / 262144 % 8 + 240) (by omega) (by omega)
  have hvalue : (((v / 262144 % 8 + 240 - 0xF0) * 0x40 + (v / 4096 % 64 + 128 - 0x80)) * 0x40 +
      (v / 64 % 64 + 128 - 0x80)) * 0x40 + (v % 64 + 128 - 0x80) = v := by omega
  rw [decodeFrom_cons (by omega) hstart,
    decodeFrom_cons (by omega) (step_more (by split <;> omega) (by split <;> omega)),
    decodeFrom_cons (by omega) (step_more (by omega) (by omega)),
    decodeFrom_cons (by omega) (step_last (by omega) (by omega)), hvalue]
  rfl

/-- **A character is read back**, whatever its number of bytes. -/
theorem decodeFrom_encodeChar (acc : Text) (c : Char) (bs : Bytes) :
    decodeFrom acc none (String.utf8EncodeChar c ++ bs) = decodeFrom (c :: acc) none bs := by
  have hvalid : c.val.toNat < 0xD800 ∨ 0xDFFF < c.val.toNat ∧ c.val.toNat < 0x110000 := c.valid
  conv_rhs => rw [← Char.ofNat_toNat c]
  unfold String.utf8EncodeChar Char.toNat
  dsimp only
  split
  · exact decodeFrom_one (by omega)
  · split
    · exact decodeFrom_two (by omega) (by omega)
    · split
      · exact decodeFrom_three (by omega) (by omega) (by omega)
      · exact decodeFrom_four (by omega) (by omega)

theorem decodeFrom_encode (acc t : Text) : decodeFrom acc none (encode t) = acc.reverse ++ t := by
  induction t generalizing acc with
  | nil => simp [encode, decodeFrom]
  | cons c t ih =>
    rw [encode_cons, decodeFrom_encodeChar, ih]
    simp

/-- **A text is read back from its UTF-8 form.** -/
theorem decode_encode (t : Text) : decode (encode t) = t := decodeFrom_encode [] t

end Decode

/-! ### Cuts between characters -/

/-- Whether a byte belongs to a character that starts before it. -/
def isContinuation (b : UInt8) : Bool := decide (0x80 ≤ b.toNat) && decide (b.toNat < 0xC0)

theorem isContinuation_ofNat {b : Nat} (hb : b < 0x100) :
    isContinuation (UInt8.ofNat b) = (decide (0x80 ≤ b) && decide (b < 0xC0)) := by
  unfold isContinuation
  rw [UInt8.toNat_ofNat_of_lt' hb]

/-- **Only the first byte of a character starts it.** -/
theorem exists_encodeChar (c : Char) : ∃ b bs, String.utf8EncodeChar c = b :: bs ∧
    isContinuation b = false ∧ ∀ d ∈ bs, isContinuation d = true := by
  have hfirst : ∀ n, n < 0x80 ∨ 0xC0 ≤ n ∧ n < 0x100 → isContinuation (UInt8.ofNat n) = false := by
    intro n hn
    rw [isContinuation_ofNat (by omega), Bool.and_eq_false_iff, decide_eq_false_iff_not,
      decide_eq_false_iff_not]
    omega
  have hlater : ∀ n, isContinuation (UInt8.ofNat (n % 64 + 128)) = true := by
    intro n
    rw [isContinuation_ofNat (by omega), Bool.and_eq_true, decide_eq_true_eq, decide_eq_true_eq]
    omega
  have hnone : ∀ d ∈ ([] : Bytes), isContinuation d = true := fun _ hd => absurd hd List.not_mem_nil
  have hmore : ∀ n bs, (∀ d ∈ bs, isContinuation d = true) →
      ∀ d ∈ UInt8.ofNat (n % 64 + 128) :: bs, isContinuation d = true :=
    fun n _ hbs => List.forall_mem_cons.2 ⟨hlater n, hbs⟩
  unfold String.utf8EncodeChar
  dsimp only
  split
  · exact ⟨_, _, rfl, hfirst _ (by omega), hnone⟩
  · split
    · exact ⟨_, _, rfl, hfirst _ (by omega), hmore _ _ hnone⟩
    · split
      · exact ⟨_, _, rfl, hfirst _ (by omega), hmore _ _ (hmore _ _ hnone)⟩
      · exact ⟨_, _, rfl, hfirst _ (by omega), hmore _ _ (hmore _ _ (hmore _ _ hnone))⟩

/-- Whether bytes can be cut after the first `n` of them, so that no character comes apart. -/
def isBoundary (n : Nat) (bs : Bytes) : Bool :=
  n == 0 || n == bs.length || bs[n]?.any fun b => !isContinuation b

/-- A byte offset within a text falls on a character of it. -/
theorem exists_char_at {t : Text} {n : Nat} (h : n < byteLength t) :
    ∃ a c b, t = a ++ c :: b ∧ byteLength a ≤ n ∧ n < byteLength a + c.utf8Size := by
  induction t generalizing n with
  | nil => cases h
  | cons d t ih =>
    by_cases hd : n < d.utf8Size
    · exact ⟨[], d, t, rfl, Nat.zero_le n, by rw [byteLength_nil]; omega⟩
    · rw [byteLength_cons] at h
      obtain ⟨a, c, b, rfl, hl, hu⟩ := ih (n := n - d.utf8Size) (by omega)
      exact ⟨d :: a, c, b, rfl, by rw [byteLength_cons]; omega, by rw [byteLength_cons]; omega⟩

/-- The bytes of a character stand behind those of the text before it. -/
theorem getElem?_encode (a : Text) (c : Char) (b : Text) {k : Nat} (hk : k < c.utf8Size) :
    (encode (a ++ c :: b))[byteLength a + k]? = (String.utf8EncodeChar c)[k]? := by
  have hlen := String.length_utf8EncodeChar c
  rw [encode_append, encode_cons, ← length_encode a, List.getElem?_append_right (Nat.le_add_right _ k),
    Nat.add_sub_cancel_left, List.getElem?_append_left (by omega)]

/-- **The boundaries lie behind the starts of a text.** -/
theorem isBoundary_encode_iff {n : Nat} {t : Text} :
    isBoundary n (encode t) = true ↔ ∃ a b, t = a ++ b ∧ byteLength a = n := by
  unfold isBoundary
  rw [Bool.or_eq_true, Bool.or_eq_true, beq_iff_eq, beq_iff_eq, length_encode, Option.any_eq_true]
  constructor
  · rintro ((rfl | rfl) | ⟨x, hx, hstart⟩)
    · exact ⟨[], t, rfl, rfl⟩
    · exact ⟨t, [], (List.append_nil t).symm, rfl⟩
    · obtain ⟨hn, -⟩ := List.getElem?_eq_some_iff.1 hx
      rw [length_encode] at hn
      obtain ⟨a, c, b, rfl, hl, hu⟩ := exists_char_at hn
      obtain ⟨first, later, hc, -, hlater⟩ := exists_encodeChar c
      obtain ⟨k, rfl⟩ := Nat.exists_eq_add_of_le hl
      rw [getElem?_encode a c b (by omega), hc] at hx
      cases k with
      | zero => exact ⟨a, c :: b, rfl, rfl⟩
      | succ k =>
        -- behind its first byte a character has bytes that continue it only
        rw [List.getElem?_cons_succ] at hx
        rw [hlater x (List.mem_of_getElem? hx)] at hstart
        cases hstart
  · rintro ⟨a, b, rfl, rfl⟩
    cases b with
    | nil => exact .inl (.inr (by rw [List.append_nil]))
    | cons c b =>
      obtain ⟨first, later, hc, hfirst, -⟩ := exists_encodeChar c
      have hbyte := getElem?_encode a c b (Char.utf8Size_pos c)
      rw [Nat.add_zero, hc] at hbyte
      exact .inr ⟨first, hbyte, by rw [hfirst]; rfl⟩

/-- The bytes from `start` to `stop`, if both cuts can be made. -/
def slice? (start stop : Nat) (bs : Bytes) : Option Bytes :=
  if start ≤ stop ∧ isBoundary start bs = true ∧ isBoundary stop bs = true then
    some ((bs.take stop).drop start)
  else none

/-- **A part of a text** is the slice between the byte lengths of what stands before its two ends. -/
theorem slice?_append (s t u : Text) :
    slice? (byteLength s) (byteLength s + byteLength t) (encode (s ++ t ++ u)) = some (encode t) := by
  have hle : byteLength s ≤ byteLength s + byteLength t := Nat.le_add_right _ _
  have hstart : isBoundary (byteLength s) (encode (s ++ t ++ u)) = true :=
    isBoundary_encode_iff.2 ⟨s, t ++ u, List.append_assoc s t u, rfl⟩
  have hstop : isBoundary (byteLength s + byteLength t) (encode (s ++ t ++ u)) = true :=
    isBoundary_encode_iff.2 ⟨s ++ t, u, rfl, byteLength_append s t⟩
  unfold slice?
  rw [if_pos ⟨hle, hstart, hstop⟩, encode_append, ← byteLength_append, ← length_encode (s ++ t),
    List.take_left, encode_append, ← length_encode s, List.drop_left]

-- the first character has two bytes
example : slice? 1 2 (encode ['é', ':']) = none := by decide

example : slice? 2 3 (encode ['é', ':']) = some (encode [':']) := by decide

end MigrationDbml.Utf8
