import MigrationDbml.Proofs.ByteSlices

/-!
# Bytes that are no UTF-8

What bytes stand for, whether or not they are UTF-8 (`IsReading`): each character that is written
in full, and a replacement character for each longest run that starts a character and does not
finish it, as for each byte with which no character starts.

* `encodeChar_of_settles`: bytes that are read as a character are its UTF-8 form.
* `starts_of_allows`, `not_starts_of_not_allows`: a byte in the range of a character under way goes
  on with one, and no other byte does.
* `isReading_iff`: any bytes stand for one text, and `decode` reads it.
-/

namespace MigrationDbml.Utf8

open Text

/-- Whether these bytes are the first ones of a character. -/
def Starts (p : Bytes) : Prop := ∃ c more, String.utf8EncodeChar c = p ++ more

/-- What bytes stand for, whether or not they are UTF-8. -/
inductive IsReading : Bytes → Text → Prop where
  | nil : IsReading [] []
  /-- A character in full. -/
  | char (c : Char) {bs : Bytes} {t : Text} (rest : IsReading bs t) :
    IsReading (String.utf8EncodeChar c ++ bs) (c :: t)
  /-- A character that breaks off, as far as it goes. -/
  | unfinished {p bs : Bytes} {t : Text} (nonempty : p ≠ []) (starts : Starts p)
    (breaksOff : ∀ c, String.utf8EncodeChar c ≠ p) (longest : ∀ b ∈ bs.head?, ¬Starts (p ++ [b]))
    (rest : IsReading bs t) : IsReading (p ++ bs) (replacement :: t)
  /-- A byte with which no character starts. -/
  | stray {b : UInt8} {bs : Bytes} {t : Text} (noChar : ¬Starts [b]) (rest : IsReading bs t) :
    IsReading (b :: bs) (replacement :: t)

/-! ### A character under way -/

/-- Whether a byte goes on with a character. -/
def Pending.Allows (q : Pending) (b : UInt8) : Prop := q.low ≤ b.toNat ∧ b.toNat ≤ q.high

/-- Bytes after which the character is still under way. -/
inductive Reaches : Pending → Bytes → Pending → Prop where
  | refl (q : Pending) : Reaches q [] q
  | more {q r s : Pending} {b : UInt8} {bs : Bytes} (allowed : q.Allows b)
    (step : step (some q) b.toNat = ([], some r)) (rest : Reaches r bs s) : Reaches q (b :: bs) s

/-- Bytes with which the character ends. -/
inductive Settles : Pending → Bytes → Char → Prop where
  | last {q : Pending} {b : UInt8} {c : Char} (allowed : q.Allows b)
    (step : step (some q) b.toNat = ([c], none)) : Settles q [b] c
  | more {q r : Pending} {b : UInt8} {bs : Bytes} {c : Char} (allowed : q.Allows b)
    (step : step (some q) b.toNat = ([], some r)) (rest : Settles r bs c) : Settles q (b :: bs) c

section Steps

variable {q r : Pending} {b : UInt8} {p bs : Bytes} {acc : Text} {c : Char}

theorem step_of_allows (h : q.Allows b) : (∃ c, step (some q) b.toNat = ([c], none)) ∨
    ∃ r, step (some q) b.toNat = ([], some r) ∧ r.low = 0x80 ∧ r.high = 0xBF ∧
      r.missing < q.missing := by
  simp only [step, if_pos (show q.low ≤ b.toNat ∧ b.toNat ≤ q.high from h)]
  split
  · exact .inl ⟨_, rfl⟩
  · exact .inr ⟨_, rfl, rfl, rfl, by dsimp only; omega⟩

/-- A byte that does not go on with a character is read where another one starts. -/
theorem decodeFrom_of_not_allows (h : ¬q.Allows b) : decodeFrom acc (some q) (b :: bs) =
    decodeFrom (replacement :: acc) none (b :: bs) := by
  have hstep : step (some q) b.toNat = (replacement :: (start b.toNat).1, (start b.toNat).2) := by
    simp only [step, if_neg (show ¬(q.low ≤ b.toNat ∧ b.toNat ≤ q.high) from h)]
  have hstart : step none b.toNat = ((start b.toNat).1, (start b.toNat).2) := rfl
  rw [decodeFrom_of_step hstep, decodeFrom_of_step hstart, List.reverse_cons, List.append_assoc]
  rfl

theorem decodeFrom_of_reaches (h : Reaches q p r) :
    decodeFrom acc (some q) (p ++ bs) = decodeFrom acc (some r) bs := by
  induction h with
  | refl => rfl
  | more _ hstep _ ih => exact (decodeFrom_of_step hstep).trans ih

theorem settles_of_reaches (h : Reaches q p r) (hs : Settles r bs c) : Settles q (p ++ bs) c := by
  induction h with
  | refl => exact hs
  | more hb hstep _ ih => exact .more hb hstep (ih hs)

/-- Characters that are read are put behind those before them. -/
theorem decodeFrom_eq (acc : Text) (o : Option Pending) (bs : Bytes) :
    decodeFrom acc o bs = acc.reverse ++ decodeFrom [] o bs := by
  induction bs generalizing acc o with
  | nil => cases o <;> simp [decodeFrom]
  | cons b bs ih =>
    have hstep : step o b.toNat = ((step o b.toNat).1, (step o b.toNat).2) := rfl
    rw [decodeFrom_of_step hstep, decodeFrom_of_step hstep, ih, ih (_ ++ [])]
    simp

/-- A byte that goes on with a character goes on to the end of one. -/
theorem exists_settles {q : Pending} {b : UInt8} (h : q.Allows b) : ∃ bs c, Settles q (b :: bs) c := by
  rcases step_of_allows h with ⟨c, hstep⟩ | ⟨r, hstep, hlow, hhigh, hmissing⟩
  · exact ⟨[], c, .last h hstep⟩
  · have hr : r.Allows 0x80 := ⟨by rw [hlow]; decide, by rw [hhigh]; decide⟩
    obtain ⟨bs, c, hs⟩ := exists_settles hr
    exact ⟨_, c, .more h hstep hs⟩
termination_by q.missing

/-- A character under way goes on with some byte, if the first one does. -/
theorem exists_allows_of_reaches (h : Reaches q p r) (hq : ∃ b, q.Allows b) : ∃ b, r.Allows b := by
  induction h with
  | refl => exact hq
  | more hb hstep _ ih =>
    rcases step_of_allows hb with ⟨c, hlast⟩ | ⟨s, hmore, hlow, hhigh, -⟩
    · rw [hstep] at hlast
      cases hlast
    · rw [hstep, Prod.mk.injEq, Option.some.injEq] at hmore
      refine ih ⟨0x80, ?_, ?_⟩
      · rw [hmore.2, hlow]
        decide
      · rw [hmore.2, hhigh]
        decide

end Steps

/-! ### The forms of characters -/

section Forms

variable {b d e f : UInt8} {q : Pending} {ds : Bytes} {c : Char}

theorem val_toNat_ofNat {v : Nat} (h : v.isValidChar) : (Char.ofNat v).val.toNat = v := by
  unfold Char.ofNat
  rw [dif_pos h]
  rfl

theorem ofNat_eq_of_toNat {n : Nat} (h : n = b.toNat) : UInt8.ofNat n = b := by
  rw [h, UInt8.ofNat_toNat]

theorem encodeChar_one (hb : b.toNat < 0x80) :
    String.utf8EncodeChar (Char.ofNat b.toNat) = [b] := by
  unfold String.utf8EncodeChar
  dsimp only
  rw [val_toNat_ofNat (.inl (by omega)), if_pos (by omega), UInt8.ofNat_toNat]

theorem encodeChar_two (hb : 0xC2 ≤ b.toNat ∧ b.toNat < 0xE0) (hd : 0x80 ≤ d.toNat ∧ d.toNat ≤ 0xBF) :
    String.utf8EncodeChar (Char.ofNat ((b.toNat - 0xC0) * 0x40 + (d.toNat - 0x80))) = [b, d] := by
  unfold String.utf8EncodeChar
  dsimp only
  rw [val_toNat_ofNat (.inl (by omega)), if_neg (by omega), if_pos (by omega),
    ofNat_eq_of_toNat (b := b) (by omega), ofNat_eq_of_toNat (b := d) (by omega)]

theorem encodeChar_three (hb : 0xE0 ≤ b.toNat ∧ b.toNat < 0xF0)
    (hd : (if b.toNat = 0xE0 then 0xA0 else 0x80) ≤ d.toNat ∧
      d.toNat ≤ if b.toNat = 0xED then 0x9F else 0xBF) (he : 0x80 ≤ e.toNat ∧ e.toNat ≤ 0xBF) :
    String.utf8EncodeChar (Char.ofNat (((b.toNat - 0xE0) * 0x40 + (d.toNat - 0x80)) * 0x40 +
      (e.toNat - 0x80))) = [b, d, e] := by
  have hvalid : (((b.toNat - 0xE0) * 0x40 + (d.toNat - 0x80)) * 0x40 +
      (e.toNat - 0x80)).isValidChar := by
    unfold Nat.isValidChar
    split at hd <;> split at hd <;> omega
  have hlow : 0x20 ≤ (b.toNat - 0xE0) * 0x40 + (d.toNat - 0x80) := by split at hd <;> omega
  have hhigh : 0x80 ≤ d.toNat ∧ d.toNat ≤ 0xBF := by split at hd <;> split at hd <;> omega
  unfold String.utf8EncodeChar
  dsimp only
  rw [val_toNat_ofNat hvalid, if_neg (by omega), if_neg (by omega), if_pos (by omega),
    ofNat_eq_of_toNat (b := b) (by omega), ofNat_eq_of_toNat (b := d) (by omega),
    ofNat_eq_of_toNat (b := e) (by omega)]

theorem encodeChar_four (hb : 0xF0 ≤ b.toNat ∧ b.toNat < 0xF5)
    (hd : (if b.toNat = 0xF0 then 0x90 else 0x80) ≤ d.toNat ∧
      d.toNat ≤ if b.toNat = 0xF4 then 0x8F else 0xBF)
    (he : 0x80 ≤ e.toNat ∧ e.toNat ≤ 0xBF) (hf : 0x80 ≤ f.toNat ∧ f.toNat ≤ 0xBF) :
    String.utf8EncodeChar (Char.ofNat ((((b.toNat - 0xF0) * 0x40 + (d.toNat - 0x80)) * 0x40 +
      (e.toNat - 0x80)) * 0x40 + (f.toNat - 0x80))) = [b, d, e, f] := by
  have hlow : 0x10 ≤ (b.toNat - 0xF0) * 0x40 + (d.toNat - 0x80) := by split at hd <;> omega
  have htop : (b.toNat - 0xF0) * 0x40 + (d.toNat - 0x80) < 0x110 := by
    split at hd <;> split at hd <;> omega
  have hhigh : 0x80 ≤ d.toNat ∧ d.toNat ≤ 0xBF := by split at hd <;> split at hd <;> omega
  unfold String.utf8EncodeChar
  dsimp only
  rw [val_toNat_ofNat (.inr (by omega)), if_neg (by omega), if_neg (by omega), if_neg (by omega),
    ofNat_eq_of_toNat (b := b) (by omega), ofNat_eq_of_toNat (b := d) (by omega),
    ofNat_eq_of_toNat (b := e) (by omega), ofNat_eq_of_toNat (b := f) (by omega)]

variable {value low high missing : Nat}

theorem settles_one (h : Settles ⟨value, 1, low, high⟩ ds c) : ∃ d : UInt8, ds = [d] ∧
    (low ≤ d.toNat ∧ d.toNat ≤ high) ∧ c = Char.ofNat (value * 0x40 + (d.toNat - 0x80)) := by
  cases h with
  | last hd hstep =>
    rw [step_last hd.1 hd.2, Prod.mk.injEq, List.singleton_inj] at hstep
    exact ⟨_, rfl, hd, hstep.1.symm⟩
  | more hd hstep _ =>
    rw [step_last hd.1 hd.2] at hstep
    cases hstep

theorem settles_more (h : Settles ⟨value, missing + 2, low, high⟩ ds c) : ∃ (d : UInt8) (es : Bytes),
    ds = d :: es ∧ (low ≤ d.toNat ∧ d.toNat ≤ high) ∧
      Settles ⟨value * 0x40 + (d.toNat - 0x80), missing + 1, 0x80, 0xBF⟩ es c := by
  cases h with
  | last hd hstep =>
    rw [step_more hd.1 hd.2] at hstep
    cases hstep
  | more hd hstep hrest =>
    rw [step_more hd.1 hd.2, Prod.mk.injEq, Option.some.injEq] at hstep
    exact ⟨_, _, rfl, hd, hstep.2 ▸ hrest⟩

/-- What a byte does where a character starts. -/
theorem start_cases (b : Nat) : (b < 0x80 ∧ start b = ([Char.ofNat b], none)) ∨
    start b = ([replacement], none) ∨
    (0xC2 ≤ b ∧ b < 0xE0 ∧ start b = ([], some ⟨b - 0xC0, 1, 0x80, 0xBF⟩)) ∨
    (0xE0 ≤ b ∧ b < 0xF0) ∨ (0xF0 ≤ b ∧ b < 0xF5) := by
  unfold start
  grind

/-- **Bytes that are read as a character are its form.** -/
theorem encodeChar_of_settles (h : start b.toNat = ([], some q)) (hs : Settles q ds c) :
    String.utf8EncodeChar c = b :: ds := by
  rcases start_cases b.toNat with ⟨-, hb⟩ | hb | ⟨hl, hu, hb⟩ | hb | hb
  · rw [hb] at h
    cases h
  · rw [hb] at h
    cases h
  · rw [hb, Prod.mk.injEq, Option.some.injEq] at h
    rw [← h.2] at hs
    obtain ⟨d, rfl, hd, hc⟩ := settles_one hs
    rw [hc]
    exact encodeChar_two ⟨hl, hu⟩ hd
  · have hstart : start b.toNat = _ := step_three hb.1 hb.2
    rw [hstart, Prod.mk.injEq, Option.some.injEq] at h
    rw [← h.2] at hs
    obtain ⟨d, es, rfl, hd, hs⟩ := settles_more hs
    obtain ⟨e, rfl, he, hc⟩ := settles_one hs
    rw [hc]
    exact encodeChar_three hb hd he
  · have hstart : start b.toNat = _ := step_four hb.1 hb.2
    rw [hstart, Prod.mk.injEq, Option.some.injEq] at h
    rw [← h.2] at hs
    obtain ⟨d, es, rfl, hd, hs⟩ := settles_more hs
    obtain ⟨e, es, rfl, he, hs⟩ := settles_more hs
    obtain ⟨f, rfl, hf, hc⟩ := settles_one hs
    rw [hc]
    exact encodeChar_four hb hd he hf

end Forms

/-! ### Where a character ends or breaks off -/

section Runs

variable {q r : Pending} {b d : UInt8} {p bs ds : Bytes} {c : Char}

theorem decode_of_settled (h : start b.toNat = ([c], none)) : decode (b :: bs) = c :: decode bs := by
  have hstep : step none b.toNat = ([c], none) := h
  rw [decode, decodeFrom_of_step hstep, decodeFrom_eq]
  rfl

theorem decode_encodeChar (c : Char) (bs : Bytes) :
    decode (String.utf8EncodeChar c ++ bs) = c :: decode bs := by
  rw [decode, decodeFrom_encodeChar, decodeFrom_eq]
  rfl

/-- A character that breaks off is replaced, and reading goes on behind it. -/
theorem decode_of_reaches (hb : start b.toNat = ([], some q)) (h : Reaches q p r)
    (hbs : ∀ d ∈ bs.head?, ¬r.Allows d) : decode (b :: p ++ bs) = replacement :: decode bs := by
  have hstep : step none b.toNat = ([], some q) := hb
  rw [List.cons_append, decode, decodeFrom_of_step hstep, decodeFrom_of_reaches h]
  cases bs with
  | nil => rfl
  | cons d bs =>
    rw [decodeFrom_of_not_allows (hbs d rfl), decodeFrom_eq]
    rfl

/-- A character under way ends, or breaks off at the first byte that does not go on with it. -/
theorem exists_settles_or_reaches (q : Pending) (bs : Bytes) :
    (∃ p rest c, bs = p ++ rest ∧ Settles q p c) ∨
      ∃ p rest r, bs = p ++ rest ∧ Reaches q p r ∧ ∀ d ∈ rest.head?, ¬r.Allows d := by
  induction bs generalizing q with
  | nil => exact .inr ⟨[], [], q, rfl, .refl q, fun _ hd => nomatch hd⟩
  | cons b bs ih =>
    by_cases hb : q.Allows b
    · rcases step_of_allows hb with ⟨c, hstep⟩ | ⟨r, hstep, -⟩
      · exact .inl ⟨[b], bs, c, rfl, .last hb hstep⟩
      · rcases ih r with ⟨p, rest, c, rfl, hs⟩ | ⟨p, rest, s, rfl, hr, hrest⟩
        · exact .inl ⟨b :: p, rest, c, rfl, .more hb hstep hs⟩
        · exact .inr ⟨b :: p, rest, s, rfl, .more hb hstep hr, hrest⟩
    · refine .inr ⟨[], b :: bs, q, rfl, .refl q, fun d hd => ?_⟩
      cases hd
      exact hb

/-- What a byte does where a character starts. What it begins can be gone on with. -/
theorem start_outcomes (b : UInt8) :
    (∃ c, start b.toNat = ([c], none) ∧ String.utf8EncodeChar c = [b]) ∨
      start b.toNat = ([replacement], none) ∨
      ∃ q, start b.toNat = ([], some q) ∧ ∃ d, q.Allows d := by
  have hallows : ∀ {value missing low high : Nat}, low ≤ high → high < 0x100 →
      ∃ d, Pending.Allows ⟨value, missing, low, high⟩ d := fun {_ _ low _} hle hlt => by
    refine ⟨UInt8.ofNat low, ?_⟩
    unfold Pending.Allows
    rw [UInt8.toNat_ofNat_of_lt' (Nat.lt_of_le_of_lt hle hlt)]
    exact ⟨Nat.le_refl _, hle⟩
  rcases start_cases b.toNat with ⟨hlt, hb⟩ | hb | ⟨-, -, hb⟩ | hb | hb
  · exact .inl ⟨_, hb, encodeChar_one hlt⟩
  · exact .inr (.inl hb)
  · exact .inr (.inr ⟨_, hb, hallows (by omega) (by omega)⟩)
  · exact .inr (.inr ⟨_, step_three hb.1 hb.2,
      hallows (by split <;> split <;> omega) (by split <;> omega)⟩)
  · exact .inr (.inr ⟨_, step_four hb.1 hb.2,
      hallows (by split <;> split <;> omega) (by split <;> omega)⟩)

theorem decode_ne_nil (b : UInt8) (bs : Bytes) : decode (b :: bs) ≠ [] := by
  rcases start_outcomes b with ⟨c, hb, -⟩ | hb | ⟨q, hb, -⟩
  · rw [decode_of_settled hb]
    exact List.cons_ne_nil _ _
  · rw [decode_of_settled hb]
    exact List.cons_ne_nil _ _
  · rcases exists_settles_or_reaches q bs with ⟨p, rest, c, rfl, hs⟩ | ⟨p, rest, r, rfl, hr, hrest⟩
    · rw [← List.cons_append, ← encodeChar_of_settles hb hs, decode_encodeChar]
      exact List.cons_ne_nil _ _
    · rw [← List.cons_append, decode_of_reaches hb hr hrest]
      exact List.cons_ne_nil _ _

/-- The form of a character is read as that character and nothing behind it. -/
theorem eq_nil_of_decode {x : Char} (h : decode (String.utf8EncodeChar c) = x :: decode bs) :
    bs = [] := by
  have hone := decode_encodeChar c []
  rw [List.append_nil, h] at hone
  obtain ⟨-, hnil⟩ := List.cons_eq_cons.1 hone
  cases bs with
  | nil => rfl
  | cons b bs => exact absurd hnil (decode_ne_nil b bs)

theorem starts_of_allows (hb : start b.toNat = ([], some q)) (h : Reaches q p r) (hd : r.Allows d) :
    Starts (b :: p ++ [d]) := by
  obtain ⟨ds, c, hs⟩ := exists_settles hd
  refine ⟨c, ds, ?_⟩
  rw [encodeChar_of_settles hb (settles_of_reaches h hs), List.append_assoc]
  rfl

theorem not_starts_of_not_allows (hb : start b.toNat = ([], some q)) (h : Reaches q p r)
    (hd : ¬r.Allows d) : ¬Starts (b :: p ++ [d]) := by
  rintro ⟨c, more, hc⟩
  have hread : decode (String.utf8EncodeChar c) = replacement :: decode (d :: more) := by
    rw [hc, List.append_assoc, decode_of_reaches hb h fun x hx => by cases hx; exact hd]
    rfl
  cases eq_nil_of_decode hread

theorem encodeChar_ne_of_reaches (hb : start b.toNat = ([], some q)) (hq : ∃ d, q.Allows d)
    (h : Reaches q p r) (c : Char) : String.utf8EncodeChar c ≠ b :: p := by
  intro hc
  obtain ⟨d, hd⟩ := exists_allows_of_reaches h hq
  obtain ⟨ds, x, hs⟩ := exists_settles hd
  have hx := encodeChar_of_settles hb (settles_of_reaches h hs)
  have hread : decode (String.utf8EncodeChar x) = c :: decode (d :: ds) := by
    rw [hx, ← List.cons_append, ← hc, decode_encodeChar]
  cases eq_nil_of_decode hread

theorem not_starts_of_start (hb : start b.toNat = ([replacement], none)) : ¬Starts [b] := by
  rintro ⟨c, more, hc⟩
  have hread : decode (String.utf8EncodeChar c) = replacement :: decode more := by
    rw [hc, List.singleton_append, decode_of_settled hb]
  have hone := decode_encodeChar c []
  obtain rfl := eq_nil_of_decode hread
  rw [List.append_nil, hread] at hone
  cases hone
  -- the replacement character itself has more bytes than one
  cases hc

end Runs

/-! ### Reading any bytes -/

theorem isReading_decode (bs : Bytes) : IsReading bs (decode bs) := by
  induction hn : bs.length using Nat.strongRecOn generalizing bs with
  | ind n ih =>
  cases bs with
  | nil => exact .nil
  | cons b bs =>
    rcases start_outcomes b with ⟨c, hb, hc⟩ | hb | ⟨q, hb, hq⟩
    · rw [decode_of_settled hb]
      have hrest := IsReading.char c (ih bs.length (hn ▸ Nat.lt_succ_self _) bs rfl)
      rwa [hc] at hrest
    · rw [decode_of_settled hb]
      exact .stray (not_starts_of_start hb) (ih bs.length (hn ▸ Nat.lt_succ_self _) bs rfl)
    · rcases exists_settles_or_reaches q bs with ⟨p, rest, c, rfl, hs⟩ | ⟨p, rest, r, rfl, hr, hrest⟩
      all_goals
        have hlt : rest.length < n := by
          rw [← hn, List.length_cons, List.length_append]
          omega
        have hlater := ih rest.length hlt rest rfl
        rw [← List.cons_append]
      · rw [← encodeChar_of_settles hb hs, decode_encodeChar]
        exact .char c hlater
      · rw [decode_of_reaches hb hr hrest]
        obtain ⟨d, hd⟩ := exists_allows_of_reaches hr hq
        obtain ⟨c, more, hc⟩ := starts_of_allows hb hr hd
        exact .unfinished (List.cons_ne_nil b p) ⟨c, [d] ++ more, by rw [hc, List.append_assoc]⟩
          (encodeChar_ne_of_reaches hb hq hr)
          (fun d hd => not_starts_of_not_allows hb hr (hrest d hd)) hlater

/-- Behind a start that breaks off a character is under way. -/
theorem exists_reaches_of_starts {b : UInt8} {p : Bytes} (hstarts : Starts (b :: p))
    (hbreaks : ∀ c, String.utf8EncodeChar c ≠ b :: p) :
    ∃ q r, start b.toNat = ([], some q) ∧ Reaches q p r := by
  obtain ⟨c, more, hc⟩ := hstarts
  have hmore : more ≠ [] := fun h => hbreaks c (by rw [hc, h, List.append_nil])
  have hsettled : ∀ x, start b.toNat ≠ ([x], none) := fun x hb => by
    have hread : decode (String.utf8EncodeChar c) = x :: decode (p ++ more) := by
      rw [hc, List.cons_append, decode_of_settled hb]
    exact hmore (List.append_eq_nil_iff.1 (eq_nil_of_decode hread)).2
  rcases start_outcomes b with ⟨x, hb, -⟩ | hb | ⟨q, hb, -⟩
  · exact absurd hb (hsettled x)
  · exact absurd hb (hsettled replacement)
  · rcases exists_settles_or_reaches q p with ⟨p, rest, x, rfl, hs⟩ | ⟨p, rest, r, rfl, hr, hrest⟩
    · have hread : decode (String.utf8EncodeChar c) = x :: decode (rest ++ more) := by
        rw [hc, ← List.cons_append, ← encodeChar_of_settles hb hs, List.append_assoc, decode_encodeChar]
      exact absurd (List.append_eq_nil_iff.1 (eq_nil_of_decode hread)).2 hmore
    · cases rest with
      | nil => exact ⟨q, r, hb, by rwa [List.append_nil]⟩
      | cons d rest =>
        refine absurd ⟨c, rest ++ more, ?_⟩ (not_starts_of_not_allows hb hr (hrest d rfl))
        simp [hc]

/-- **Any bytes stand for one text**, and it is the one that is read. -/
theorem isReading_iff {bs : Bytes} {t : Text} : IsReading bs t ↔ decode bs = t := by
  refine ⟨fun h => ?_, fun h => h ▸ isReading_decode bs⟩
  induction h with
  | nil => rfl
  | char c _ ih => rw [decode_encodeChar, ih]
  | @unfinished p bs t hp hstarts hbreaks hlongest _ ih =>
    obtain ⟨b, p, rfl⟩ := List.exists_cons_of_ne_nil hp
    obtain ⟨q, r, hb, hr⟩ := exists_reaches_of_starts hstarts hbreaks
    rw [decode_of_reaches hb hr fun d hd hallows => hlongest d hd (starts_of_allows hb hr hallows), ih]
  | @stray b bs t hnone _ ih =>
    rcases start_outcomes b with ⟨c, hb, hc⟩ | hb | ⟨q, hb, d, hd⟩
    · exact absurd ⟨c, [], by rw [hc, List.append_nil]⟩ hnone
    · rw [decode_of_settled hb, ih]
    · obtain ⟨c, more, hc⟩ := starts_of_allows hb (.refl q) hd
      exact absurd ⟨c, [d] ++ more, by rw [hc, List.append_assoc]⟩ hnone

-- two of three bytes of a character, one that starts none and one in full
example : decode [0xE2, 0x82, 0xFF, 0x41] = [replacement, replacement, 'A'] := by decide

end MigrationDbml.Utf8
