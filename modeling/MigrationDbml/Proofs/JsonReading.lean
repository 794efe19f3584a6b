import MigrationDbml.Json.Basic
import MigrationDbml.Proofs.Cuts

/-!
# Reading JSON

A reader for the JSON that reports are made of, and that it reads what was written.
A text is first cut into tokens, character by character (`Phase`, `step`), and the tokens
are then put together by a machine that keeps the arrays and objects around its place on a
stack (`Frame`, `State`). Both accept the JSON grammar and nothing else, except that a number
is natural and that `true`, `false` and `null` are no values. A code in a string has to name
a character by itself.

* `tokensFrom_prettyAt`, `tokensFrom_compact`: the texts of a value are cut into the tokens of the
  value.
* `run_tokens`: the tokens of a value are put together to the value.
* `read?_pretty`, `read?_compact`: a value is read back from its texts.
-/

namespace MigrationDbml.Json

/-! ## Tokens -/

/-- A part of a JSON text. -/
inductive Token where
  /-- A bracket, a brace, a colon or a comma. -/
  | mark (c : Char)
  | str (t : Text)
  | num (n : Nat)
  /-- A place where the text is no JSON. -/
  | fault

/-- The characters that can stand between tokens. -/
def blanks : List Char := [' ', '\t', '\n', '\r']

/-- The characters that are tokens. -/
def marks : List Char := ['[', ']', '\x7b', '\x7d', ':', ',']

/-- Where a reader is in a text: between two tokens, or in one of which it has read a part. -/
inductive Phase where
  | between
  | number (digits : Text)
  | string (before : Text)
  /-- Behind a backslash in a string. -/
  | escaped (before : Text)
  /-- In the hexadecimal digits of a code in a string. -/
  | code (before : Text) (missing : Nat) (value : Nat)

/-- The character that a letter stands for behind a backslash. -/
def unescape? : Char → Option Char
  | '"' => some '"'
  | '\\' => some '\\'
  | '/' => some '/'
  | 'b' => some '\x08'
  | 'f' => some '\x0c'
  | 'n' => some '\n'
  | 'r' => some '\r'
  | 't' => some '\t'
  | _ => none

/-- The value of a hexadecimal digit. -/
def hexDigit? (c : Char) : Option Nat :=
  if '0' ≤ c ∧ c ≤ '9' then some (c.toNat - '0'.toNat)
  else if 'a' ≤ c ∧ c ≤ 'f' then some (c.toNat - 'a'.toNat + 10)
  else if 'A' ≤ c ∧ c ≤ 'F' then some (c.toNat - 'A'.toNat + 10)
  else none

/-- Reads a character between two tokens. -/
def start (c : Char) : List Token × Phase :=
  if c ∈ blanks then ([], .between)
  else if c ∈ marks then ([.mark c], .between)
  else if c = '"' then ([], .string [])
  else if c.isDigit then ([], .number [c])
  else ([.fault], .between)

/-- Reads a character: the tokens that end before or with it, and where the reader is then. -/
def step : Phase → Char → List Token × Phase
  | .between, c => start c
  | .number digits, c =>
    if c.isDigit then
      if digits = ['0'] then ([.fault], .between) else ([], .number (digits ++ [c]))
    else (.num (Nat.ofDigitChars 10 digits 0) :: (start c).1, (start c).2)
  | .string t, c =>
    if c = '"' then ([.str t], .between)
    else if c = '\\' then ([], .escaped t)
    else if c.toNat < 0x20 then ([.fault], .between)
    else ([], .string (t ++ [c]))
  | .escaped t, c =>
    if c = 'u' then ([], .code t 4 0)
    else match unescape? c with
      | some d => ([], .string (t ++ [d]))
      | none => ([.fault], .between)
  | .code t missing value, c =>
    match hexDigit? c with
    | none => ([.fault], .between)
    | some d =>
      if 1 < missing then ([], .code t (missing - 1) (16 * value + d))
      else if (16 * value + d).isValidChar then ([], .string (t ++ [Char.ofNat (16 * value + d)]))
      else ([.fault], .between)

/-- The tokens that end with the text. -/
def Phase.last : Phase → List Token
  | between => []
  | number digits => [.num (Nat.ofDigitChars 10 digits 0)]
  | _ => [.fault]

/-- The tokens of the rest of a text. -/
def tokensFrom (p : Phase) : Text → List Token
  | [] => p.last
  | c :: cs => (step p c).1 ++ tokensFrom (step p c).2 cs

/-! ## Values -/

/-- An array or an object around a place, with what was read of it. -/
inductive Frame where
  | items (before : List Json)
  /-- An object in front of the value of the member with a name. -/
  | member (before : List (Text × Json)) (name : Text)

/-- What a reader expects next, in the frames around it. -/
inductive State where
  | value (frames : List Frame)
  /-- The first item of an array, or its end. -/
  | firstItem (frames : List Frame)
  /-- The name of the first member of an object, or its end. -/
  | firstName (frames : List Frame)
  | name (before : List (Text × Json)) (frames : List Frame)
  | colon (before : List (Text × Json)) (name : Text) (frames : List Frame)
  /-- What can follow a value. -/
  | after (v : Json) (frames : List Frame)

/-- Reads a token where a value is expected. -/
def State.ofValue (frames : List Frame) : Token → Option State
  | .str t => some (.after (.str t) frames)
  | .num n => some (.after (.num n) frames)
  | .mark '[' => some (.firstItem frames)
  | .mark '\x7b' => some (.firstName frames)
  | _ => none

/-- Reads a token. -/
def State.next? : State → Token → Option State
  | value frames, t => ofValue frames t
  | firstItem frames, .mark ']' => some (after (.arr []) frames)
  | firstItem frames, t => ofValue (.items [] :: frames) t
  | firstName frames, .mark '\x7d' => some (after (.obj []) frames)
  | firstName frames, .str n => some (colon [] n frames)
  | name ms frames, .str n => some (colon ms n frames)
  | colon ms n frames, .mark ':' => some (value (.member ms n :: frames))
  | after v (.items vs :: frames), .mark ',' => some (value (.items (vs ++ [v]) :: frames))
  | after v (.items vs :: frames), .mark ']' => some (after (.arr (vs ++ [v])) frames)
  | after v (.member ms n :: frames), .mark ',' => some (name (ms ++ [(n, v)]) frames)
  | after v (.member ms n :: frames), .mark '\x7d' => some (after (.obj (ms ++ [(n, v)])) frames)
  | _, _ => none

/-- Reads tokens to the end, where one value has to be complete. -/
def run : State → List Token → Option Json
  | .after v [], [] => some v
  | _, [] => none
  | s, t :: ts => (s.next? t).bind fun s => run s ts

/-- Reads a JSON text. -/
def read? (t : Text) : Option Json := run (.value []) (tokensFrom .between t)

/-! ## The tokens of a value -/

mutual

/-- The tokens of a value. -/
def tokens : Json → List Token
  | str t => [.str t]
  | num n => [.num n]
  | arr items => .mark '[' :: itemTokens items ++ [.mark ']']
  | obj members => .mark '\x7b' :: memberTokens members ++ [.mark '\x7d']

/-- The tokens of the items of an array. -/
def itemTokens : List Json → List Token
  | [] => []
  | [v] => tokens v
  | v :: vs => tokens v ++ .mark ',' :: itemTokens vs

/-- The tokens of the members of an object. -/
def memberTokens : List (Text × Json) → List Token
  | [] => []
  | [m] => .str m.1 :: .mark ':' :: tokens m.2
  | m :: ms => .str m.1 :: .mark ':' :: tokens m.2 ++ .mark ',' :: memberTokens ms

end

/-! ## What is written is read -/

section Texts

variable {r : Text} {c : Char}

theorem tokensFrom_cons (p : Phase) (c : Char) (r : Text) :
    tokensFrom p (c :: r) = (step p c).1 ++ tokensFrom (step p c).2 r := rfl

@[simp] theorem tokensFrom_mark (h : c ∈ marks) (r : Text) :
    tokensFrom .between (c :: r) = .mark c :: tokensFrom .between r := by
  have hblanks : ∀ d ∈ marks, d ∉ blanks := by decide
  rw [tokensFrom_cons, step, start, if_neg (hblanks c h), if_pos h]
  rfl

@[simp] theorem tokensFrom_blank (h : c ∈ blanks) (r : Text) :
    tokensFrom .between (c :: r) = tokensFrom .between r := by
  rw [tokensFrom_cons, step, start, if_pos h]
  rfl

@[simp] theorem tokensFrom_newline (level : Nat) (r : Text) :
    tokensFrom .between (newline level ++ r) = tokensFrom .between r := by
  have hspaces : ∀ n, tokensFrom .between (List.replicate n ' ' ++ r) = tokensFrom .between r := by
    intro n
    induction n with
    | zero => rfl
    | succ n ih => rw [List.replicate_succ, List.cons_append, tokensFrom_blank (by decide), ih]
  rw [newline, List.cons_append, tokensFrom_blank (by decide), hspaces]

theorem tokensFrom_unescape (t r : Text) {letter d : Char} (h : unescape? letter = some d) :
    tokensFrom (.string t) ('\\' :: letter :: r) = tokensFrom (.string (t ++ [d])) r := by
  have hu : letter ≠ 'u' := by
    rintro rfl
    cases h
  have hstep : step (.escaped t) letter = ([], .string (t ++ [d])) := by
    rw [step, if_neg hu, h]
  rw [tokensFrom_cons, tokensFrom_cons]
  change [] ++ ((step (.escaped t) letter).1 ++ tokensFrom (step (.escaped t) letter).2 r) = _
  rw [hstep]
  rfl

theorem hexDigit?_digitChar : ∀ n < 16, hexDigit? (Nat.digitChar n) = some n := by decide

/-- A code of two digits is read back. -/
theorem tokensFrom_code (t r : Text) {n : Nat} (hn : n < 0x20) :
    tokensFrom (.string t) ('\\' :: 'u' :: '0' :: '0' :: Nat.digitChar (n / 16) ::
      Nat.digitChar (n % 16) :: r) = tokensFrom (.string (t ++ [Char.ofNat n])) r := by
  have hhigh : hexDigit? (Nat.digitChar (n / 16)) = some (n / 16) :=
    hexDigit?_digitChar _ (by omega)
  have hlow : hexDigit? (Nat.digitChar (n % 16)) = some (n % 16) :=
    hexDigit?_digitChar _ (by omega)
  have hthird : step (.code t 2 0) (Nat.digitChar (n / 16)) = ([], .code t 1 (n / 16)) := by
    simp [step, hhigh]
  have hvalue : 16 * (n / 16) + n % 16 = n := by omega
  have hvalid : n.isValidChar := .inl (by omega)
  have hlast : step (.code t 1 (n / 16)) (Nat.digitChar (n % 16)) =
      ([], .string (t ++ [Char.ofNat n])) := by
    simp [step, hlow, hvalue, hvalid]
  have hlead : tokensFrom (.string t) ('\\' :: 'u' :: '0' :: '0' :: Nat.digitChar (n / 16) ::
      Nat.digitChar (n % 16) :: r) =
        tokensFrom (.code t 2 0) (Nat.digitChar (n / 16) :: Nat.digitChar (n % 16) :: r) := rfl
  rw [hlead, tokensFrom_cons, hthird, List.nil_append, tokensFrom_cons, hlast, List.nil_append]

/-- A character is read back from what it is written as. -/
theorem tokensFrom_escape (t : Text) (c : Char) (r : Text) :
    tokensFrom (.string t) (escape c ++ r) = tokensFrom (.string (t ++ [c])) r := by
  unfold escape
  by_cases hquote : c = '"'
  · subst hquote; exact tokensFrom_unescape t r rfl
  by_cases hslash : c = '\\'
  · subst hslash; exact tokensFrom_unescape t r rfl
  rw [if_neg hquote, if_neg hslash]
  split_ifs with hb hf hn hr ht hcontrol
  · subst hb; exact tokensFrom_unescape t r rfl
  · subst hf; exact tokensFrom_unescape t r rfl
  · subst hn; exact tokensFrom_unescape t r rfl
  · subst hr; exact tokensFrom_unescape t r rfl
  · subst ht; exact tokensFrom_unescape t r rfl
  · have h := tokensFrom_code t r hcontrol
    rw [Char.ofNat_toNat] at h
    exact h
  · rw [List.singleton_append, tokensFrom_cons, step, if_neg hquote, if_neg hslash, if_neg hcontrol]
    rfl

/-- **A string is read back.** -/
@[simp] theorem tokensFrom_quoted (t r : Text) :
    tokensFrom .between (quoted t ++ r) = .str t :: tokensFrom .between r := by
  have hbody : ∀ s, tokensFrom (.string s) (t.flatMap escape ++ '"' :: r) =
      .str (s ++ t) :: tokensFrom .between r := by
    induction t with
    | nil =>
      intro s
      rw [List.append_nil]
      rfl
    | cons c t ih =>
      intro s
      rw [List.flatMap_cons, List.append_assoc, tokensFrom_escape, ih, List.append_assoc]
      rfl
  have htext : quoted t ++ r = '"' :: (t.flatMap escape ++ '"' :: r) := by simp [quoted]
  rw [htext, tokensFrom_cons]
  exact hbody []

/-- Whether a text does not go on with a digit, so that a number in front of it ends there. -/
def EndsNumber (r : Text) : Prop := ∀ c, r.head? = some c → c.isDigit = false

/-- The digits of a number do not start with a zero unless it is zero. -/
theorem ofNat_eq_zero_of_head? (n : Nat) (h : (Text.ofNat n).head? = some '0') :
    Text.ofNat n = ['0'] := by
  induction n using Nat.strongRecOn with
  | ind n ih =>
    unfold Text.ofNat at h ⊢
    by_cases hn : n < 10
    · rw [Nat.toDigits_of_lt_base hn] at h ⊢
      rw [Option.some.inj h]
    · rw [Nat.toDigits_of_base_le (by omega) (by omega), List.head?_append_of_ne_nil _
        Nat.toDigits_ne_nil] at h
      -- the leading digits would be zero, but they are those of a tenth of the number
      have hzero := ih (n / 10) (by omega) h
      have hvalue : Nat.ofDigitChars 10 (Nat.toDigits 10 (n / 10)) 0 = n / 10 :=
        Nat.ofDigitChars_toDigits (by omega) (by omega)
      unfold Text.ofNat at hzero
      rw [hzero] at hvalue
      have : Nat.ofDigitChars 10 ['0'] 0 = 0 := rfl
      omega

theorem tokensFrom_digits {ds es : Text} (hds : ds ≠ []) (hes : ∀ c ∈ es, c.isDigit = true)
    (hzero : (ds ++ es).head? = some '0' → ds ++ es = ['0']) (hr : EndsNumber r) :
    tokensFrom (.number ds) (es ++ r) =
      .num (Nat.ofDigitChars 10 (ds ++ es) 0) :: tokensFrom .between r := by
  induction es generalizing ds with
  | nil =>
    rw [List.append_nil, List.nil_append]
    cases r with
    | nil => rfl
    | cons c r =>
      have hc : c.isDigit = false := hr c rfl
      rw [tokensFrom_cons, step, if_neg (by rw [hc]; decide)]
      rfl
  | cons e es ih =>
    have hne : ds ≠ ['0'] := by
      rintro rfl
      have := hzero rfl
      simp at this
    have hstep : step (.number ds) e = ([], .number (ds ++ [e])) := by
      rw [step, if_pos (hes e List.mem_cons_self), if_neg hne]
    have hassoc : ds ++ e :: es = ds ++ [e] ++ es := by simp
    rw [hassoc] at hzero ⊢
    rw [List.cons_append, tokensFrom_cons, hstep, List.nil_append]
    exact ih (by simp) (fun c hc => hes c (List.mem_cons_of_mem e hc)) hzero

theorem start_digit (h : c.isDigit = true) : start c = ([], .number [c]) := by
  have hblanks : ∀ d ∈ blanks, d.isDigit = false := by decide
  have hmarks : ∀ d ∈ marks, d.isDigit = false := by decide
  have hblank : c ∉ blanks := fun hc => by rw [hblanks c hc] at h; cases h
  have hmark : c ∉ marks := fun hc => by rw [hmarks c hc] at h; cases h
  have hquote : c ≠ '"' := by rintro rfl; cases h
  rw [start, if_neg hblank, if_neg hmark, if_neg hquote, if_pos h]

/-- **A number is read back** in front of anything but a digit. -/
theorem tokensFrom_ofNat (n : Nat) (hr : EndsNumber r) :
    tokensFrom .between (Text.ofNat n ++ r) = .num n :: tokensFrom .between r := by
  have hdigit : ∀ c ∈ Text.ofNat n, c.isDigit = true :=
    fun c hc => Nat.isDigit_of_mem_toDigits (by omega) (by omega) hc
  have hvalue : Nat.ofDigitChars 10 (Text.ofNat n) 0 = n :=
    Nat.ofDigitChars_toDigits (by omega) (by omega)
  have hzero := ofNat_eq_zero_of_head? n
  cases hds : Text.ofNat n with
  | nil => exact absurd hds Nat.toDigits_ne_nil
  | cons d ds =>
    rw [hds] at hdigit hvalue hzero
    have hd : d.isDigit = true := hdigit d List.mem_cons_self
    rw [List.cons_append, tokensFrom_cons, step, start_digit hd, List.nil_append,
      tokensFrom_digits (List.cons_ne_nil d [])
        (fun c hc => hdigit c (List.mem_cons_of_mem d hc)) hzero hr,
      List.singleton_append, hvalue]

theorem endsNumber_nil : EndsNumber [] := by
  intro d hd
  cases hd

theorem endsNumber_cons (h : c.isDigit = false) (r : Text) : EndsNumber (c :: r) := by
  intro d hd
  cases hd
  exact h

theorem endsNumber_newline (level : Nat) (r : Text) : EndsNumber (newline level ++ r) :=
  endsNumber_cons (by decide) _

end Texts

mutual

/-- **The pretty text of a value is cut into its tokens.** -/
theorem tokensFrom_prettyAt (level : Nat) (v : Json) {r : Text} (hr : EndsNumber r) :
    tokensFrom .between (prettyAt level v ++ r) = v.tokens ++ tokensFrom .between r := by
  match v with
  | str t => rw [prettyAt, tokensFrom_quoted, tokens, List.singleton_append]
  | num n => rw [prettyAt, tokensFrom_ofNat n hr, tokens, List.singleton_append]
  | arr [] => rfl
  | obj [] => rfl
  | arr (v :: vs) =>
    have hitems := tokensFrom_prettyItems (level + 1) (v :: vs)
      (endsNumber_newline level (']' :: r))
    rw [tokensFrom_newline, tokensFrom_mark (by decide)] at hitems
    have htext : prettyAt level (arr (v :: vs)) ++ r =
        '[' :: (prettyItems (level + 1) (v :: vs) ++ (newline level ++ ']' :: r)) := by
      simp [prettyAt]
    rw [htext, tokensFrom_mark (by decide), hitems]
    simp [tokens]
  | obj (m :: ms) =>
    have hmembers := tokensFrom_prettyMembers (level + 1) (m :: ms)
      (endsNumber_newline level ('\x7d' :: r))
    rw [tokensFrom_newline, tokensFrom_mark (by decide)] at hmembers
    have htext : prettyAt level (obj (m :: ms)) ++ r =
        '\x7b' :: (prettyMembers (level + 1) (m :: ms) ++ (newline level ++ '\x7d' :: r)) := by
      simp [prettyAt]
    rw [htext, tokensFrom_mark (by decide), hmembers]
    simp [tokens]

theorem tokensFrom_prettyItems (level : Nat) (vs : List Json) {r : Text} (hr : EndsNumber r) :
    tokensFrom .between (prettyItems level vs ++ r) = itemTokens vs ++ tokensFrom .between r := by
  match vs with
  | [] => rfl
  | [v] =>
    rw [prettyItems, List.append_assoc, tokensFrom_newline, tokensFrom_prettyAt level v hr, itemTokens]
  | v :: w :: vs =>
    have hrest := tokensFrom_prettyItems level (w :: vs) hr
    have hfirst := tokensFrom_prettyAt level v
      (endsNumber_cons (by decide) (prettyItems level (w :: vs) ++ r) : EndsNumber (',' :: _))
    rw [tokensFrom_mark (by decide), hrest] at hfirst
    have htext : prettyItems level (v :: w :: vs) ++ r =
        newline level ++ (prettyAt level v ++ ',' :: (prettyItems level (w :: vs) ++ r)) := by
      simp [prettyItems]
    rw [htext, tokensFrom_newline, hfirst]
    simp [itemTokens]

theorem tokensFrom_prettyMembers (level : Nat) (ms : List (Text × Json)) {r : Text}
    (hr : EndsNumber r) : tokensFrom .between (prettyMembers level ms ++ r) =
      memberTokens ms ++ tokensFrom .between r := by
  match ms with
  | [] => rfl
  | [(n, v)] =>
    have htext : prettyMembers level [(n, v)] ++ r =
        newline level ++ (quoted n ++ ':' :: ' ' :: (prettyAt level v ++ r)) := by
      simp [prettyMembers]
    rw [htext, tokensFrom_newline, tokensFrom_quoted, tokensFrom_mark (by decide),
      tokensFrom_blank (by decide), tokensFrom_prettyAt level v hr]
    rfl
  | (n, v) :: k :: ms =>
    have hrest := tokensFrom_prettyMembers level (k :: ms) hr
    have hfirst := tokensFrom_prettyAt level v
      (endsNumber_cons (by decide) (prettyMembers level (k :: ms) ++ r) : EndsNumber (',' :: _))
    rw [tokensFrom_mark (by decide), hrest] at hfirst
    have htext : prettyMembers level ((n, v) :: k :: ms) ++ r = newline level ++ (quoted n ++
        ':' :: ' ' :: (prettyAt level v ++ ',' :: (prettyMembers level (k :: ms) ++ r))) := by
      simp [prettyMembers]
    rw [htext, tokensFrom_newline, tokensFrom_quoted, tokensFrom_mark (by decide),
      tokensFrom_blank (by decide), hfirst]
    simp [memberTokens]

end

mutual

/-- **The compact text of a value is cut into its tokens.** -/
theorem tokensFrom_compact (v : Json) {r : Text} (hr : EndsNumber r) :
    tokensFrom .between (compact v ++ r) = v.tokens ++ tokensFrom .between r := by
  match v with
  | str t => rw [compact, tokensFrom_quoted, tokens, List.singleton_append]
  | num n => rw [compact, tokensFrom_ofNat n hr, tokens, List.singleton_append]
  | arr vs =>
    have hitems := tokensFrom_compactItems vs (endsNumber_cons (by decide) r : EndsNumber (']' :: r))
    rw [tokensFrom_mark (by decide)] at hitems
    have htext : compact (arr vs) ++ r = '[' :: (compactItems vs ++ ']' :: r) := by simp [compact]
    rw [htext, tokensFrom_mark (by decide), hitems]
    simp [tokens]
  | obj ms =>
    have hmembers := tokensFrom_compactMembers ms
      (endsNumber_cons (by decide) r : EndsNumber ('\x7d' :: r))
    rw [tokensFrom_mark (by decide)] at hmembers
    have htext : compact (obj ms) ++ r = '\x7b' :: (compactMembers ms ++ '\x7d' :: r) := by
      simp [compact]
    rw [htext, tokensFrom_mark (by decide), hmembers]
    simp [tokens]

theorem tokensFrom_compactItems (vs : List Json) {r : Text} (hr : EndsNumber r) :
    tokensFrom .between (compactItems vs ++ r) = itemTokens vs ++ tokensFrom .between r := by
  match vs with
  | [] => rfl
  | [v] => rw [compactItems, tokensFrom_compact v hr, itemTokens]
  | v :: w :: vs =>
    have hrest := tokensFrom_compactItems (w :: vs) hr
    have hfirst := tokensFrom_compact v
      (endsNumber_cons (by decide) (compactItems (w :: vs) ++ r) : EndsNumber (',' :: _))
    rw [tokensFrom_mark (by decide), hrest] at hfirst
    have htext : compactItems (v :: w :: vs) ++ r =
        compact v ++ ',' :: (compactItems (w :: vs) ++ r) := by
      simp [compactItems]
    rw [htext, hfirst]
    simp [itemTokens]

theorem tokensFrom_compactMembers (ms : List (Text × Json)) {r : Text} (hr : EndsNumber r) :
    tokensFrom .between (compactMembers ms ++ r) = memberTokens ms ++ tokensFrom .between r := by
  match ms with
  | [] => rfl
  | [(n, v)] =>
    have htext : compactMembers [(n, v)] ++ r = quoted n ++ ':' :: (compact v ++ r) := by
      simp [compactMembers]
    rw [htext, tokensFrom_quoted, tokensFrom_mark (by decide), tokensFrom_compact v hr]
    rfl
  | (n, v) :: k :: ms =>
    have hrest := tokensFrom_compactMembers (k :: ms) hr
    have hfirst := tokensFrom_compact v
      (endsNumber_cons (by decide) (compactMembers (k :: ms) ++ r) : EndsNumber (',' :: _))
    rw [tokensFrom_mark (by decide), hrest] at hfirst
    have htext : compactMembers ((n, v) :: k :: ms) ++ r =
        quoted n ++ ':' :: (compact v ++ ',' :: (compactMembers (k :: ms) ++ r)) := by
      simp [compactMembers]
    rw [htext, tokensFrom_quoted, tokensFrom_mark (by decide), hfirst]
    simp [memberTokens]

end

/-! ## Tokens are put together -/

/-- A name and a colon lead to the value of the member. -/
theorem run_name (before : List (Text × Json)) (n : Text) (fs : List Frame) (ts : List Token) :
    run (.name before fs) (.str n :: .mark ':' :: ts) = run (.value (.member before n :: fs)) ts := rfl

/-- The first item of an array is read as a value, since no value starts with the end of one. -/
theorem run_firstItem (v : Json) (vs : List Json) (fs : List Frame) (ts : List Token) :
    run (.firstItem fs) (itemTokens (v :: vs) ++ ts) =
      run (.value (.items [] :: fs)) (itemTokens (v :: vs) ++ ts) := by
  cases vs <;> cases v <;> rfl

/-- The first member of an object is read as any other one. -/
theorem run_firstName (m : Text × Json) (ms : List (Text × Json)) (fs : List Frame)
    (ts : List Token) : run (.firstName fs) (memberTokens (m :: ms) ++ ts) =
      run (.name [] fs) (memberTokens (m :: ms) ++ ts) := by
  cases ms <;> rfl

mutual

/-- **The tokens of a value are put together to the value.** -/
theorem run_tokens (v : Json) (fs : List Frame) (ts : List Token) :
    run (.value fs) (v.tokens ++ ts) = run (.after v fs) ts := by
  match v with
  | str t => rfl
  | num n => rfl
  | arr [] => rfl
  | obj [] => rfl
  | arr (v :: vs) =>
    have htokens : (arr (v :: vs)).tokens ++ ts =
        .mark '[' :: (itemTokens (v :: vs) ++ .mark ']' :: ts) := by
      simp [tokens]
    have hopen : run (.value fs) (.mark '[' :: (itemTokens (v :: vs) ++ .mark ']' :: ts)) =
        run (.firstItem fs) (itemTokens (v :: vs) ++ .mark ']' :: ts) := rfl
    rw [htokens, hopen, run_firstItem, run_itemTokens [] (v :: vs) (List.cons_ne_nil v vs) fs ts,
      List.nil_append]
  | obj (m :: ms) =>
    have htokens : (obj (m :: ms)).tokens ++ ts =
        .mark '\x7b' :: (memberTokens (m :: ms) ++ .mark '\x7d' :: ts) := by
      simp [tokens]
    have hopen : run (.value fs) (.mark '\x7b' :: (memberTokens (m :: ms) ++ .mark '\x7d' :: ts)) =
        run (.firstName fs) (memberTokens (m :: ms) ++ .mark '\x7d' :: ts) := rfl
    rw [htokens, hopen, run_firstName, run_memberTokens [] (m :: ms) (List.cons_ne_nil m ms) fs ts,
      List.nil_append]

theorem run_itemTokens (before vs : List Json) (hvs : vs ≠ []) (fs : List Frame)
    (ts : List Token) : run (.value (.items before :: fs)) (itemTokens vs ++ .mark ']' :: ts) =
      run (.after (.arr (before ++ vs)) fs) ts := by
  match vs with
  | [] => exact absurd rfl hvs
  | [v] =>
    rw [itemTokens, run_tokens v]
    rfl
  | v :: w :: vs =>
    have htokens : itemTokens (v :: w :: vs) ++ .mark ']' :: ts =
        v.tokens ++ .mark ',' :: (itemTokens (w :: vs) ++ .mark ']' :: ts) := by
      simp [itemTokens]
    have hcomma : run (.after v (.items before :: fs))
        (.mark ',' :: (itemTokens (w :: vs) ++ .mark ']' :: ts)) =
          run (.value (.items (before ++ [v]) :: fs)) (itemTokens (w :: vs) ++ .mark ']' :: ts) := rfl
    rw [htokens, run_tokens v, hcomma,
      run_itemTokens (before ++ [v]) (w :: vs) (List.cons_ne_nil w vs) fs ts,
      List.append_assoc, List.singleton_append]

theorem run_memberTokens (before ms : List (Text × Json)) (hms : ms ≠ []) (fs : List Frame)
    (ts : List Token) : run (.name before fs) (memberTokens ms ++ .mark '\x7d' :: ts) =
      run (.after (.obj (before ++ ms)) fs) ts := by
  match ms with
  | [] => exact absurd rfl hms
  | [(n, v)] =>
    have htokens : memberTokens [(n, v)] ++ .mark '\x7d' :: ts =
        .str n :: .mark ':' :: (v.tokens ++ .mark '\x7d' :: ts) := by
      simp [memberTokens]
    rw [htokens, run_name, run_tokens v]
    rfl
  | (n, v) :: k :: ms =>
    have htokens : memberTokens ((n, v) :: k :: ms) ++ .mark '\x7d' :: ts = .str n :: .mark ':' ::
        (v.tokens ++ .mark ',' :: (memberTokens (k :: ms) ++ .mark '\x7d' :: ts)) := by
      simp [memberTokens]
    have hcomma : run (.after v (.member before n :: fs))
        (.mark ',' :: (memberTokens (k :: ms) ++ .mark '\x7d' :: ts)) =
          run (.name (before ++ [(n, v)]) fs) (memberTokens (k :: ms) ++ .mark '\x7d' :: ts) := rfl
    rw [htokens, run_name, run_tokens v, hcomma,
      run_memberTokens (before ++ [(n, v)]) (k :: ms) (List.cons_ne_nil k ms) fs ts,
      List.append_assoc, List.singleton_append]

end

theorem read?_of_tokens {t : Text} {v : Json} (h : tokensFrom .between t = v.tokens) :
    read? t = some v := by
  have hrun := run_tokens v [] []
  rw [List.append_nil] at hrun
  rw [read?, h, hrun]
  rfl

/-- **A value is read back from its pretty text.** -/
theorem read?_pretty (v : Json) : read? (pretty v) = some v := by
  have htokens := tokensFrom_prettyAt 0 v endsNumber_nil
  have hlast : tokensFrom .between [] = [] := rfl
  rw [hlast, List.append_nil, List.append_nil] at htokens
  exact read?_of_tokens htokens

/-- **A value is read back from its compact text.** -/
theorem read?_compact (v : Json) : read? (compact v) = some v := by
  have htokens := tokensFrom_compact v endsNumber_nil
  have hlast : tokensFrom .between [] = [] := rfl
  rw [hlast, List.append_nil, List.append_nil] at htokens
  exact read?_of_tokens htokens

end MigrationDbml.Json
