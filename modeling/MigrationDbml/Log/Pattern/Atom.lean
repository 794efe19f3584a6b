import MigrationDbml.Text.Basic

/-!
# Atoms of a pattern

The smallest parts of a regular expression, and the options under which they are
read. A backslash starts an escape, which stands for one character, for a family of
characters, or for a place in the text.

Which atoms a pattern may hold depends on its options. There are no tables of
letter cases, of families or of words outside of ASCII, so what needs one is
allowed among bytes only. What matches has to consist of whole characters, so among
bytes nothing is allowed that matches a part of one.
-/

namespace MigrationDbml.Log.Pattern

/-- How a pattern is read. -/
structure Options where
  /-- Letters match in either case. -/
  ignoreCase : Bool
  /-- A match is made of characters, and not of bytes. -/
  unicode : Bool
  /-- Blanks and comments are left out. -/
  spaced : Bool
deriving DecidableEq

namespace Options

/-- The options at the start of a pattern. -/
def initial : Options := ⟨false, true, false⟩

/-- Leaves out blanks and comments, a comment that is under way first. -/
def skipFrom (comment : Bool) : Text → Text
  | [] => []
  | c :: cs =>
    if comment then skipFrom (c != '\n') cs
    else if Text.isBlank c then skipFrom false cs
    else if c = '#' then skipFrom true cs
    else c :: cs

/-- The text without blanks and comments at its start, where they are left out. -/
def skip (o : Options) (t : Text) : Text := if o.spaced then skipFrom false t else t

/-- Looks beyond blanks and the sign of one comment. -/
def peekFrom (comment : Bool) : Text → Option Char
  | [] => none
  | c :: cs =>
    if Text.isBlank c then peekFrom comment cs
    else if c = '#' ∧ !comment then peekFrom true cs
    else some c

/-- The character that comes next. A comment is passed over up to its first character. -/
def peek (o : Options) (t : Text) : Option Char := if o.spaced then peekFrom false t else t.head?

/-- What an option is set to by signs, of which those after a dash switch options off. -/
def setting (signs : Text) (sign : Char) (old : Bool) : Bool :=
  if (signs.takeWhile (· ≠ '-')).contains sign then true else old && !signs.contains sign

/-- Sets options by their signs. -/
def set (o : Options) (signs : Text) : Options :=
  ⟨setting signs 'i' o.ignoreCase, setting signs 'u' o.unicode, setting signs 'x' o.spaced⟩

/-- Whether signs set options: each of them at most once, and a dash is not the last one. -/
def areSigns (signs : Text) : Bool :=
  signs.all "imsURux-".toList.contains && decide signs.Nodup && signs.getLast? != some '-'

end Options

/-- The smallest parts of a pattern. -/
inductive Atom where
  /-- A character by its code point, which is given as a byte or not. -/
  | character (code : Nat) (byte : Bool)
  /-- The digits, the blanks or the characters of words, or all other characters. -/
  | family (negated : Bool)
  /-- A place at the edge of a word, or away from it. -/
  | wordEdge
  /-- A place at the start or the end of a line or of the text. -/
  | textEdge
  /-- Any character. -/
  | anything
deriving DecidableEq

namespace Atom

/-- The value of a hexadecimal digit. -/
def hexValue? (c : Char) : Option Nat :=
  if c.isDigit then some (c.toNat - '0'.toNat)
  else if 'a' ≤ c ∧ c ≤ 'f' then some (c.toNat - 'a'.toNat + 10)
  else if 'A' ≤ c ∧ c ≤ 'F' then some (c.toNat - 'A'.toNat + 10)
  else none

/-- Reads so many hexadecimal digits after a number. -/
def readHex? (o : Options) : Nat → Nat → Text → Option (Nat × Text)
  | 0, value, t => some (value, t)
  | n + 1, value, t =>
    match o.skip t with
    | [] => none
    | c :: cs => (hexValue? c).bind fun d => readHex? o n (0x10 * value + d) cs

/-- Reads a character that is given by so many hexadecimal digits. -/
def readCode? (o : Options) (digits : Nat) (t : Text) : Option (Atom × Text) :=
  (readHex? o digits 0 t).bind fun r =>
    if r.1.isValidChar then some (character r.1 (digits == 2), r.2) else none

/-- The control character that a letter stands for. -/
def controlOf? (c : Char) : Option Nat :=
  [('a', 0x07), ('t', 0x09), ('n', 0x0A), ('v', 0x0B), ('f', 0x0C), ('r', 0x0D)].lookup c

/-- Reads what follows a backslash. -/
def readEscape? (o : Options) : Text → Option (Atom × Text)
  | [] => none
  | c :: cs =>
    if c = 'x' then readCode? o 2 cs
    else if c = 'u' then readCode? o 4 cs
    else if c = 'U' then readCode? o 8 cs
    else if "dsw".toList.contains c then some (family false, cs)
    else if "DSW".toList.contains c then some (family true, cs)
    else if "bB<>".toList.contains c then some (wordEdge, cs)
    else if "Az".toList.contains c then some (textEdge, cs)
    else match controlOf? c with
      | some code => some (character code false, cs)
      | none =>
        if c.toNat < 0x80 ∧ !c.isAlphanum then some (character c.toNat false, cs) else none

/-- Reads an atom. -/
def read? (o : Options) : Text → Option (Atom × Text)
  | [] => none
  | c :: cs =>
    if c = '\\' then readEscape? o cs
    else if c = '.' then some (anything, cs)
    else if c = '^' ∨ c = '$' then some (textEdge, cs)
    else some (character c.toNat false, cs)

/-- Reads a character in brackets, where only the backslash is special. -/
def readMember? (o : Options) : Text → Option (Atom × Text)
  | [] => none
  | c :: cs => if c = '\\' then readEscape? o cs else some (character c.toNat false, cs)

/-- Whether an atom may stand in a pattern. -/
def isAllowed (o : Options) : Atom → Bool
  | character code byte => if o.unicode then !o.ignoreCase else !byte || code < 0x80
  | family negated => !o.unicode && !negated
  | wordEdge => !o.unicode
  | textEdge => true
  | anything => o.unicode

/-- Whether an atom may stand in brackets. -/
def isMember (o : Options) : Atom → Bool
  | character code _ => if o.unicode then !o.ignoreCase else code < 0x80
  | family negated => !o.unicode && !negated
  | _ => false

/-- Whether two atoms are the ends of a range. -/
def isRange : Atom → Atom → Bool
  | character low _, character high _ => low ≤ high
  | _, _ => false

/-- Whether two atoms are the first and the last character. -/
def isEverything : Atom → Atom → Bool
  | character low _, character high _ => low == 0 && high == 0x10FFFF
  | _, _ => false

end Atom

end MigrationDbml.Log.Pattern
