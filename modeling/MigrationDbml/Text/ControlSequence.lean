import MigrationDbml.Text.Basic
import MigrationDbml.Text.Utf8

/-!
# Control sequences

Texts that may hold commands to a terminal, and the same texts without them.
A command starts with the escape character. What it consists of then decides where
it ends, and two control characters break off any command. Other control
characters are dropped, except for blanks. A blank inside of a command suspends it:
what follows is shown, up to the next control character, where the command goes on,
unless a character outside of ASCII has ended it. Blanks in a string and in the
lead of a string to a device are dropped.
-/

namespace MigrationDbml.ControlSequence

/-- Where a reader of commands stands. -/
inductive Place where
  /-- Outside of commands. -/
  | text
  /-- Right after the escape character. -/
  | escape
  /-- After the escape character and signs that do not end the command. -/
  | signs
  /-- In a command with parameters, which a letter or a sign after the digits ends. -/
  | parameters
  /-- In a command to the operating system, which a bell ends. -/
  | title
  /-- In a string, which the byte `9C` ends. -/
  | string
  /-- Right after the start of a string to a device, which parameters and signs may lead. -/
  | deviceStart
  /-- In the parameters of a string to a device. -/
  | deviceParameters
  /-- In the signs that lead a string to a device. -/
  | deviceSigns
deriving DecidableEq

/-- Whether a character gives a command by itself and shows nothing. -/
def isControl (c : Char) : Bool := c.toNat < 0x20 || c.toNat == 0x7F

/-- Whether a control character is a blank: a tab, a line feed, a form feed or a carriage return. -/
def isBlankControl (c : Char) : Bool := ['\t', '\n', '\x0c', '\r'].contains c

/-- Whether a character is in a range of code points. -/
def between (low high : Nat) (c : Char) : Bool := low ≤ c.toNat && c.toNat ≤ high

/-- Where the character after an escape character leads. -/
def afterEscape (c : Char) : Place :=
  if c = '[' then .parameters
  else if c = ']' then .title
  else if c = 'P' then .deviceStart
  else if c = 'X' ∨ c = '^' ∨ c = '_' then .string
  else if between 0x20 0x2F c then .signs
  else if between 0x30 0x7E c then .text
  else .escape

/-- Where a character leads that is part of a command. -/
def inside (p : Place) (c : Char) : Place :=
  match p with
  | .text => .text
  | .escape => afterEscape c
  | .signs => if between 0x30 0x7E c then .text else .signs
  | .parameters => if between 0x40 0x7E c then .text else .parameters
  | .title => if c = '\x07' then .text else .title
  | .string => if (Utf8.encode [c]).contains 0x9C then .text else .string
  | .deviceStart =>
    if between 0x20 0x2F c then .deviceSigns
    else if between 0x30 0x3F c then .deviceParameters
    else if between 0x40 0x7E c then .string
    else .deviceStart
  | .deviceParameters =>
    if between 0x20 0x2F c then .deviceSigns
    else if between 0x3C 0x7E c then .string
    else .deviceParameters
  | .deviceSigns => if between 0x30 0x7E c then .string else .deviceSigns

/-- Whether a blank suspends a command that a reader is in. -/
def yieldsToBlank : Place → Bool
  | .text | .escape | .signs | .parameters => true
  | _ => false

/-- Reads a character, after one that is shown or not: where it leads, and whether it is shown. -/
def step (p : Place) (shown : Bool) (c : Char) : Place × Bool :=
  if c = '\x1b' then (.escape, false)
  else if c = '\x18' ∨ c = '\x1a' then (.text, false)
  else if isBlankControl c then (p, yieldsToBlank p)
  else if shown ∧ !isControl c then (if c.toNat < 0x80 then p else .text, true)
  else if p = .text then (.text, !isControl c)
  else (inside p c, false)

/-- The text after a place and a character that is shown or not, without commands. -/
def stripFrom (p : Place) (shown : Bool) : Text → Text
  | [] => []
  | c :: cs =>
    let s := step p shown c
    if s.2 then c :: stripFrom s.1 true cs else stripFrom s.1 false cs

/-- The text without commands and control characters. -/
def strip (t : Text) : Text := stripFrom .text true t

/-- A text in the style that codes stand for, such as `1` for bold and `4` for underlined. -/
def styled (codes : List Text) (t : Text) : Text :=
  codes.flatMap (fun code => "\x1b[".toList ++ code ++ ['m']) ++ t ++ "\x1b[0m".toList

end MigrationDbml.ControlSequence
