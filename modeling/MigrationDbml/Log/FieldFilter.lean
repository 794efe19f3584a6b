import MigrationDbml.Log.Pattern.Basic

/-!
# Field filters

What a log setting says about a field of an event: that there is one of a name, or
that it has a value. A value is a number or a pattern. All numbers are patterns as
well, except for those with a plus sign.
-/

namespace MigrationDbml.Log

/-- A field that an event has to have, with a value that it has to have or not. -/
structure FieldFilter where
  name : Text
  valued : Bool
deriving DecidableEq

/-- Whether a text consists of digits. -/
def isDigits (t : Text) : Bool := !t.isEmpty && t.all Char.isDigit

/-- Whether a text is a number without a sign: infinite, none at all, or digits, which may hold a
point and have an exponent. -/
def isUnsignedNumber (t : Text) : Bool :=
  let isExponentSign (c : Char) : Bool := c == 'e' || c == 'E'
  let mantissa := t.takeWhile fun c => !isExponentSign c
  let exponent := match (t.dropWhile fun c => !isExponentSign c).tail? with
    | some ('+' :: ds) => some ds
    | some ('-' :: ds) => some ds
    | ds => ds
  ["inf".toList, "infinity".toList, "nan".toList].contains (t.map Char.toLower)
    || isDigits (mantissa.filter (· != '.')) && mantissa.count '.' ≤ 1 && exponent.all isDigits

/-- Whether a text can be the value of a field. -/
def isFieldValue (t : Text) : Bool :=
  (t.head? == some '+' && isUnsignedNumber t.tail) || Pattern.isWellFormed t

/-- Reads a field filter: a name, and after an equals sign a value. What follows a second equals
sign is left out. -/
def FieldFilter.parse? (t : Text) : Option FieldFilter :=
  match t.splitOn '=' with
  | name :: value :: _ => if isFieldValue value then some ⟨name, true⟩ else none
  | _ => some ⟨t, false⟩

end MigrationDbml.Log
