import MigrationDbml.Statement
import MigrationDbml.Warning

/-!
# Events

What happens during a run, as events with a level each. A log that is open up to
a level shows the events of that level and of the more severe ones.
-/

namespace MigrationDbml.Log

/-- How severe an event is. -/
inductive Level where
  | error
  | warn
  | info
  | debug
  | trace
deriving DecidableEq

namespace Level

/-- The rank of a level, less severe levels above more severe ones. -/
def rank : Level → Nat
  | error => 1
  | warn => 2
  | info => 3
  | debug => 4
  | trace => 5

/-- The name of a level. -/
def name : Level → Text
  | error => "error".toList
  | warn => "warn".toList
  | info => "info".toList
  | debug => "debug".toList
  | trace => "trace".toList

/-- The name of a level at the start of a log line, five characters wide. -/
def label : Level → Text
  | error => "ERROR".toList
  | warn => " WARN".toList
  | info => " INFO".toList
  | debug => "DEBUG".toList
  | trace => "TRACE".toList

/-- Every level once. -/
def all : List Level := [error, warn, info, debug, trace]

end Level

/-- Something that happens during a run. -/
inductive Event where
  | readingSource (path : Text)
  | classified (line : Nat) (statement : Statement) (params : Nat)
  | warned (line : Nat) (kind : WarningKind)
  | finished (linesRead linesEmitted warnings : Nat)
  | writingTarget (path : Text) (bytes : Nat)
deriving DecidableEq

namespace Event

/-- The level of an event. -/
def level : Event → Level
  | readingSource _ => .debug
  | classified .. => .debug
  | warned .. => .warn
  | finished .. => .info
  | writingTarget .. => .debug

/-- The message of an event. -/
def message : Event → Text
  | readingSource _ => "reading source".toList
  | classified .. => "classified line".toList
  | warned _ kind => kind.text
  | finished .. => "conversion finished".toList
  | writingTarget .. => "writing target".toList

/-- The fields of an event, in the order in which they are shown. -/
def fields : Event → List (Text × Text)
  | readingSource path => [("path".toList, path)]
  | classified line statement params =>
    [("line".toList, Text.ofNat line), ("statement".toList, statement.text),
     ("params".toList, Text.ofNat params)]
  | warned line _ => [("line".toList, Text.ofNat line)]
  | finished linesRead linesEmitted warnings =>
    [("lines_read".toList, Text.ofNat linesRead), ("lines_emitted".toList, Text.ofNat linesEmitted),
     ("warnings".toList, Text.ofNat warnings)]
  | writingTarget path bytes => [("path".toList, path), ("bytes".toList, Text.ofNat bytes)]

/-- The part of the program that an event comes from. -/
def origin : Event → Text
  | readingSource _ | writingTarget .. => "rails_dbml::convert".toList
  | classified .. | warned .. | finished .. => "rails_dbml_dsl::convert".toList

/-- The names of an event's fields. The message is a field too. -/
def fieldNames (e : Event) : List Text := "message".toList :: e.fields.map Prod.fst

/-- The line that shows an event: level, message and fields. -/
def text (e : Event) : Text :=
  e.level.label ++ ' ' :: e.message ++ e.fields.flatMap fun f => ' ' :: f.1 ++ '=' :: f.2

end Event

/-- How far a log is open: not at all, or up to a level. -/
abbrev Openness := Option Level

/-- Whether a log that is open so far shows an event. -/
def Event.shownAt (o : Openness) (e : Event) : Bool := o.any fun l => e.level.rank ≤ l.rank

namespace Openness

/-- The openness of a rank: none at zero, or else up to the level of that rank. -/
def ofRank? : Nat → Option Openness
  | 0 => some none
  | n => (Level.all.find? fun l => l.rank = n).map some

/-- The number that a text of digits stands for, if it is one. A plus sign may lead. -/
def rankOf? (t : Text) : Option Nat :=
  let digits := match t with
    | '+' :: ds => ds
    | ds => ds
  if digits ≠ [] ∧ digits.all Char.isDigit then
    some (digits.foldl (fun n c => 10 * n + (c.toNat - '0'.toNat)) 0)
  else none

/-- The openness that a word stands for: a rank, `off`, or the name of a level in any case. -/
def ofWord? (t : Text) : Option Openness :=
  match rankOf? t with
  | some n => ofRank? n
  | none =>
    let name := t.map Char.toLower
    if name = "off".toList then some none
    else (Level.all.find? fun l => l.name = name).map some

end Openness

end MigrationDbml.Log
