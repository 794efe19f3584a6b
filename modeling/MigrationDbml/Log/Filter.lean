import MigrationDbml.Log.Directive

/-!
# Filters

Which events a log shows. Of the directives that apply to an event, the most
specific one decides, and of equally specific ones the last. An event to which
none applies is not shown.

* `shows_upTo`: a filter up to a level shows what a log shows that is open up to it.
-/

namespace MigrationDbml.Log

/-- The directives of a log setting, in order. -/
structure Filter where
  directives : List Directive
deriving DecidableEq

namespace Filter

/-- The filter that opens the log up to a level. -/
def upTo (l : Level) : Filter := ⟨[.forAll (some l)]⟩

/-- Reads a setting: directives with commas between them. A setting without any shows errors. -/
def parse? (setting : Text) : Option Filter :=
  match (setting.splitOn ',').filter (· ≠ []) with
  | [] => some (upTo .error)
  | pieces => (pieces.mapM Directive.parse?).map (⟨·⟩)

/-- The more specific of two directives, the later one if they are equally specific. -/
def prefer (best : Option Directive) (d : Directive) : Option Directive :=
  match best with
  | none => some d
  | some b => if d.isAsSpecificAs b then some d else some b

/-- The directive that decides about an event. -/
def deciding? (f : Filter) (e : Event) : Option Directive :=
  (f.directives.filter (·.appliesTo e)).foldl prefer none

/-- Whether the log shows an event. -/
def shows (f : Filter) (e : Event) : Bool := (f.deciding? e).any fun d => e.shownAt d.openness

theorem shows_upTo (l : Level) (e : Event) : (upTo l).shows e = e.shownAt (some l) := rfl

end Filter

end MigrationDbml.Log
