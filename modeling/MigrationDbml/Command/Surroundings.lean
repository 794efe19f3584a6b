import MigrationDbml.Command.Report
import MigrationDbml.Log.Filter

/-!
# Surroundings

What a run finds around itself besides files: settings by name, and terminals. They decide
about colours and styles (`Terminals`), and with the arguments about how a run reports
(`Arguments.style`, `Arguments.filter`).
-/

namespace MigrationDbml.Command

open Log (Filter)

/-- The settings by name, and what the terminals show. -/
structure Surroundings where
  /-- The setting that switches colours off. -/
  noColor : Option Text
  /-- The setting that switches styles on for what is printed. -/
  forceStyles : Option Text
  /-- The setting that says what the log shows. -/
  log : Option Text
  /-- Whether labels can be coloured. -/
  terminal : Bool
  /-- Whether the output can show styles. -/
  showsStyles : Bool

/-- Whether styles are printed. The setting against colours goes first. An empty setting is none. -/
def Surroundings.printsStyles (w : Surroundings) : Bool :=
  let isSet (setting : Option Text) : Bool := setting.any (· ≠ [])
  !isSet w.noColor && (isSet w.forceStyles || w.showsStyles)

/-- The terminals of a run, and the settings that say what they can show. -/
structure Terminals where
  /-- Whether the output is a terminal. -/
  output : Bool
  /-- Whether the error stream is one. -/
  errors : Bool
  /-- The name of the kind of terminal. -/
  kind : Option Text
  /-- The setting that switches colours off. -/
  noColor : Option Text
  /-- The setting for colours on terminals that have them. -/
  color : Option Text
  /-- The setting for colours everywhere. -/
  forceColor : Option Text
  /-- Whether a service runs the command unattended. -/
  unattended : Bool

namespace Terminals

/-- Whether colours are made for the output. An empty setting counts as set here. -/
def colorsOutput (t : Terminals) : Bool :=
  (t.output && t.noColor.isNone && t.kind.any (· ≠ "dumb".toList) && t.color ≠ some ['0'])
    || t.forceColor.any (· ≠ ['0'])

/-- Whether labels can be coloured. They are told on the error stream, so that has to be a terminal,
but it is the output that colours are made for. -/
def showsLabels (t : Terminals) : Bool :=
  t.kind ≠ some "dumb".toList && t.errors && t.colorsOutput

/-- Whether the output can show styles. -/
def showsStyles (t : Terminals) : Bool :=
  t.color ≠ some ['0'] && t.output
    && (t.kind.any (· ≠ "dumb".toList) || t.color.isSome || t.unattended)

end Terminals

variable {π : Type}

/-- The style that arguments and a terminal give a run. -/
def Arguments.style (a : Arguments π) (terminal : Bool) : Style :=
  ⟨a.mode, a.quiet, terminal && !a.noColor⟩

/-- What the log shows: as a well-formed setting says, and as the flags say without one. -/
def Arguments.filter (a : Arguments π) (setting : Option Text) : Filter :=
  (setting.bind Filter.parse?).getD (.upTo a.level)

end MigrationDbml.Command
