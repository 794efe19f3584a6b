import MigrationDbml.Command.Session

/-!
# The command

Carries a session out on the real files, streams and environment.
-/

namespace MigrationDbml.Command

/-- The number of a system error. Some are handed over as negative numbers. -/
def errorNumber (code : UInt32) : Nat :=
  if code.toNat < 0x80000000 then code.toNat else 0x100000000 - code.toNat

/-- Why a file could not be read or written: by number, where the system gave one. -/
def fileErrorOf : IO.Error → FileError
  | .alreadyExists _ code _ | .noFileOrDirectory _ code _ | .invalidArgument _ code _
  | .permissionDenied _ code _ | .resourceExhausted _ code _ | .inappropriateType _ code _
  | .noSuchThing _ code _ | .interrupted _ code _ | .otherError code _ | .resourceBusy code _
  | .resourceVanished code _ | .unsupportedOperation code _ | .hardwareFault code _
  | .unsatisfiedConstraints code _ | .illegalOperation code _ | .protocolError code _
  | .timeExpired code _ => .system (errorNumber code)
  | e => .other (toString e).toList

/-- What became of an action on the system. -/
def attempt {α : Type} (action : IO α) : IO (Except FileError α) := do
  return (← action.toBaseIO).mapError fileErrorOf

/-- Carries a session out. A line of the log that is not taken is dropped. -/
def Session.perform : Session → IO UInt32
  | exit status => return UInt32.ofNat status.code
  | record line answer => do
    let _ ← attempt (IO.eprintln (String.ofList line))
    (answer (.ok ())).perform
  | tell notice answer => do
    (answer (← attempt (IO.eprintln (String.ofList notice.text)))).perform
  | print line answer => do
    (answer (← attempt (IO.println (String.ofList line)))).perform
  | read path answer => do
    let found ← attempt (IO.FS.readBinFile (String.ofList path))
    (answer (found.map ByteArray.toList)).perform
  | write path content answer => do
    let done ← attempt (IO.FS.writeBinFile (String.ofList path) ⟨content.toArray⟩)
    (answer done).perform

/-- A setting of the environment. -/
def setting (name : String) : IO (Option Text) := return (← IO.getEnv name).map String.toList

/-- The terminals, and the settings about them. -/
def terminals : IO Terminals :=
  return {
    output := ← (← IO.getStdout).isTty
    errors := ← (← IO.getStderr).isTty
    kind := ← setting "TERM"
    noColor := ← setting "NO_COLOR"
    color := ← setting "CLICOLOR"
    forceColor := ← setting "CLICOLOR_FORCE"
    unattended := (← IO.getEnv "CI").isSome }

/-- The settings of the environment and what the terminals show. -/
def surroundings : IO Surroundings := do
  let t ← terminals
  return {
    noColor := t.noColor
    forceStyles := t.forceColor
    log := ← setting "RUST_LOG"
    terminal := t.showsLabels
    showsStyles := t.showsStyles }

end MigrationDbml.Command

open MigrationDbml.Command in
/-- The command line: the first argument is the source, the second the target. -/
def main (args : List String) : IO UInt32 := do
  (Session.ofArguments (← surroundings) (args.map String.toList)).perform
