import MigrationDbml.Text.Utf8
import MigrationDbml.Command.Help
import MigrationDbml.Command.Surroundings

/-!
# Sessions

What the command does, as a tree of steps: it records what the log shows, tells notices,
prints lines, reads and writes files, and exits. Each step but the last is answered, and the
answer decides how the session goes on. `Session.ofArguments` is the whole command, and
`Session.ofAccepted` what it does once its arguments are accepted.

A run reads its source, converts it, and writes the target only when the
conversion succeeded. Only the summary for machines, the help and the version are
printed; everything else goes to the error stream. A run that cannot get rid of a
line crashes.

Files are named by a type of paths, which need not be texts (`Path`).
-/

namespace MigrationDbml.Command

open Log (Event Filter)

/-- What files are named by, with the text that stands for a name in reports. -/
class Path (π : Type) where
  text : π → Text

instance : Path Text := ⟨id⟩

/-- A name in bytes, which may be no UTF-8. -/
instance : Path Bytes := ⟨Utf8.decode⟩

/-- What a command does, step by step, with `π` for paths. -/
inductive Session (π : Type := Text) where
  | exit (status : Status)
  /-- A line of the log. -/
  | record (line : Text) (answer : Except FileError Unit → Session π)
  | tell (notice : Notice) (answer : Except FileError Unit → Session π)
  | print (line : Text) (answer : Except FileError Unit → Session π)
  | read (path : π) (answer : Except FileError Bytes → Session π)
  | write (path : π) (content : Bytes) (answer : Except FileError Unit → Session π)

namespace Session

variable {π : Type}

/-- Goes on when a stream took a line, and crashes otherwise. Nothing is left to be done about a
stream that does not take the reason either. -/
def orCrash (stream : Text) (rest : Session π) : Except FileError Unit → Session π
  | .ok () => rest
  | .error e =>
    tell (.crash ("failed printing to ".toList ++ stream ++ [':', ' '] ++ e.text)) fun _ =>
      exit .crashed

/-- Tells a notice and goes on. -/
def say (notice : Notice) (rest : Session π) : Session π :=
  tell notice (orCrash "stderr".toList rest)

/-- Tells notices, one after the other. -/
def tellAll (notices : List Notice) (rest : Session π) : Session π := notices.foldr say rest

/-- Records the events that a log shows. -/
def log (f : Filter) (es : List Event) (rest : Session π) : Session π :=
  (es.filter f.shows).foldr (fun e rest => record e.text (orCrash "stderr".toList rest)) rest

/-- Tells a failure and exits. -/
def fail (s : Style) (f : Failure) : Session π := say (s.failure f) (exit f.status)

variable [Path π]

/-- Reports a finished conversion and exits. The summary for people is told, others are printed. -/
def finish (s : Style) (source target : π) (c : Conversion) : Session π :=
  match s.summary? (Path.text source) (Path.text target) c with
  | none => exit .success
  | some t =>
    match s.mode with
    | .human => say (.line t) (exit .success)
    | _ => print t (orCrash "stdout".toList (exit .success))

/-- Writes a finished conversion to the target. -/
def deliver (s : Style) (f : Filter) (source target : π) (c : Conversion) : Session π :=
  tellAll ((c.warnings.filterMap s.warning?).map .line) <|
  log f [.writingTarget (Path.text target) (Text.byteLength c.dbml)] <|
  write target (Utf8.encode c.dbml) fun
    | .error e => fail s (.file (Path.text target) e)
    | .ok () => finish s source target c

/-- Converts the source and writes the target. -/
def convert (s : Style) (f : Filter) (source target : π) : Session π :=
  log f [.readingSource (Path.text source)] <|
  read source fun
    | .error e => fail s (.file (Path.text source) e)
    | .ok content =>
      let text := Utf8.decode content
      let transcript := transcribe text
      log f transcript.events <|
      match transcript.result with
      | .error m => fail s (.malformed (Path.text source) m text)
      | .ok c => deliver s f source target c

/-- What is done with arguments that were accepted. -/
def ofAccepted (w : Surroundings) (a : Arguments π) : Session π :=
  match a.paths? with
  | none => fail (a.style w.terminal) .usage
  | some (source, target) => convert (a.style w.terminal) (a.filter w.log) source target

/-- What is done instead of a run, whether the streams take it or not. -/
def ofHalt (w : Surroundings) : Halt → Session π
  | .help full => print (helpText full w.printsStyles w.noColor) fun _ => exit .success
  | .version => print versionText fun _ => exit .success
  | .refused cause => tell (.refusal cause) fun _ => exit .refused

/-- The session that arguments ask for. -/
def ofArguments (w : Surroundings) (args : List Text) : Session :=
  match Arguments.parse w.noColor args with
  | .error h => ofHalt w h
  | .ok a => ofAccepted w a

end Session

end MigrationDbml.Command
