import MigrationDbml.Json.Basic
import MigrationDbml.Span
import MigrationDbml.Command.SystemError

/-!
# Failures

The ways a run can fail after its arguments were accepted, each with a message,
a JSON object and an exit status. A malformed source also has a `Diagnostic`, which
holds the source and points at the character in it.
-/

namespace MigrationDbml.Command

/-- Why a file could not be read or written. -/
inductive FileError where
  /-- An error of the operating system, by its number. -/
  | system (number : Nat)
  /-- Any other error, in its own words. -/
  | other (message : Text)
deriving DecidableEq

namespace FileError

/-- The error in words. -/
def text : FileError → Text
  | system n => SystemError.describe n ++ " (os error ".toList ++ Text.ofNat n ++ [')']
  | other message => message

end FileError

/-- The statuses a run can exit with. -/
inductive Status where
  | success
  | failed
  | refused
  | malformed
  /-- A stream did not take a line. -/
  | crashed
deriving DecidableEq

/-- The number of an exit status. -/
def Status.code : Status → Nat
  | success => 0
  | failed => 1
  | refused => 2
  | malformed => 3
  | crashed => 101

/-- Why a run failed. -/
inductive Failure where
  /-- A path is missing. -/
  | usage
  /-- The source at `path` is malformed, with its text where there is one to show. -/
  | malformed (path : Text) (cause : Malformed) (source : Text := [])
  /-- The file at `path` could not be read or written. -/
  | file (path : Text) (cause : FileError)
deriving DecidableEq

namespace Failure

/-- The failure in words. -/
def message : Failure → Text
  | usage => "missing arguments\n\nUsage: rails-dbml <SRC_FILE> <TGT_FILE>".toList
  | malformed path cause _ => "parse error in ".toList ++ path ++ [':', ' '] ++ cause.message
  | file path cause => "IO error for ".toList ++ path ++ [':', ' '] ++ cause.text

/-- The status a failed run exits with. -/
def status : Failure → Status
  | malformed .. => .malformed
  | usage => .failed
  | file .. => .failed

/-- The failure as an object, its members in the order of their names. -/
def toJson : Failure → Json
  | usage =>
    .obj [("error".toList, .str "usage_error".toList), ("message".toList, .str usage.message)]
  | malformed path cause _ =>
    .obj [("error".toList, .str "parse_error".toList), ("file".toList, .str path),
      ("line".toList, .num cause.line), ("message".toList, .str cause.message)]
  | file path cause =>
    .obj [("error".toList, .str "io_error".toList), ("message".toList, .str cause.text),
      ("path".toList, .str path)]

end Failure

/-- A malformed parameter in a source, with a label for the place there and a remedy. -/
structure Diagnostic where
  file : Text
  source : Text
  message : Text
  label : Text
  offset : Nat
  length : Nat
  help : Text
deriving DecidableEq

namespace Diagnostic

/-- The diagnostic of a malformed parameter in the source of a file. -/
def ofMalformed (file source : Text) (m : Malformed) : Diagnostic where
  file := file
  source := source
  message := "malformed parameter '".toList ++ m.name ++ "' on line ".toList ++ Text.ofNat m.line
  label := "expected ':' before '".toList ++ [m.found, '\'']
  offset := m.span.start
  length := m.span.length
  help := "Write the parameter as `".toList ++ m.name ++ ": <value>`.".toList

/-- The diagnostic as lines for a terminal. -/
def text (d : Diagnostic) : Text :=
  "error: ".toList ++ d.message ++ "\n  at byte ".toList ++ Text.ofNat d.offset ++ [':', ' ']
    ++ d.label ++ "\n  help: ".toList ++ d.help

end Diagnostic

end MigrationDbml.Command
