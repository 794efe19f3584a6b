import MigrationDbml.Command.Directory.Basic

/-!
# A directory between pipes

A system with a directory of files and two streams. What the command prints goes into a pipe.
The error stream goes into another one, unless it leads to a device that never has room. A path
that leads to a stream passes on what is written to it, so there the pipe takes content and lines.
-/

namespace MigrationDbml.Command

/-- The files of a directory, and what has gone into the pipes. -/
structure Piped where
  files : Directory
  output : Bytes
  errors : Bytes
deriving DecidableEq

namespace Piped

/-- Puts a line on the error stream, with `full` for one that has no room. -/
def putError (full : Bool) (s : Piped) (line : Text) : Except FileError Unit × Piped :=
  if full then (.error (.system 28), s)
  else (.ok (), { s with errors := s.errors ++ Utf8.encode (line ++ ['\n']) })

/-- The directory and the pipes as a system. The log drops a line that is not taken. -/
def system (full : Bool) : System Text Piped where
  record s line := (.ok (), (putError full s line).2)
  tell s notice := putError full s notice.text
  print s line := (.ok (), { s with output := s.output ++ Utf8.encode (line ++ ['\n']) })
  read s path := s.files.readFile path
  write s path content :=
    match s.files.writeFile path content with
    | .error e => (.error e, s)
    | .ok d =>
      let sent (v : Device) : Bytes := s.files.sentTo v (.write path content)
      (.ok (), ⟨d, s.output ++ sent .output, s.errors ++ sent .errors⟩)

end Piped

end MigrationDbml.Command
