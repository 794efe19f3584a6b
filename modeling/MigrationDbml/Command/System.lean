import MigrationDbml.Command.Session

/-!
# Systems

What a session is carried out on. A `System` answers its steps and changes with them:
streams may refuse lines, they may lead to files, and files to streams (`Session.runOn`).

A `FileSystem` is what a command needs to find of a system: files that are read and
replaced by path. On streams that take every line and lead nowhere, `Session.run` carries a
session out on it and lists what was done (`Outcome`). That is a run on a system as well,
one that keeps the list (`runOn_recording`).
-/

namespace MigrationDbml.Command

/-- The files and streams that a session meets, with `σ` for how they stand. -/
structure System (π σ : Type) where
  /-- Puts a line of the log on the error stream. What the log does about a line that is not taken is
  part of the answer: one that makes nothing of it says that all went well. -/
  record : σ → Text → Except FileError Unit × σ
  /-- Puts a notice on the error stream. -/
  tell : σ → Notice → Except FileError Unit × σ
  /-- Puts a line on the output. -/
  print : σ → Text → Except FileError Unit × σ
  read : σ → π → Except FileError Bytes
  write : σ → π → Bytes → Except FileError Unit × σ

/-- Files that can be read and replaced by path, with `σ` for what they hold. A file that cannot be
written leaves all files as they were. -/
structure FileSystem (σ : Type) (π : Type := Text) where
  read : σ → π → Except FileError Bytes
  write : σ → π → Bytes → Except FileError σ

/-- Something that a session does and that others can see. -/
inductive Effect (π : Type := Text) where
  | tell (notice : Notice)
  | print (line : Text)
  | write (path : π) (content : Bytes)
deriving DecidableEq

/-- What a session leaves behind: how it ends, what it did one after the other, and the files. -/
structure Outcome (σ : Type) (π : Type := Text) where
  status : Status
  effects : List (Effect π)
  files : σ

namespace Outcome

variable {π σ : Type}

/-- The outcome of a session that has an effect first. -/
def after (e : Effect π) (o : Outcome σ π) : Outcome σ π := { o with effects := e :: o.effects }

/-- The notices that were told, the lines of the log among them. -/
def told (o : Outcome σ π) : List Notice :=
  o.effects.filterMap fun
    | .tell notice => some notice
    | _ => none

end Outcome

namespace Session

variable {π σ : Type}

/-- Carries a session out on a system. -/
def runOn (sys : System π σ) (s : σ) : Session π → Status × σ
  | exit status => (status, s)
  | record line answer =>
    let r := sys.record s line
    runOn sys r.2 (answer r.1)
  | tell notice answer =>
    let r := sys.tell s notice
    runOn sys r.2 (answer r.1)
  | print line answer =>
    let r := sys.print s line
    runOn sys r.2 (answer r.1)
  | read path answer => runOn sys s (answer (sys.read s path))
  | write path content answer =>
    let r := sys.write s path content
    runOn sys r.2 (answer r.1)

/-- Carries a session out on files, with streams that take every line. -/
def run (fs : FileSystem σ π) (files : σ) : Session π → Outcome σ π
  | exit status => ⟨status, [], files⟩
  | record line answer => (run fs files (answer (.ok ()))).after (.tell (.line line))
  | tell notice answer => (run fs files (answer (.ok ()))).after (.tell notice)
  | print line answer => (run fs files (answer (.ok ()))).after (.print line)
  | read path answer => run fs files (answer (fs.read files path))
  | write path content answer =>
    match fs.write files path content with
    | .error e => run fs files (answer (.error e))
    | .ok files => (run fs files (answer (.ok ()))).after (.write path content)

end Session

/-- The system of files whose streams take every line, and that keeps what was done behind the
files. -/
def FileSystem.recording {π σ : Type} (fs : FileSystem σ π) : System π (σ × List (Effect π)) where
  record s line := (.ok (), s.1, s.2 ++ [.tell (.line line)])
  tell s notice := (.ok (), s.1, s.2 ++ [.tell notice])
  print s line := (.ok (), s.1, s.2 ++ [.print line])
  read s path := fs.read s.1 path
  write s path content :=
    match fs.write s.1 path content with
    | .error e => (.error e, s)
    | .ok files => (.ok (), files, s.2 ++ [.write path content])

/-- **A run on files is a run on a system** that keeps what was done. -/
theorem Session.runOn_recording {π σ : Type} (fs : FileSystem σ π) (x : Session π) (files : σ)
    (es : List (Effect π)) : runOn fs.recording (files, es) x =
      ((run fs files x).status, (run fs files x).files, es ++ (run fs files x).effects) := by
  -- each step is one more effect behind those before it
  have happend : ∀ (es : List (Effect π)) (e : Effect π) (o : Outcome σ π),
      (o.status, o.files, es ++ [e] ++ o.effects) =
        ((o.after e).status, (o.after e).files, es ++ (o.after e).effects) := by
    intro es e o
    rw [List.append_assoc]
    rfl
  induction x generalizing files es with
  | exit status => rw [runOn, run, List.append_nil]
  | record line answer ih => exact (ih _ _ _).trans (happend _ _ _)
  | tell notice answer ih => exact (ih _ _ _).trans (happend _ _ _)
  | print line answer ih => exact (ih _ _ _).trans (happend _ _ _)
  | read path answer ih => exact ih _ _ _
  | write path content answer ih =>
    rw [runOn, run]
    simp only [FileSystem.recording]
    cases fs.write files path content with
    | error e => exact ih _ _ _
    | ok left => exact (ih _ _ _).trans (happend _ _ _)

end MigrationDbml.Command
