import MigrationDbml.Command.System
import MigrationDbml.Command.Directory.Outside

/-!
# A directory of files

A file system with one directory of plain files, in a folder at the root. Paths
are resolved from there as an operating system does: empty components and dots
stay where they are, two dots lead up, a component that names nothing is missing
unless it is the last one of a path to write, and only folders have components
below them. Names and paths are limited in their length. Files that are added
outside of the directory are not kept.
-/

namespace MigrationDbml.Command

/-- The files of a directory, by name. -/
abbrev Directory := List (Text × Bytes)

namespace Directory

/-- The number of bytes that a name can have. -/
def nameLimit : Nat := 255

/-- The number of bytes that a path has to stay below. -/
def pathLimit : Nat := 4096

/-- What a name stands for. -/
inductive Node where
  | folder (f : Folder)
  | file (content : Bytes)
  | device (v : Device)
deriving DecidableEq

/-- Looks up a name in a folder, or says by number why there is nothing. -/
def find (d : Directory) (f : Folder) (name : Text) : Except Nat Node :=
  if nameLimit < Text.byteLength name then .error 36
  else match f with
    | .inside =>
      match d.lookup name with
      | some content => .ok (.file content)
      | none => .error 2
    | .outside names =>
      match Outside.find? (names ++ [name]) with
      | some (.folder g) => .ok (.folder g)
      | some (.device v) => .ok (.device v)
      | none => .error 2

/-- What a path leads to. -/
inductive Place where
  | folder
  /-- A name in a folder, with a slash after it or not. -/
  | entry (f : Folder) (name : Text) (slash : Bool)
  | nowhere (error : Nat)
deriving DecidableEq

/-- Where components lead from a folder. -/
def walk (d : Directory) (f : Folder) : List Text → Place
  | [] => .folder
  | c :: cs =>
    if c = [] ∨ c = ['.'] then walk d f cs
    else if c = ['.', '.'] then walk d f.parent cs
    else if cs.all List.isEmpty then .entry f c (!cs.isEmpty)
    else match d.find f c with
      | .error n => .nowhere n
      | .ok (.folder g) => walk d g cs
      | .ok _ => .nowhere 20

/-- Where a path leads. -/
def resolve (d : Directory) (path : Text) : Place :=
  if path = [] then .nowhere 2
  else if pathLimit ≤ Text.byteLength path then .nowhere 36
  else walk d (if path.head? = some '/' then .outside [] else .inside) (path.splitOn '/')

/-- Reads what a node holds. Only a folder can have a slash after its name. -/
def Node.read (slash : Bool) : Node → Except Nat Bytes
  | folder _ => .error 21
  | file content => if slash then .error 20 else .ok content
  | device v => if slash then .error 20 else v.read

/-- Reads the file at a path. -/
def readFile (d : Directory) (path : Text) : Except FileError Bytes :=
  match d.resolve path with
  | .folder => .error (.system 21)
  | .nowhere n => .error (.system n)
  | .entry f name slash => ((d.find f name) >>= Node.read slash).mapError .system

/-- Replaces the content of a file, or adds the file. -/
def put (name : Text) (content : Bytes) : Directory → Directory
  | [] => [(name, content)]
  | f :: fs => if f.1 = name then (name, content) :: fs else f :: put name content fs

/-- Writes the file with a name in a folder. -/
def store (d : Directory) (f : Folder) (name : Text) (content : Bytes) : Except Nat Directory :=
  match d.find f name with
  | .ok (.folder _) => .error 21
  | .ok (.device v) =>
    match v.refusal? content with
    | some n => .error n
    | none => .ok d
  | .ok (.file _) => .ok (d.put name content)
  | .error 2 =>
    match f.refusal? with
    | some n => .error n
    | none => .ok (if f = .inside then d.put name content else d)
  | .error n => .error n

/-- Writes the file at a path. -/
def writeFile (d : Directory) (path : Text) (content : Bytes) : Except FileError Directory :=
  match d.resolve path with
  | .folder => .error (.system 21)
  | .nowhere n => .error (.system n)
  | .entry f name slash =>
    if slash then .error (.system 21) else (d.store f name content).mapError .system

/-- The directory as a file system. -/
def fileSystem : FileSystem Directory := ⟨readFile, writeFile⟩

/-- The device at a path. -/
def device? (d : Directory) (path : Text) : Option Device :=
  match d.resolve path with
  | .entry f name false =>
    match d.find f name with
    | .ok (.device v) => some v
    | _ => none
  | _ => none

/-- What an effect passes on to a device. -/
def sentTo (d : Directory) (v : Device) : Effect → Bytes
  | .write path content => if d.device? path = some v then content else []
  | _ => []

end Directory

end MigrationDbml.Command
