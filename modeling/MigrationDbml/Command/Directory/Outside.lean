import MigrationDbml.Text.Utf8

/-!
# Outside of a directory

What a directory of files finds around itself: the folders that a system has at
its root, links between folders, and devices. A device gives nothing to read and
keeps nothing that is written to it, except that two of them pass it on to the
streams of the command. Files of the system hold no tables, so they are like a
device that is empty. Everything else is missing.

Paths are given by the names from the root down, or with slashes between them
and none at the start.
-/

namespace MigrationDbml.Command

/-- What gives and takes bytes without being a file. -/
inductive Device where
  | null
  /-- A file of the system. -/
  | system
  /-- Never has room. -/
  | full
  /-- There is none for a command without a user. -/
  | terminal
  /-- What the command prints. -/
  | output
  /-- What the command tells. -/
  | errors
deriving DecidableEq

namespace Device

/-- Reads from a device, or says by number why not. -/
def read : Device → Except Nat Bytes
  | terminal => .error 6
  | _ => .ok []

/-- Why content cannot be written to a device, by number. -/
def refusal? : Device → Bytes → Option Nat
  | terminal, _ => some 6
  | full, _ :: _ => some 28
  | _, _ => none

/-- The files of the system by their paths. -/
def systemPaths : List String :=
  ["etc/fstab", "etc/group", "etc/hostname", "etc/hosts", "etc/passwd", "etc/profile",
   "etc/resolv.conf", "etc/shadow", "proc/cpuinfo", "proc/meminfo", "proc/mounts",
   "proc/self/cmdline", "proc/self/comm", "proc/self/environ", "proc/self/exe", "proc/self/stat",
   "proc/self/status", "proc/uptime", "proc/version", "usr/bin/cat", "usr/bin/env", "usr/bin/ls",
   "usr/bin/sh", "usr/bin/true", "usr/bin/tty"]

/-- The devices by their paths. -/
def paths : List (String × Device) :=
  [("dev/null", null), ("dev/full", full), ("dev/tty", terminal), ("dev/stdin", null),
   ("dev/stdout", output), ("dev/stderr", errors), ("proc/self/fd/0", null),
   ("proc/self/fd/1", output), ("proc/self/fd/2", errors)] ++ systemPaths.map (·, system)

end Device

/-- A folder, where components of a path are looked up. -/
inductive Folder where
  /-- The directory of files. -/
  | inside
  /-- A folder outside of it, by the names from the root down. -/
  | outside (names : List Text)
deriving DecidableEq

namespace Folder

/-- The folder at a path. -/
def ofPath (path : String) : Folder := outside (path.toList.splitOn '/')

/-- The folder above a folder. The root is above itself. -/
def parent : Folder → Folder
  | inside => ofPath "tmp"
  | outside names => outside names.dropLast

/-- Why no file can be added to a folder, by number. -/
def refusal? : Folder → Option Nat
  | inside => none
  | outside names =>
    if names.head? = some "proc".toList then some 2
    else if names.head? = some "sys".toList ∨ outside names = ofPath "dev/pts" then some 13
    else none

end Folder

/-- What a path outside of the directory leads to. -/
inductive Outside where
  | folder (f : Folder)
  | device (v : Device)
deriving DecidableEq

namespace Outside

/-- The folders by their paths. -/
def folders : List String :=
  ["boot", "dev", "dev/pts", "dev/shm", "etc", "home", "media", "mnt", "opt", "proc", "proc/self",
   "proc/self/fd", "proc/sys", "proc/tty", "root", "run", "run/lock", "srv", "sys", "sys/class",
   "sys/dev", "sys/kernel", "tmp", "usr", "usr/bin", "usr/games", "usr/include", "usr/lib",
   "usr/lib64", "usr/local", "usr/sbin", "usr/share", "usr/src", "var", "var/cache", "var/lib",
   "var/log", "var/mail", "var/opt", "var/spool", "var/tmp"]

/-- The links by their paths, with the folders that they lead to. -/
def links : List (String × Folder) :=
  [("bin", .ofPath "usr/bin"), ("lib", .ofPath "usr/lib"), ("lib64", .ofPath "usr/lib64"),
   ("sbin", .ofPath "usr/sbin"), ("dev/fd", .ofPath "proc/self/fd"), ("proc/self/cwd", .inside),
   ("proc/self/root", .outside []), ("var/lock", .ofPath "run/lock"), ("var/run", .ofPath "run")]

/-- Looks up a path from the root down. -/
def find? (names : List Text) : Option Outside :=
  let path := String.ofList (['/'].intercalate names)
  if folders.contains path then some (.folder (.outside names))
  else match links.lookup path with
    | some f => some (.folder f)
    | none => (Device.paths.lookup path).map .device

end Outside

end MigrationDbml.Command
