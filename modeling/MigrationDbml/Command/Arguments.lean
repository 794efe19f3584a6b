import MigrationDbml.Log.Event

/-!
# Command-line arguments

Arguments are read from left to right, and the first fault decides. A path, and a
format with the value in the argument after it, is held back when it is read and
checked (`settle`) only when the next known flag or path comes, or at the end. So
an unknown argument right after a bad value is what gets reported.
Each argument read here is a text. The `Arguments` of a run have paths of any type.

What does not lead to a run is a `Halt`: a request for help or the version, or a
refusal with its cause.
-/

namespace MigrationDbml.Command

open Log (Level)

/-- How results are reported. -/
inductive Mode where
  | human
  | json
  | plain
deriving DecidableEq

namespace Mode

/-- The word that selects a mode. -/
def name : Mode → Text
  | human => "human".toList
  | json => "json".toList
  | plain => "plain".toList

/-- The mode a word selects. -/
def ofName? (t : Text) : Option Mode := [human, json, plain].find? fun m => m.name == t

end Mode

/-- The cause for which arguments are refused, with the argument at fault. -/
inductive Refusal where
  /-- No such flag, or one path too many. -/
  | unknownArgument (arg : Text)
  /-- A value for a flag that takes none. -/
  | unexpectedValue (flag : Text)
  /-- A value that is missing, empty or not among the ones allowed. -/
  | invalidValue (value : Text)
  /-- A flag that cannot be given twice, or not with another one. -/
  | conflict (flag : Text)
deriving DecidableEq

/-- Why arguments do not lead to a run. -/
inductive Halt where
  | help (full : Bool)
  | version
  | refused (cause : Refusal)
deriving DecidableEq

/-- The arguments of a run, as far as they are given, with `π` for paths. -/
structure Arguments (π : Type := Text) where
  source : Option π
  target : Option π
  format : Option Mode
  verbosity : Nat
  quiet : Bool
  noColor : Bool
deriving DecidableEq

namespace Arguments

variable {π : Type}

/-- No arguments. -/
def empty : Arguments := ⟨none, none, none, 0, false, false⟩

/-- The source and the target, when both are given. -/
def paths? (a : Arguments π) : Option (π × π) :=
  a.source.bind fun s => a.target.map fun t => (s, t)

/-- The mode of the run: for people unless another one is asked for. -/
def mode (a : Arguments π) : Mode := a.format.getD .human

/-- How far the log is open by default. -/
def level (a : Arguments π) : Level :=
  if a.quiet then .error
  else match a.verbosity with
    | 0 => .warn
    | 1 => .info
    | 2 => .debug
    | _ => .trace

/-- The number of paths given. -/
def pathCount (a : Arguments π) : Nat := a.source.toList.length + a.target.toList.length

end Arguments

/-- What has been read and not yet checked. -/
inductive Held where
  | nothing
  | path (t : Text)
  | format (value : Option Text)
deriving DecidableEq

/-- The number of paths held back. -/
def Held.pathCount : Held → Nat
  | path _ => 1
  | _ => 0

/-- Checks what is held back and takes it over. -/
def settle (a : Arguments) : Held → Except Halt Arguments
  | .nothing => .ok a
  | .path t =>
    if t = [] then .error (.refused (.invalidValue t))
    else match a.source with
      | none => .ok { a with source := some t }
      | some _ => .ok { a with target := some t }
  | .format none => .error (.refused (.invalidValue []))
  | .format (some v) =>
    if a.format.isSome then .error (.refused (.conflict "--format".toList))
    else match Mode.ofName? v with
      | none => .error (.refused (.invalidValue v))
      | some m => .ok { a with format := some m }

/-- A flag that takes no value. -/
inductive Flag where
  | verbose
  | quiet
  | noColor
  | help (full : Bool)
  | version
deriving DecidableEq

namespace Flag

/-- The flag of a name, as it stands after two dashes. -/
def ofName? (t : Text) : Option Flag :=
  if t = "verbose".toList then some verbose
  else if t = "quiet".toList then some quiet
  else if t = "no-color".toList then some noColor
  else if t = "help".toList then some (help true)
  else if t = "version".toList then some version
  else none

/-- The flag of a letter, as it stands after one dash. -/
def ofLetter? (c : Char) : Option Flag :=
  if c = 'v' then some verbose
  else if c = 'q' then some quiet
  else if c = 'h' then some (help false)
  else if c = 'V' then some version
  else none

/-- Takes a flag over. Verbosity stops at 255. -/
def apply (a : Arguments) : Flag → Except Halt Arguments
  | verbose => .ok { a with verbosity := min 255 (a.verbosity + 1) }
  | quiet =>
    if a.quiet then .error (.refused (.conflict "--quiet".toList)) else .ok { a with quiet := true }
  | noColor =>
    if a.noColor then .error (.refused (.conflict "--no-color".toList))
    else .ok { a with noColor := true }
  | help full => .error (.help full)
  | version => .error .version

end Flag

/-- The form of one argument. -/
inductive Argument where
  /-- Two dashes alone: all that follows are paths. -/
  | separator
  /-- Two dashes, a name, and a value if there is an equals sign. -/
  | long (name : Text) (value : Option Text)
  /-- One dash and a letter or more. -/
  | short (letter : Char) (more : List Char)
  | path (t : Text)
deriving DecidableEq

/-- The form of an argument. A dash alone is a path. -/
def Argument.ofText : Text → Argument
  | ['-', '-'] => separator
  | '-' :: '-' :: t =>
    long (t.takeWhile (· ≠ '=')) (t.dropWhile (· ≠ '=')).tail?
  | '-' :: c :: cs => short c cs
  | t => path t

/-- Whether an argument cannot be the value of the flag before it. -/
def startsFlag : Text → Bool
  | '-' :: _ :: _ => true
  | _ => false

/-- Takes the letters after one dash, from left to right. -/
def readLetters (a : Arguments) : List Char → Except Halt Arguments
  | [] => .ok a
  | c :: cs =>
    match Flag.ofLetter? c with
    | none => .error (.refused (.unknownArgument ['-', c]))
    | some f =>
      match f.apply a with
      | .error h => .error h
      | .ok a => readLetters a cs

/-- Reads a path: the third one is refused, any other settles what is held and is held itself. -/
def readPath (a : Arguments) (held : Held) (t : Text) : Except Halt (Arguments × Held) :=
  if 2 ≤ a.pathCount + held.pathCount then .error (.refused (.unknownArgument t))
  else (settle a held).map fun a => (a, .path t)

/-- Reads arguments that are all paths. -/
def readPaths (a : Arguments) (held : Held) : List Text → Except Halt Arguments
  | [] => settle a held
  | t :: ts =>
    match readPath a held t with
    | .error h => .error h
    | .ok (a, held) => readPaths a held ts

/-- Reads arguments after `a`, with `held` still to be checked. -/
def readArguments (a : Arguments) (held : Held) : List Text → Except Halt Arguments
  | [] => settle a held
  | t :: ts =>
    match Argument.ofText t with
    | .separator => readPaths a held ts
    | .path p =>
      match readPath a held p with
      | .error h => .error h
      | .ok (a, held) => readArguments a held ts
    | .short c cs =>
      if (Flag.ofLetter? c).isNone then .error (.refused (.unknownArgument t))
      else match settle a held >>= (readLetters · (c :: cs)) with
        | .error h => .error h
        | .ok a => readArguments a .nothing ts
    | .long name value =>
      if name = "format".toList then
        match value with
        | some v =>
          match settle a held >>= (settle · (.format (some v))) with
          | .error h => .error h
          | .ok a => readArguments a .nothing ts
        | none =>
          match settle a held with
          | .error h => .error h
          | .ok a =>
            match ts with
            | [] => settle a (.format none)
            | v :: vs =>
              if startsFlag v then readArguments a (.format none) (v :: vs)
              else readArguments a (.format (some v)) vs
      else match Flag.ofName? name, value with
        | none, _ => .error (.refused (.unknownArgument t))
        | some _, some _ => .error (.refused (.unexpectedValue t))
        | some f, none =>
          match settle a held >>= f.apply with
          | .error h => .error h
          | .ok a => readArguments a .nothing ts

/-- Takes over the setting that switches colours off, unless the flag is given. -/
def readNoColor (a : Arguments) (setting : Option Text) : Except Halt Arguments :=
  if a.noColor then .ok a
  else match setting with
    | none => .ok a
    | some v =>
      if v = "true".toList then .ok { a with noColor := true }
      else if v = "false".toList then .ok a
      else .error (.refused (.invalidValue v))

/-- Being quiet and being verbose exclude each other. -/
def checkQuiet (a : Arguments) : Except Halt Arguments :=
  if a.quiet ∧ 0 < a.verbosity then .error (.refused (.conflict "--quiet".toList)) else .ok a

/-- Reads the arguments of a run, with the setting that switches colours off. -/
def Arguments.parse (noColor : Option Text) (args : List Text) : Except Halt Arguments :=
  readArguments .empty .nothing args >>= (readNoColor · noColor) >>= checkQuiet

end MigrationDbml.Command
