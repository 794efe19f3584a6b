import MigrationDbml.Log.Pattern.Brackets
import MigrationDbml.Text.Alphanumeric

/-!
# Patterns

Regular expressions, as far as log settings need them: whether one is well formed.
Groups and brackets have to be closed, a repetition needs something to repeat, the
names of groups are different, and nothing nests deeper than `nestLimit`. Counted
repetition is no part of a pattern, because the braces around the fields of a
setting leave no room for it.

A group in parentheses has options of its own: those that are set in it hold up to
its end, also beyond the bars between its branches.
-/

namespace MigrationDbml.Log.Pattern

/-- How deep the parts of a pattern can nest. -/
def nestLimit : Nat := 250

/-- A part of a pattern: how deep it nests, and whether it can be repeated. -/
structure Part where
  depth : Nat
  repeatable : Bool
deriving DecidableEq

/-- A group that is not closed yet, or the pattern itself. -/
structure Group where
  /-- The options that hold again after the group. -/
  outside : Options
  /-- The depths of the branches before the last bar. -/
  branches : List Nat
  /-- The parts after it, the last one first. -/
  parts : List Part
deriving DecidableEq

namespace Group

/-- A group without parts. -/
def empty (outside : Options) : Group := ⟨outside, [], []⟩

/-- How deep the last branch nests. -/
def branchDepth (g : Group) : Nat := rowDepth (g.parts.map Part.depth)

/-- How deep the group nests. -/
def depth (g : Group) : Nat := rowDepth (g.branchDepth :: g.branches)

/-- Adds a part. -/
def add (g : Group) (p : Part) : Group := { g with parts := p :: g.parts }

/-- The group after a bar. -/
def branch (g : Group) : Group := ⟨g.outside, g.branchDepth :: g.branches, []⟩

/-- Repeats the last part. -/
def repeatLast? (g : Group) : Option Group :=
  match g.parts with
  | [] => none
  | p :: ps => if p.repeatable then some { g with parts := ⟨p.depth + 1, true⟩ :: ps } else none

end Group

/-- What has been read of a pattern. -/
structure Reader where
  options : Options
  /-- The names of groups. -/
  names : List Text
  /-- The innermost group. -/
  group : Group
  /-- The groups around it, the innermost first. -/
  outer : List Group
deriving DecidableEq

namespace Reader

/-- The reader of a whole pattern. -/
def start : Reader := ⟨.initial, [], .empty .initial, []⟩

/-- Adds a part to the innermost group. -/
def add (r : Reader) (p : Part) : Reader := { r with group := r.group.add p }

/-- Opens a group with options. -/
def openGroup (r : Reader) (o : Options) : Reader :=
  { r with options := o, group := .empty r.options, outer := r.group :: r.outer }

/-- Closes the innermost group. -/
def closeGroup? (r : Reader) : Option Reader :=
  match r.outer with
  | [] => none
  | g :: gs =>
    some { r with
      options := r.group.outside, group := g.add ⟨1 + r.group.depth, true⟩, outer := gs }

/-- Whether a text can name a group. -/
def isName : Text → Bool
  | [] => false
  | c :: cs =>
    (c == '_' || Text.isAlphabetic c)
      && cs.all fun c => "_.[]".toList.contains c || Text.isAlphanumeric c

/-- Reads the name of a group, up to its closing sign. -/
def readName? (r : Reader) (t : Text) : Option (Reader × Text) :=
  let name := t.takeWhile (· ≠ '>')
  match t.dropWhile (· ≠ '>') with
  | [] => none
  | _ :: rest =>
    if isName name ∧ name ∉ r.names then
      some ({ r with names := name :: r.names }.openGroup r.options, rest)
    else none

/-- Reads options, which hold for the group they stand in or for a group of their own. -/
def readOptions? (r : Reader) (t : Text) : Option (Reader × Text) :=
  let signs := t.takeWhile fun c => c ≠ ':' ∧ c ≠ ')'
  if !Options.areSigns signs then none
  else match t.dropWhile fun c => c ≠ ':' ∧ c ≠ ')' with
    | [] => none
    | c :: rest =>
      if c = ':' then some (r.openGroup (r.options.set signs), rest)
      else if signs = [] then none
      else some ({ r.add ⟨0, false⟩ with options := r.options.set signs }, rest)

/-- Reads what follows an opening parenthesis. -/
def readOpening? (r : Reader) : Text → Option (Reader × Text)
  | '?' :: 'P' :: '<' :: t => r.readName? t
  | '?' :: '<' :: t => r.readName? t
  | '?' :: t => r.readOptions? t
  | t => some (r.openGroup r.options, t)

/-- Reads a part of a pattern that starts with a character. -/
def step? (r : Reader) (c : Char) (cs : Text) : Option (Reader × Text) :=
  if c = '(' then r.readOpening? (r.options.skip cs)
  else if c = ')' then r.closeGroup?.map fun r => (r, cs)
  else if c = '|' then some ({ r with group := r.group.branch }, cs)
  else if c = '[' then
    (Brackets.read? r.options cs).map fun b => (r.add ⟨b.1, true⟩, b.2)
  else if c = '*' ∨ c = '+' ∨ c = '?' then
    r.group.repeatLast?.map fun g =>
      ({ r with group := g }, if cs.head? = some '?' then cs.tail else cs)
  else if c = '\x7b' then none
  else (Atom.read? r.options (c :: cs)).bind fun a =>
    if a.1.isAllowed r.options then some (r.add ⟨0, true⟩, a.2) else none

/-- Whether all groups are closed, and none nests too deep. -/
def isDone (r : Reader) : Bool := r.outer.isEmpty && decide (r.group.depth ≤ nestLimit)

/-- Whether the rest of a pattern is well formed. A step reads a character or more. -/
def accepts : Nat → Reader → Text → Bool
  | 0, _, _ => false
  | n + 1, r, t =>
    match r.options.skip t with
    | [] => r.isDone
    | c :: cs =>
      match r.step? c cs with
      | none => false
      | some (r, rest) => accepts n r rest

end Reader

/-- Whether a text is a well-formed pattern. -/
def isWellFormed (t : Text) : Bool := Reader.accepts (t.length + 1) .start t

end MigrationDbml.Log.Pattern
