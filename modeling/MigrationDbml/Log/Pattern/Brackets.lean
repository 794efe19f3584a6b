import MigrationDbml.Log.Pattern.Atom

/-!
# Brackets of a pattern

A set of characters between brackets: characters, ranges, named sets such as
`[:alpha:]`, and further brackets. A caret at the start negates the set. Dashes at
the start stand for themselves, and so does a closing bracket that comes first. Two
signs of a kind join what stands on either side: `&&` keeps what both have, `--`
takes away, and `~~` keeps what only one has.

Of the set itself two things are of interest: how deep it nests, as patterns must not
nest too deep, and where case is ignored, whether it is full. There are no tables of
letter cases, so there a set has to hold all characters or none. It is built of empty
brackets such as `[&&]` alone: a character in it would need the tables, and the range
of all characters does not only in a set that is full already.
-/

namespace MigrationDbml.Log.Pattern

/-- How deep parts nest that stand in a row. A row of one is that part alone. -/
def rowDepth : List Nat → Nat
  | [] => 0
  | [d] => d
  | ds => 1 + ds.foldl max 0

/-- What is known of a set. -/
structure Extent where
  /-- How deep the set nests. -/
  depth : Nat
  /-- Whether the set holds all characters, where it holds all or none. -/
  full : Bool
deriving DecidableEq

namespace Extent

/-- Whether two signs of a kind join sets, full or empty ones, to a full one. -/
def joinFull (sign : Char) (left right : Bool) : Bool :=
  if sign = '&' then left && right else if sign = '-' then left && !right else left != right

/-- What two signs of a kind make of the sets on either side. -/
def join (sign : Char) (left right : Extent) : Extent :=
  ⟨1 + max left.depth right.depth, joinFull sign left.full right.full⟩

end Extent

/-- Brackets that are not closed yet. -/
structure Brackets where
  /-- Whether a caret negates the set. -/
  negated : Bool
  /-- Whether no character has come yet but dashes. -/
  leading : Bool
  /-- What stands before the last joining signs, and the sign. -/
  left : Option (Char × Extent)
  /-- The depths of the members after them. -/
  members : List Nat
  /-- Whether these members are a full set. -/
  full : Bool
deriving DecidableEq

namespace Brackets

/-- Brackets without members. -/
def empty (negated : Bool) : Brackets := ⟨negated, true, none, [], false⟩

/-- What stands between the brackets so far. -/
def inner (b : Brackets) : Extent :=
  let right := ⟨rowDepth b.members, b.full⟩
  match b.left with
  | none => right
  | some (sign, left) => left.join sign right

/-- The set that the brackets stand for. -/
def extent (b : Brackets) : Extent := ⟨1 + b.inner.depth, b.inner.full != b.negated⟩

/-- Adds a character, a range or a named set. -/
def add (b : Brackets) : Brackets := { b with members := 0 :: b.members }

/-- Adds a set in brackets. -/
def addSet (b : Brackets) (e : Extent) : Brackets :=
  { b with members := e.depth :: b.members, full := b.full || e.full }

/-- The brackets after something else than leading dashes. -/
def continued (b : Brackets) : Brackets := { b with leading := false }

/-- The brackets after two signs of a kind. -/
def join (b : Brackets) (sign : Char) : Brackets :=
  ⟨b.negated, false, some (sign, b.inner), [], false⟩

/-- The names of the named sets. -/
def names : List Text :=
  ["alnum".toList, "alpha".toList, "ascii".toList, "blank".toList, "cntrl".toList, "digit".toList,
   "graph".toList, "lower".toList, "print".toList, "punct".toList, "space".toList, "upper".toList,
   "word".toList, "xdigit".toList]

/-- Reads the rest of a named set after its bracket: whether it is negated, and what follows it. -/
def readNamed? : Text → Option (Bool × Text)
  | ':' :: t =>
    let negated := t.head? == some '^'
    let t := if negated then t.tail else t
    match t.dropWhile (· ≠ ':') with
    | ':' :: ']' :: rest =>
      if names.contains (t.takeWhile (· ≠ ':')) then some (negated, rest) else none
    | _ => none
  | _ => none

/-- Whether a named set may stand in brackets. -/
def allowsNamed (o : Options) (negated : Bool) : Bool :=
  if o.unicode then !o.ignoreCase else !negated

/-- Reads the start of brackets. Among bytes, none can be negated. -/
def readStart? (o : Options) (t : Text) : Option (Brackets × Text) :=
  match o.skip t with
  | '^' :: cs => if o.unicode then some (empty true, o.skip cs) else none
  | t => some (empty false, t)

/-- Whether a range may stand in brackets, in a set that is full already or not. -/
def allowsRange (o : Options) (full : Bool) (low high : Atom) : Bool :=
  low.isRange high && (low.isMember o && high.isMember o || full && low.isEverything high)

/-- Reads a character, a family or a range. A dash makes a range unless a closing bracket or a dash
follows. -/
def readMember? (o : Options) (full : Bool) (t : Text) : Option Text :=
  (Atom.readMember? o t).bind fun low =>
    let alone (rest : Text) : Option Text := if low.1.isMember o then some rest else none
    match o.skip low.2 with
    | '-' :: after =>
      if o.peek after = some ']' ∨ o.peek after = some '-' then alone ('-' :: after)
      else (Atom.readMember? o (o.skip after)).bind fun high =>
        if allowsRange o full low.1 high.1 then some high.2 else none
    | rest => alone rest

/-- Whether a character stands for itself in brackets because of where it is. -/
def isPlain (b : Brackets) (c : Char) : Bool :=
  b.leading && (c == '-' || c == ']' && b.members.isEmpty)

/-- Reads brackets that are open in further ones, each of them the innermost first. -/
def readFrom? (o : Options) : Nat → Brackets → List Brackets → Text → Option (Nat × Text)
  | 0, _, _, _ => none
  | n + 1, b, outer, t =>
    match o.skip t with
    | [] => none
    | c :: cs =>
      if b.isPlain c then
        if o.unicode && o.ignoreCase then none
        else readFrom? o n { b.add with leading := c == '-' } outer cs
      else if c = '[' then
        match readNamed? cs with
        | some (negated, rest) =>
          if allowsNamed o negated then readFrom? o n b.continued.add outer rest else none
        | none => (readStart? o cs).bind fun r => readFrom? o n r.1 (b.continued :: outer) r.2
      else if c = ']' then
        match outer with
        | [] => some (b.extent.depth, cs)
        | a :: outer => readFrom? o n (a.addSet b.extent) outer cs
      else if "&-~".toList.contains c ∧ cs.head? = some c then
        readFrom? o n (b.join c) outer cs.tail
      else (readMember? o b.full (c :: cs)).bind (readFrom? o n b.continued.add outer)

/-- Reads what follows an opening bracket: how deep the brackets nest, and what follows them. -/
def read? (o : Options) (t : Text) : Option (Nat × Text) :=
  (readStart? o t).bind fun r => readFrom? o (t.length + 1) r.1 [] r.2

end Brackets

end MigrationDbml.Log.Pattern
