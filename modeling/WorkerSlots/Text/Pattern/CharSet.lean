import WorkerSlots.Text.Pattern.Atom

/-!
# Sets of characters in patterns

A set is written in brackets: characters, ranges, classes, names of classes and other sets one
after another, and `&&`, `--` and `~~` between such operands.

* `Pattern.OpenSet`, `Pattern.SetReader` : the sets that are open, as far as they have been read;
* `Pattern.SetReader.step?` : reads the next thing in a set;
* `Pattern.set?` : reads a set. The answer is how deeply things are nested in it.
-/

namespace WorkerSlots.Text.Pattern

/-- How deep things in a row are: a row of one is no deeper than what is in it. -/
def rowDepth : List Nat → Nat
  | [] => 0
  | [d] => d
  | ds => 1 + ds.foldl max 0

/-- A set that is open. -/
structure OpenSet where
  /-- How deep each member of the operand is. -/
  members : List Nat
  /-- How deep the operand on the left is, if there is an operator. -/
  left? : Option Nat

namespace OpenSet

def depth (s : OpenSet) : Nat :=
  match s.left? with
  | none => rowDepth s.members
  | some left => 1 + max left (rowDepth s.members)

def insert (s : OpenSet) (depth : Nat) : OpenSet := { s with members := depth :: s.members }

/-- Begins with the operand on the right of an operator. -/
def operator (s : OpenSet) : OpenSet := ⟨[], some s.depth⟩

end OpenSet

def classNames : List String :=
  ["alnum", "alpha", "ascii", "blank", "cntrl", "digit", "graph", "lower", "print", "punct",
    "space", "upper", "word", "xdigit"]

/-- Reads the name of a class after the bracket that opens it. The answer says first whether what
is not in the class is meant. -/
def className? (cs : List Char) : Option (Bool × List Char) :=
  match cs with
  | ':' :: cs =>
    let (negated, cs) := match cs with
      | '^' :: cs => (true, cs)
      | cs => (false, cs)
    match cs.dropWhile (· ≠ ':') with
    | ':' :: ']' :: rest =>
      if String.ofList (cs.takeWhile (· ≠ ':')) ∈ classNames then some (negated, rest) else none
    | _ => none
  | _ => none

/-- Whether the name of a class may be a member of a set. -/
def allowsClassName (s : Switches) (negated : Bool) : Bool :=
  if s.matchesChars then !s.foldsCase else !negated

def hyphens (s : Switches) (inComment : Bool) : List Char → Nat × List Char
  | [] => (0, [])
  | c :: cs =>
    if inComment then hyphens s (c ≠ '\n') cs
    else if s.isSpaced && isBlank c then hyphens s false cs
    else if s.isSpaced && c = '#' then hyphens s true cs
    else if c = '-' then
      let (count, rest) := hyphens s false cs
      (count + 1, rest)
    else (0, c :: cs)

/-- Opens a set after its bracket. Hyphens at the beginning are members, and so is a bracket that
would close the set at once. -/
def openSet? (s : Switches) (cs : List Char) : Option (OpenSet × List Char) :=
  let (negated, cs) := match s.skip cs with
    | '^' :: cs => (true, s.skip cs)
    | cs => (false, cs)
  let (count, cs) := hyphens s false cs
  let (members, cs) := match count, cs with
    | 0, ']' :: cs => (1, cs)
    | count, cs => (count, cs)
  if negated && !s.matchesChars then none
  else if members ≠ 0 && !(Atom.char '-' false).isAllowedInSet s then none
  else some (⟨List.replicate members 0, none⟩, cs)

def atom? (s : Switches) : List Char → Option (Atom × List Char)
  | [] => none
  | '\\' :: cs => escape? s cs
  | c :: cs => some (.char c false, cs)

/-- Reads a member of a set: an atom or a range. A hyphen before another one or before the end of
the set makes no range. -/
def member? (s : Switches) (cs : List Char) : Option (List Char) :=
  match atom? s cs with
  | none => none
  | some (atom, cs) =>
    let single (rest : List Char) := if atom.isAllowedInSet s then some rest else none
    match s.skip cs with
    | '-' :: rest =>
      if s.peek? rest = some ']' ∨ s.peek? rest = some '-' then single ('-' :: rest)
      else
        match atom, atom? s (s.skip rest) with
        | .char a _, some (.char b isByte, rest) =>
          if atom.isAllowedInSet s && (Atom.char b isByte).isAllowedInSet s && a ≤ b then some rest
          else none
        | _, _ => none
    | rest => single rest

/-- The reader of a set. -/
structure SetReader where
  /-- The sets that are open, the innermost first. -/
  opened : List OpenSet
  /-- How deep the set that was closed last is. -/
  closed : Nat

namespace SetReader

def close (current : OpenSet) (outer : List OpenSet) : SetReader :=
  let depth := 1 + current.depth
  match outer with
  | [] => ⟨[], depth⟩
  | next :: outer => ⟨next.insert depth :: outer, depth⟩

def step? (s : Switches) (current : OpenSet) (outer : List OpenSet) (cs : List Char) :
    Option (SetReader × List Char) :=
  match s.skip cs with
  | ']' :: rest => some (close current outer, rest)
  | '&' :: '&' :: rest | '-' :: '-' :: rest | '~' :: '~' :: rest =>
    some (⟨current.operator :: outer, 0⟩, rest)
  | '[' :: rest =>
    match className? rest with
    | some (negated, rest) =>
      if allowsClassName s negated then some (⟨current.insert 0 :: outer, 0⟩, rest) else none
    | none => (openSet? s rest).map fun (inner, rest) => (⟨inner :: current :: outer, 0⟩, rest)
  | cs => (member? s cs).map fun rest => (⟨current.insert 0 :: outer, 0⟩, rest)

/-- Reads up to the end of the outermost set. Every step takes at least one character. -/
def read (s : Switches) (r : SetReader) (cs : List Char) : Option (Nat × List Char) :=
  match r.opened with
  | [] => some (r.closed, cs)
  | current :: outer =>
    match step? s current outer cs with
    | none => none
    | some (r, rest) => if rest.length < cs.length then read s r rest else none
termination_by cs.length

end SetReader

/-- Reads a set after the bracket that opens it. -/
def set? (s : Switches) (cs : List Char) : Option (Nat × List Char) :=
  (openSet? s cs).bind fun (set, rest) => SetReader.read s ⟨[set], 0⟩ rest

end WorkerSlots.Text.Pattern
