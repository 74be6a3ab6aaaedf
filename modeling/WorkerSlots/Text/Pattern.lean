import WorkerSlots.Text.Alphanumeric
import WorkerSlots.Text.Pattern.CharSet

/-!
# Patterns

A pattern describes texts: atoms and sets of characters one after another, alternatives, and
groups, each of which may be repeated. Patterns are written in braces, so there is no counted
repetition: outside sets a brace has to be escaped.

* `Pattern.Piece` : what has to be known of a piece of a pattern;
* `Pattern.Reader` : the groups that are open, and the pieces in them;
* `Pattern.Reader.step?` : reads the next piece, or a part of one;
* `Pattern.isValid` : whether a text is a pattern.
-/

namespace WorkerSlots.Text.Pattern

/-- What has to be known of a piece of a pattern. -/
structure Piece where
  /-- How deeply things are nested in it. -/
  depth : Nat
  /-- Whether there is something that can be repeated. -/
  isRepeatable : Bool

namespace Piece

def atom : Piece := ⟨0, true⟩

/-- A piece that only switches things on and off. -/
def directive : Piece := ⟨0, false⟩

/-- What is in parentheses, or repeated, with its depth before that. -/
def wrapped (depth : Nat) : Piece := ⟨1 + depth, true⟩

end Piece

/-- A group that is open, and what stands before it in the group around it. -/
structure Group where
  /-- What is switched on before the group. -/
  switches : Switches
  pieces : List Piece
  alternatives : List Nat

/-- The reader of a pattern. -/
structure Reader where
  switches : Switches
  /-- The pieces of the last alternative of the innermost group, the last first. -/
  pieces : List Piece
  /-- How deep the other alternatives of the innermost group are. -/
  alternatives : List Nat
  /-- The groups that are open, the innermost first. -/
  outer : List Group
  /-- The names of the groups so far. -/
  names : List (List Char)

/-- The switches of a group: `-` before a letter switches off what it stands for. -/
def switchLetters : List Char := "imsUuxR-".toList

def Switches.apply (s : Switches) (letters : List Char) : Switches :=
  let value (letter : Char) (before : Bool) : Bool :=
    if letters.contains letter then (letters.takeWhile (· ≠ '-')).contains letter else before
  ⟨value 'i' s.foldsCase, value 'u' s.matchesChars, value 'x' s.isSpaced⟩

/-- Whether characters may be the switches of a group: no letter comes twice, and a hyphen is not
the last. -/
def areSwitches (letters : List Char) : Bool :=
  letters.all switchLetters.contains && letters.eraseDups.length = letters.length &&
    letters.getLast? ≠ some '-'

/-- Whether a text may be the name of a group. -/
def isGroupName : List Char → Bool
  | [] => false
  | first :: rest =>
    (first = '_' || isAlphabetic first) &&
      rest.all fun c => isAlphanumeric c || c = '_' || c = '.' || c = '[' || c = ']'

namespace Reader

def insert (r : Reader) (p : Piece) : Reader := { r with pieces := p :: r.pieces }

/-- How deep the last alternative of the innermost group is. -/
def alternativeDepth (r : Reader) : Nat := rowDepth (r.pieces.map Piece.depth)

def depth (r : Reader) : Nat := rowDepth (r.alternativeDepth :: r.alternatives)

def enter (r : Reader) (switches : Switches) : Reader :=
  { r with
    switches
    pieces := []
    alternatives := []
    outer := ⟨r.switches, r.pieces, r.alternatives⟩ :: r.outer }

def leave? (r : Reader) : Option Reader :=
  match r.outer with
  | [] => none
  | group :: outer =>
    some { r with
      switches := group.switches
      pieces := .wrapped r.depth :: group.pieces
      alternatives := group.alternatives
      outer }

def enterNamed? (r : Reader) (cs : List Char) : Option (Reader × List Char) :=
  let name := cs.takeWhile (· ≠ '>')
  match cs.dropWhile (· ≠ '>') with
  | [] => none
  | _ :: rest =>
    if isGroupName name && !r.names.contains name then
      some ({ r.enter r.switches with names := name :: r.names }, rest)
    else none

/-- Opens a group with switches, or applies switches up to the end of the group around them. -/
def switch? (r : Reader) (cs : List Char) : Option (Reader × List Char) :=
  let letters := cs.takeWhile fun c => c ≠ ':' && c ≠ ')'
  let switches := r.switches.apply letters
  if !areSwitches letters then none
  else
    match cs.dropWhile fun c => c ≠ ':' && c ≠ ')' with
    | ':' :: rest => some (r.enter switches, rest)
    | ')' :: rest =>
      if letters.isEmpty then none else some ({ r.insert .directive with switches }, rest)
    | _ => none

def open? (r : Reader) (cs : List Char) : Option (Reader × List Char) :=
  match r.switches.skip cs with
  | '?' :: 'P' :: '<' :: rest | '?' :: '<' :: rest => r.enterNamed? rest
  | '?' :: rest => r.switch? rest
  | rest => some (r.enter r.switches, rest)

def repeat? (r : Reader) : Option Reader :=
  match r.pieces with
  | [] => none
  | last :: pieces =>
    if last.isRepeatable then some { r with pieces := .wrapped last.depth :: pieces } else none

/-- Reads the next piece, or what opens, divides, closes or repeats one. -/
def step? (r : Reader) (cs : List Char) : Option (Reader × List Char) :=
  match cs with
  | '(' :: rest => r.open? rest
  | ')' :: rest => r.leave?.map (·, rest)
  | '|' :: rest =>
    some ({ r with pieces := [], alternatives := r.alternativeDepth :: r.alternatives }, rest)
  | '*' :: '?' :: rest | '+' :: '?' :: rest | '?' :: '?' :: rest
  | '*' :: rest | '+' :: rest | '?' :: rest => r.repeat?.map (·, rest)
  | '\x7b' :: _ => none
  | '[' :: rest => (set? r.switches rest).map fun (depth, rest) => (r.insert ⟨depth, true⟩, rest)
  | '.' :: rest => if r.switches.matchesChars then some (r.insert .atom, rest) else none
  | '^' :: rest | '$' :: rest => some (r.insert .atom, rest)
  | cs =>
    (atom? r.switches cs).bind fun (atom, rest) =>
      if atom.isAllowed r.switches then some (r.insert .atom, rest) else none

/-- Reads a pattern to its end. Every step takes at least one character. -/
def read (r : Reader) (cs : List Char) : Option Reader :=
  match r.switches.skip cs with
  | [] => some r
  | c :: rest =>
    match step? r (c :: rest) with
    | none => none
    | some (r, rest) => if rest.length < cs.length then read r rest else none
termination_by cs.length

end Reader

/-- How deeply things may be nested in a pattern. -/
def maxDepth : Nat := 250

def isValid (cs : List Char) : Bool :=
  (Reader.read ⟨.standard, [], [], [], []⟩ cs).any fun r =>
    r.outer.isEmpty && r.depth ≤ maxDepth

end WorkerSlots.Text.Pattern
