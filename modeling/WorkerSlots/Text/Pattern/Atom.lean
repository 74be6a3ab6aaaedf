import WorkerSlots.Text.Blank
import WorkerSlots.Text.Decimal

/-!
# Atoms of patterns

* `Pattern.Switches` : what groups can switch on and off, as far as it decides what is a pattern;
* `Pattern.Atom` : what one character, or one escape, stands for, and where it is allowed;
* `Pattern.escape?` : reads an escape.

Patterns match characters, or bytes where this is switched on, and never a part of a character.
There are no tables of letters in both cases, of classes or of words beyond ASCII, so where
characters are matched neither these classes nor the ends of words can be used, and nothing can
be matched in both cases.
-/

namespace WorkerSlots.Text.Pattern

/-- What is switched on at a place of a pattern. -/
structure Switches where
  /-- Whether letters are matched in both cases. -/
  foldsCase : Bool
  /-- Whether characters are matched, not bytes. -/
  matchesChars : Bool
  /-- Whether blanks and comments count for nothing. -/
  isSpaced : Bool
  deriving DecidableEq

/-- What is switched on where a pattern begins. -/
def Switches.standard : Switches := ⟨false, true, false⟩

/-- Drops blanks, and comments from `#` to the end of the line. -/
def dropComments (inComment : Bool) : List Char → List Char
  | [] => []
  | c :: cs =>
    if inComment then dropComments (c ≠ '\n') cs
    else if isBlank c then dropComments false cs
    else if c = '#' then dropComments true cs
    else c :: cs

namespace Switches

def skip (s : Switches) (cs : List Char) : List Char :=
  if s.isSpaced then dropComments false cs else cs

/-- The next character that counts. A comment is entered here, not skipped; if nothing counts, it
is the next character of any kind. -/
def peek? (s : Switches) (cs : List Char) : Option Char :=
  if s.isSpaced then
    let rest := match cs.dropWhile isBlank with
      | '#' :: comment => comment.dropWhile isBlank
      | rest => rest
    rest.head? <|> cs.head?
  else cs.head?

end Switches

/-- What one character or escape stands for. -/
inductive Atom where
  /-- A character; `isByte` says that it is given by two hexadecimal digits. -/
  | char (c : Char) (isByte : Bool)
  /-- One of the classes of digits, of blanks and of word characters, or what is not in it. -/
  | charClass (negated : Bool)
  /-- An end of the text. -/
  | textEnd
  /-- An end of a word, or any other place. -/
  | wordEnd
  deriving DecidableEq

namespace Atom

def isAllowed (s : Switches) : Atom → Bool
  | char c isByte => if s.matchesChars then !s.foldsCase else !isByte || c.toNat ≤ 0x7f
  | charClass negated => !s.matchesChars && !negated
  | textEnd => true
  | wordEnd => !s.matchesChars

/-- Whether an atom may be a member of a set. -/
def isAllowedInSet (s : Switches) : Atom → Bool
  | char c _ => if s.matchesChars then !s.foldsCase else c.toNat ≤ 0x7f
  | charClass negated => !s.matchesChars && !negated
  | textEnd | wordEnd => false

end Atom

def hexNumber? (s : Switches) : Nat → Nat → List Char → Option (Nat × List Char)
  | 0, n, cs => some (n, cs)
  | count + 1, n, cs =>
    match s.skip cs with
    | [] => none
    | c :: cs => (hexValue? c).bind fun d => hexNumber? s count (16 * n + d) cs

def hexChar? (s : Switches) (count : Nat) (cs : List Char) : Option (Char × List Char) :=
  (hexNumber? s count 0 cs).bind fun (n, cs) =>
    if (Char.ofNat n).toNat = n then some (Char.ofNat n, cs) else none

/-- The control characters that have a letter of their own. -/
def controlEscapes : List (Char × Char) :=
  [('a', '\x07'), ('f', '\x0c'), ('t', '\t'), ('n', '\n'), ('r', '\r'), ('v', '\x0b')]

/-- Whether a backslash makes a character stand for itself: all of ASCII but letters, digits and
angle brackets. -/
def isPlainEscape (c : Char) : Bool := c.toNat < 128 && !c.isAlphanum && c ≠ '<' && c ≠ '>'

def escape? (s : Switches) : List Char → Option (Atom × List Char)
  | [] => none
  | c :: cs =>
    if c = 'x' then (hexChar? s 2 cs).map fun (c, cs) => (.char c true, cs)
    else if c = 'u' then (hexChar? s 4 cs).map fun (c, cs) => (.char c false, cs)
    else if c = 'U' then (hexChar? s 8 cs).map fun (c, cs) => (.char c false, cs)
    else if "dsw".contains c then some (.charClass false, cs)
    else if "DSW".contains c then some (.charClass true, cs)
    else if "Az".contains c then some (.textEnd, cs)
    else if "bB<>".contains c then some (.wordEnd, cs)
    else if isPlainEscape c then some (.char c false, cs)
    else (controlEscapes.lookup c).map fun control => (.char control false, cs)

end WorkerSlots.Text.Pattern
