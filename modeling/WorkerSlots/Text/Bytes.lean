import WorkerSlots.Text.Quoted

/-!
# Places in bytes

* `Text.byteLength` : how long a text is in UTF-8;
* `Text.takeBytes`, `Text.dropBytes` : the two sides of a place given in bytes;
* `Text.piece` : what stands between two places. No place may be inside a character, or else there
  is a `SplitCharacter`.
-/

namespace WorkerSlots

/-- A place inside a character. -/
structure SplitCharacter where
  /-- Whether a piece was to begin there; if not, one was to end there. -/
  isStart : Bool
  index : Nat
  char : Char
  /-- Where the character begins. -/
  first : Nat
  deriving DecidableEq, Repr

def SplitCharacter.message (s : SplitCharacter) : String :=
  let side := if s.isStart then "start" else "end"
  s!"{side} byte index {s.index} is not a char boundary; it is inside {Text.quotedChar s.char} " ++
    s!"(bytes {s.first}..{s.first + s.char.utf8Size} of string)"

namespace Text

def byteLength (cs : List Char) : Nat := cs.foldl (fun n c => n + c.utf8Size) 0

/-- The characters that begin in the first `n` bytes. -/
def takeBytes : Nat → List Char → List Char
  | _, [] => []
  | n, c :: cs => if n = 0 then [] else c :: takeBytes (n - c.utf8Size) cs

/-- The characters that begin after the first `n` bytes. -/
def dropBytes : Nat → List Char → List Char
  | _, [] => []
  | n, c :: cs => if n = 0 then c :: cs else dropBytes (n - c.utf8Size) cs

/-- The character in which a place is, and where it begins; `first` is where the text begins. -/
def split? (index : Nat) : Nat → List Char → Option (Char × Nat)
  | _, [] => none
  | first, c :: cs =>
    if index ≤ first then none
    else if index < first + c.utf8Size then some (c, first)
    else split? index (first + c.utf8Size) cs

/-- The piece of a text between two places. -/
def piece (cs : List Char) (start stop : Nat) : Except SplitCharacter (List Char) :=
  match split? start 0 cs, split? stop 0 cs with
  | some (char, first), _ => .error ⟨true, start, char, first⟩
  | none, some (char, first) => .error ⟨false, stop, char, first⟩
  | none, none => .ok (dropBytes start (takeBytes stop cs))

end Text

end WorkerSlots
