/-!
# Blanks and letter case

* `Text.isBlank` : the characters with Unicode's `White_Space` property;
* `Text.trim` : a text without the blanks at its two ends;
* `Text.fold` : a text trimmed, and with its ASCII letters in lower case.

Case is folded for ASCII letters only, so a letter such as `ſ` or the Kelvin sign stays itself.
-/

namespace WorkerSlots.Text

/-- The ranges of code points with the `White_Space` property, ends included. -/
def blankRanges : List (Nat × Nat) :=
  [(0x9, 0xd), (0x20, 0x20), (0x85, 0x85), (0xa0, 0xa0), (0x1680, 0x1680), (0x2000, 0x200a),
    (0x2028, 0x2029), (0x202f, 0x202f), (0x205f, 0x205f), (0x3000, 0x3000)]

/-- Whether a character has the `White_Space` property. -/
def isBlank (c : Char) : Bool :=
  blankRanges.any fun (first, last) => first ≤ c.toNat && c.toNat ≤ last

def trim (cs : List Char) : List Char :=
  ((cs.dropWhile isBlank).reverse.dropWhile isBlank).reverse

/-- ASCII letters in lower case; every other character as it is. -/
def lower (cs : List Char) : List Char := cs.map Char.toLower

/-- A text trimmed and in lower case, the form in which keywords are compared. -/
def fold (s : String) : String := String.ofList (lower (trim s.toList))

/-- Whether a text has no character but blanks. -/
def isBlankText (s : String) : Bool := (trim s.toList).isEmpty

end WorkerSlots.Text
