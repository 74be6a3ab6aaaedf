import WorkerSlots.Json
import WorkerSlots.Text.Decimal

/-!
# Reading JSON

`Json.parse?` reads a whole text as one JSON value, with blanks (space, tab, carriage return, line
feed) allowed around every token and nothing else after the value. There are no extensions:
no leading zeros, no trailing commas, no raw control characters in strings.

* `Json.StringUnit`, `Json.joinUnits?` : a string literal as its characters and its halves of
  surrogate pairs, and the text that they denote;
* `Json.readNumber?`, `Json.readUnits?` : the tokens;
* `Json.readValue?` : a value at the head of a text, and the rest of the text. Its fuel bounds
  the depth of the calls; `Json.parse?` gives as much as the text can need.
-/

namespace WorkerSlots.Json

def skip (cs : List Char) : List Char :=
  cs.dropWhile fun c => c = ' ' || c = '\t' || c = '\n' || c = '\r'

/-! ## Strings -/

/-- What one character or escape of a string literal stands for. -/
inductive StringUnit where
  | char (c : Char)
  | half (code : Nat)
  deriving DecidableEq

/-- The unit of a 16-bit code: half a surrogate pair, or a character. -/
def StringUnit.ofCode (code : Nat) : StringUnit :=
  if 0xd800 ≤ code ∧ code ≤ 0xdfff then .half code else .char (Char.ofNat code)

/-- The text of a list of units, if every half stands in a pair. -/
def joinUnits? : List StringUnit → Option (List Char)
  | [] => some []
  | .char c :: rest => (joinUnits? rest).map (c :: ·)
  | .half hi :: .half lo :: rest =>
    if hi < 0xdc00 ∧ 0xdc00 ≤ lo then
      (joinUnits? rest).map
        (Char.ofNat (0x10000 + (hi - 0xd800) * 0x400 + (lo - 0xdc00)) :: ·)
    else none
  | .half _ :: _ => none

/-- The character that a one-letter escape stands for. -/
def escaped? (c : Char) : Option Char :=
  match c with
  | '"' => some '"'
  | '\\' => some '\\'
  | '/' => some '/'
  | 'b' => some '\x08'
  | 'f' => some '\x0c'
  | 'n' => some '\n'
  | 'r' => some '\r'
  | 't' => some '\t'
  | _ => none

/-- Reads a string literal after its opening quote, up to the closing one. -/
def readUnits? : List Char → Option (List StringUnit × List Char)
  | [] => none
  | '"' :: rest => some ([], rest)
  | '\\' :: 'u' :: a :: b :: c :: d :: rest =>
    match Text.hexNumber? [a, b, c, d] with
    | none => none
    | some code => (readUnits? rest).map fun (us, r) => (StringUnit.ofCode code :: us, r)
  | '\\' :: c :: rest =>
    match escaped? c with
    | none => none
    | some e => (readUnits? rest).map fun (us, r) => (.char e :: us, r)
  | c :: rest =>
    if c = '\\' ∨ c.toNat < 0x20 then none
    else (readUnits? rest).map fun (us, r) => (.char c :: us, r)

/-- Reads a string literal after its opening quote; the text is absent if it is garbled. -/
def readText? (cs : List Char) : Option (Option String × List Char) :=
  (readUnits? cs).map fun (us, rest) => ((joinUnits? us).map String.ofList, rest)

/-! ## Numbers -/

/-- A run of at least one digit at the head of a text, and the rest. -/
def readDigits? (cs : List Char) : Option (List Char × List Char) :=
  match cs.takeWhile Char.isDigit with
  | [] => none
  | digits => some (digits, cs.dropWhile Char.isDigit)

/-- Reads an integer part: a single zero, or digits that do not begin with one. -/
def readInteger? (cs : List Char) : Option (List Char × List Char) :=
  match cs with
  | '0' :: rest => some (['0'], rest)
  | cs => readDigits? cs

def readFraction? (cs : List Char) : Option (List Char × List Char) :=
  match cs with
  | '.' :: rest => (readDigits? rest).map fun (digits, r) => ('.' :: digits, r)
  | cs => some ([], cs)

def readExponent? (cs : List Char) : Option (List Char × List Char) :=
  match cs with
  | c :: rest =>
    if c = 'e' ∨ c = 'E' then
      match rest with
      | s :: rest' =>
        if s = '+' ∨ s = '-' then (readDigits? rest').map fun (ds, r) => (c :: s :: ds, r)
        else (readDigits? rest).map fun (ds, r) => (c :: ds, r)
      | [] => none
    else some ([], cs)
  | [] => some ([], [])

def readNumber? (cs : List Char) : Option (String × List Char) :=
  let (sign, cs) := match cs with
    | '-' :: rest => (['-'], rest)
    | cs => ([], cs)
  do
    let (integer, cs) ← readInteger? cs
    let (fraction, cs) ← readFraction? cs
    let (exponent, cs) ← readExponent? cs
    return (String.ofList (sign ++ integer ++ fraction ++ exponent), cs)

/-! ## Values -/

/-- An object of the members read, garbled if one of the names is. -/
def ofMembers (members : List (Option String × Json)) : Json :=
  match members.mapM fun (name, value) => name.map (·, value) with
  | some members => .object members
  | none => .garbled

mutual

def readValue? : Nat → List Char → Option (Json × List Char)
  | 0, _ => none
  | fuel + 1, cs =>
    match skip cs with
    | 'n' :: 'u' :: 'l' :: 'l' :: rest => some (.null, rest)
    | 't' :: 'r' :: 'u' :: 'e' :: rest => some (.bool true, rest)
    | 'f' :: 'a' :: 'l' :: 's' :: 'e' :: rest => some (.bool false, rest)
    | '"' :: rest => (readText? rest).map fun (t, r) => (t.elim .garbled .text, r)
    | '[' :: rest =>
      match skip rest with
      | ']' :: r => some (.array [], r)
      | _ => (readItems? fuel rest).map fun (items, r) => (.array items, r)
    | '\x7b' :: rest =>
      match skip rest with
      | '\x7d' :: r => some (.object [], r)
      | _ => (readMembers? fuel rest).map fun (members, r) => (ofMembers members, r)
    | cs => (readNumber? cs).map fun (literal, r) => (.number literal, r)

/-- Reads the items of an array up to its closing bracket. -/
def readItems? : Nat → List Char → Option (List Json × List Char)
  | 0, _ => none
  | fuel + 1, cs =>
    match readValue? fuel cs with
    | none => none
    | some (item, rest) =>
      match skip rest with
      | ',' :: rest => (readItems? fuel rest).map fun (items, r) => (item :: items, r)
      | ']' :: rest => some ([item], rest)
      | _ => none

/-- Reads the members of an object up to its closing brace. -/
def readMembers? : Nat → List Char → Option (List (Option String × Json) × List Char)
  | 0, _ => none
  | fuel + 1, cs =>
    match skip cs with
    | '"' :: rest =>
      match readText? rest with
      | none => none
      | some (name, rest) =>
        match skip rest with
        | ':' :: rest =>
          match readValue? fuel rest with
          | none => none
          | some (value, rest) =>
            match skip rest with
            | ',' :: rest =>
              (readMembers? fuel rest).map fun (members, r) => ((name, value) :: members, r)
            | '\x7d' :: rest => some ([(name, value)], rest)
            | _ => none
        | _ => none
    | _ => none

end

def parse? (s : String) : Option Json :=
  match readValue? (2 * s.length + 2) s.toList with
  | some (value, rest) => if (skip rest).isEmpty then some value else none
  | none => none

end WorkerSlots.Json
