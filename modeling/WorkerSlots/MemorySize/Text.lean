import WorkerSlots.MemorySize
import WorkerSlots.Text.Blank
import WorkerSlots.Text.Decimal

/-!
# Memory sizes as text

* `MemoryUnit` : the units, binary multiples of the byte, with their spellings;
* `MemorySize.ofText` : reads a decimal number and an optional unit, in any ASCII letter case and
  with blanks around either of them; a number without a unit counts bytes;
* `MemorySize.toText` : writes a size in the largest unit that divides it.
-/

namespace WorkerSlots

/-- A unit of memory. -/
inductive MemoryUnit where
  | byte
  | kibi
  | mebi
  | gibi
  | tebi
  deriving DecidableEq, Repr

namespace MemoryUnit

/-- Every unit, the smallest first. -/
def all : List MemoryUnit := [byte, kibi, mebi, gibi, tebi]

def factor : MemoryUnit → UInt64
  | byte => 1
  | kibi => 0x400
  | mebi => 0x100000
  | gibi => 0x40000000
  | tebi => 0x10000000000

/-- What a unit may be called in a size, in lower case. -/
def spellings : MemoryUnit → List String
  | byte => ["", "b", "bytes"]
  | kibi => ["k", "kb", "kib", "kibibytes"]
  | mebi => ["m", "mb", "mib", "mebibytes"]
  | gibi => ["g", "gb", "gib", "gibibytes"]
  | tebi => ["t", "tb", "tib", "tebibytes"]

/-- The spelling in which a unit is written. -/
def name : MemoryUnit → String
  | byte => "bytes"
  | kibi => "kb"
  | mebi => "mb"
  | gibi => "gb"
  | tebi => "tb"

def ofSpelling? (spelling : String) : Option MemoryUnit := all.find? (spelling ∈ spellings ·)

end MemoryUnit

/-- Why a text is no memory size. -/
inductive MemorySizeError where
  /-- There is nothing but blanks. -/
  | empty
  /-- The text does not begin with a number below 2^64. -/
  | invalidNumber (text : String)
  /-- What follows the number is no unit. -/
  | unknownUnit (unit : String)
  /-- The size is 2^64 bytes or more. -/
  | overflow (text : String)
  deriving DecidableEq, Repr

def MemorySizeError.message : MemorySizeError → String
  | empty => "empty memory size"
  | invalidNumber text => s!"invalid number in memory size: {text}"
  | unknownUnit unit => s!"unknown memory unit: {unit} (expected: b|k|m|g|t)"
  | overflow text => s!"memory size overflows 64 bits: {text}"

namespace MemorySize

/-- The size of a count of units, if it fits. -/
def ofUnits? (count : UInt64) (unit : MemoryUnit) : Option MemorySize :=
  (Word.mul? count unit.factor).map mk

def ofText (text : String) : Except MemorySizeError MemorySize :=
  let folded := Text.lower (Text.trim text.toList)
  if folded.isEmpty then .error .empty
  else
    match Text.word? (folded.takeWhile Char.isDigit) with
    | none => .error (.invalidNumber text)
    | some count =>
      let spelling := String.ofList (Text.trim (folded.dropWhile Char.isDigit))
      match MemoryUnit.ofSpelling? spelling with
      | none => .error (.unknownUnit spelling)
      | some unit =>
        match ofUnits? count unit with
        | none => .error (.overflow text)
        | some size => .ok size

/-- The unit in which a size is written: the largest that divides it, and bytes for zero. -/
def writtenUnit (a : MemorySize) : MemoryUnit :=
  if a.isZero then .byte
  else (MemoryUnit.all.reverse.find? fun u => a.bytes % u.factor = 0).getD .byte

def toText (a : MemorySize) : String :=
  Text.decimal (a.bytes / a.writtenUnit.factor) ++ " " ++ a.writtenUnit.name

instance : ToString MemorySize := ⟨toText⟩

end MemorySize

end WorkerSlots
