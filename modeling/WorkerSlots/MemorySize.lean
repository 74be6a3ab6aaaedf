import WorkerSlots.Word

/-!
# Memory sizes

`MemorySize` : an amount of memory as a count of bytes, with checked and saturating arithmetic.
-/

namespace WorkerSlots

/-- An amount of memory in bytes. -/
structure MemorySize where
  bytes : UInt64
  deriving DecidableEq, Inhabited

namespace MemorySize

instance : LE MemorySize := ⟨fun a b => a.bytes ≤ b.bytes⟩

instance (a b : MemorySize) : Decidable (a ≤ b) :=
  inferInstanceAs (Decidable (a.bytes ≤ b.bytes))

instance : Ord MemorySize := ⟨fun a b => compare a.bytes b.bytes⟩

def zero : MemorySize := ⟨0⟩

def isZero (a : MemorySize) : Bool := a.bytes = 0

def add? (a b : MemorySize) : Option MemorySize := (Word.add? a.bytes b.bytes).map mk

def sub? (a b : MemorySize) : Option MemorySize := (Word.sub? a.bytes b.bytes).map mk

/-- The sum, or the largest size. -/
def addSat (a b : MemorySize) : MemorySize := ⟨Word.addSat a.bytes b.bytes⟩

/-- The difference, or no memory. -/
def subSat (a b : MemorySize) : MemorySize := ⟨Word.subSat a.bytes b.bytes⟩

/-- An equal share of the memory, rounded down. -/
def share (a : MemorySize) (parts : UInt64) : MemorySize := ⟨a.bytes / parts⟩

end MemorySize

end WorkerSlots
