import WorkerSlots.MemorySize.Text
import WorkerSlots.SortedMap

/-!
# Managed memory

`ManagedMemory` : the memory of one slot, reserved by its users in whole pages.

* `reserve`, `release`, `releaseAll` : what an owner takes and gives back;
* `shutdown` : no more reservations; what is held stays held until it is released.
-/

namespace WorkerSlots

/-- The memory of one slot and who holds it. -/
structure ManagedMemory where
  pageSize : UInt64
  total : MemorySize
  used : MemorySize
  holdings : SortedMap String MemorySize
  isShutdown : Bool
  deriving DecidableEq

/-- Why memory is not reserved. -/
inductive MemoryError where
  | shutdown
  | insufficient (requested available : MemorySize)
  deriving DecidableEq

def MemoryError.message : MemoryError → String
  | shutdown => "memory manager has been shut down"
  | insufficient requested available =>
    s!"insufficient managed memory: requested {requested}, available {available}"

namespace ManagedMemory

/-- Memory of which nothing is held. There are no pages of size zero. -/
def new? (total : MemorySize) (pageSize : UInt64) : Option ManagedMemory :=
  if pageSize = 0 then none else some ⟨pageSize, total, .zero, .empty, false⟩

/-- The memory in the pages that hold so many bytes, up to the largest size. -/
def roundUp (m : ManagedMemory) (bytes : UInt64) : MemorySize :=
  let page := m.pageSize.toNat
  ⟨Word.clamp ((bytes.toNat + page - 1) / page * page)⟩

def available (m : ManagedMemory) : MemorySize := m.total.subSat m.used

def isUnused (m : ManagedMemory) : Bool := m.used.isZero

def held (m : ManagedMemory) (owner : String) : MemorySize := (m.holdings.get? owner).getD .zero

def reserve (m : ManagedMemory) (owner : String) (bytes : UInt64) :
    Except MemoryError MemorySize × ManagedMemory :=
  let amount := m.roundUp bytes
  if m.isShutdown then (.error .shutdown, m)
  else if amount ≤ m.available then
    (.ok amount,
      { m with
        used := ⟨m.used.bytes + amount.bytes⟩
        holdings := m.holdings.insert owner ⟨(m.held owner).bytes + amount.bytes⟩ })
  else (.error (.insufficient amount m.available), m)

/-- Releases the pages for so many bytes, as far as the owner holds them. -/
def release (m : ManagedMemory) (owner : String) (bytes : UInt64) : MemorySize × ManagedMemory :=
  match m.holdings.get? owner with
  | none => (.zero, m)
  | some held =>
    let amount := m.roundUp bytes
    let freed := if amount ≤ held then amount else held
    (freed,
      { m with
        used := ⟨m.used.bytes - freed.bytes⟩
        holdings :=
          if held = freed then m.holdings.erase owner
          else m.holdings.insert owner ⟨held.bytes - freed.bytes⟩ })

def releaseAll (m : ManagedMemory) (owner : String) : MemorySize × ManagedMemory :=
  let freed := m.held owner
  (freed, { m with used := ⟨m.used.bytes - freed.bytes⟩, holdings := m.holdings.erase owner })

def shutdown (m : ManagedMemory) : ManagedMemory := { m with isShutdown := true }

def inspect (m : ManagedMemory) : String :=
  "MemoryManager \x7b page_size: " ++ Text.decimal m.pageSize ++ ", total: MemorySize(" ++
    Text.decimal m.total.bytes ++ "), used: " ++ Text.decimal m.used.bytes ++ " \x7d"

end ManagedMemory

end WorkerSlots
