import WorkerSlots.Clock
import WorkerSlots.ManagedMemory

/-!
# Managed memory in time

`MemoryRun` : managed memory and the time. Nothing happens to memory by itself, so whoever waits
for it to be released waits in vain or not at all.
-/

namespace WorkerSlots

/-- Managed memory as time passes. -/
structure MemoryRun where
  now : Nat
  memory : ManagedMemory

namespace MemoryRun

def new (memory : ManagedMemory) : MemoryRun := ⟨0, memory⟩

instance : Timed MemoryRun where
  now := MemoryRun.now
  next? _ := none
  moveTo time r := { r with now := time }
  settle r := r
  pending _ := 0

def onMemory {α : Type} (r : MemoryRun) (f : ManagedMemory → α × ManagedMemory) : α × MemoryRun :=
  let (answer, memory) := f r.memory
  (answer, { r with memory })

end MemoryRun

end WorkerSlots
