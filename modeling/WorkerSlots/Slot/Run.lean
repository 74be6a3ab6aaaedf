import WorkerSlots.Clock
import WorkerSlots.Slot

/-!
# Slots in time

`SlotRun` : a slot, the time, and the tasks that have been told to fail so far.
-/

namespace WorkerSlots

/-- A slot as time passes. -/
structure SlotRun where
  now : Nat
  slot : TaskSlot
  /-- Whether the slot is given up. A teardown that waits goes on; no other will begin. -/
  abandoned : Bool
  /-- The tasks that were told to fail, the earliest first. -/
  failures : List TaskFailure

namespace SlotRun

def new (slot : TaskSlot) : SlotRun := ⟨0, slot, false, []⟩

/-- Ends the slot's wait for memory if it is over. -/
def settle (r : SlotRun) : SlotRun := { r with slot := r.slot.settle r.now }

instance : Timed SlotRun where
  now := SlotRun.now
  next? r := r.slot.deadline?
  moveTo time r := { r with now := time }
  settle := settle
  pending _ := 1

/-- Whether those who wait for the slot to close need wait no longer. -/
def isDone (r : SlotRun) : Bool := r.slot.isClosed || (r.abandoned && r.slot.teardown = .idle)

/-- Asks for the slot to be given back. -/
def close (r : SlotRun) (cause : String) : SlotRun :=
  let (slot, failures) := r.slot.close r.now cause
  { r with slot, failures := r.failures ++ failures }

def abandon (r : SlotRun) : SlotRun := { r with abandoned := true }

/-- Lets a user work on the slot's memory. -/
def onMemory {α : Type} (r : SlotRun) (f : ManagedMemory → α × ManagedMemory) : α × SlotRun :=
  let (answer, memory) := f r.slot.memory
  (answer, { r with slot := { r.slot with memory } })

end SlotRun

end WorkerSlots
