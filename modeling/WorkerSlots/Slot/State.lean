import WorkerSlots.Json.Record

/-!
# Slot states

`SlotState` : what a live slot is used for. An index without a slot is free; there is no state
for that.
-/

namespace WorkerSlots

/-- The state of a live slot. -/
inductive SlotState where
  /-- Granted to a job that has not claimed it yet. -/
  | allocated
  /-- Claimed by its job; tasks may be bound. -/
  | active
  /-- To be given back once the last task is gone. -/
  | releasing
  deriving DecidableEq, Repr

namespace SlotState

def name : SlotState → String
  | allocated => "allocated"
  | active => "active"
  | releasing => "releasing"

/-- The name of a state in the form used for inspection. -/
def inspect : SlotState → String
  | allocated => "Allocated"
  | active => "Active"
  | releasing => "Releasing"

instance : ToString SlotState := ⟨name⟩

def all : List SlotState := [allocated, active, releasing]

def toJson (s : SlotState) : Json := .text s.name

def ofJson? : Json → Option SlotState := Json.asPlainCase? (all.map fun s => (s.name, s))

end SlotState

end WorkerSlots
