import WorkerSlots.Table.Lifecycle

/-!
# Giving slots back

* `free` : a slot without tasks leaves the table at once, and its resources go back to the
  budget; one with tasks is marked, and its tasks are told to fail;
* `close` : all live slots are freed. The table is closed once all of them are;
* `settle` : the end of the waits of slots that have left the table, and of the table itself;
* `onMemory` : users of managed memory find it by the number of the grant, whether or not the
  slot is still in the table.
-/

namespace WorkerSlots.SlotTable

/-- Takes an allocation of a job out of the books. -/
def withoutAllocation (jobSlots : SortedMap JobId (SortedMap AllocationId PUnit)) (job : JobId)
    (allocation : AllocationId) (allocations : SortedMap AllocationId PUnit) :
    SortedMap JobId (SortedMap AllocationId PUnit) :=
  let rest := allocations.erase allocation
  if rest.isEmpty then jobSlots.erase job else jobSlots.insert job rest

/-- Frees a slot that has no tasks: it leaves the books, and is closed apart from them. -/
def retire (t : SlotTable) (now : Nat) (slot : TaskSlot) (cause : String) : Reply FreedSlot :=
  match t.jobSlots.get? slot.job with
  | none => .refuse t (.broken (.jobWithoutSlots slot.job))
  | some allocations =>
    match t.budget.release? slot.profile with
    | none => .refuse t (.broken (.overRelease (t.budget.releaseFault slot.profile)))
    | some budget =>
      let (closing, failures) := slot.close now cause
      { result := .ok ⟨slot.index, .released, slot.grant⟩
        table :=
          { t with
            timers := t.timers.unregister slot.allocation
            budget
            slots := t.slots.erase slot.allocation
            indices := t.indices.erase slot.index
            jobSlots := withoutAllocation t.jobSlots slot.job slot.allocation allocations
            retired := t.retired.insert slot.grant closing }
        failures }

/-- Frees a slot that has tasks: it stays in the books until the last of them has left. -/
def drain (t : SlotTable) (now : Nat) (slot : TaskSlot) (cause : String) : Reply FreedSlot :=
  let (releasing, failures) := slot.close now cause
  { result := .ok ⟨slot.index, .draining, slot.grant⟩
    table := { t with slots := t.slots.insert slot.allocation releasing }
    failures }

/-- Frees the slot of an allocation, in any state of the table. -/
def release (t : SlotTable) (now : Nat) (allocation : AllocationId) (cause : String) :
    Reply FreedSlot :=
  match t.slots.get? allocation with
  | none => .refuse t (.allocationNotFound allocation)
  | some slot => if slot.isEmpty then t.retire now slot cause else t.drain now slot cause

def free (t : SlotTable) (now : Nat) (allocation : AllocationId) (cause : String) :
    Reply FreedSlot :=
  t.whenStarted (t.release now allocation cause)

/-! ## Freeing a slot asks nothing of the owner -/

theorem retire_actions (t : SlotTable) (now : Nat) (slot : TaskSlot) (cause : String) :
    (t.retire now slot cause).actions = [] := by
  unfold retire
  split
  · rfl
  · split <;> rfl

theorem release_actions (t : SlotTable) (now : Nat) (allocation : AllocationId)
    (cause : String) : (t.release now allocation cause).actions = [] := by
  unfold release
  split
  · rfl
  · split
    · exact retire_actions ..
    · rfl

theorem free_actions (t : SlotTable) (now : Nat) (allocation : AllocationId)
    (cause : String) : (t.free now allocation cause).actions = [] := by
  unfold free whenStarted
  split
  · exact release_actions ..
  · rfl

/-! ## Closing the table -/

/-- Why the tasks of a table that closes have to fail. -/
def closeCause : String := "closing task slot table"

/-- Frees the slots of some allocations, one after the other. -/
def releaseAll (now : Nat) : List AllocationId → SlotTable → Reply (List FreedSlot)
  | [], t => .answer t []
  | allocation :: rest, t =>
    (t.release now allocation closeCause).andThen fun freed t =>
      (releaseAll now rest t).map (freed :: ·)

/-- Closes the table; its slots are freed in a given order. -/
def closeInOrder (t : SlotTable) (now : Nat) (order : List AllocationId) : Reply PUnit :=
  match t.state with
  | .created => .answer { t with state := .closed } ⟨⟩
  | .running =>
    if !t.bound then .refuse t (.broken .runningUnbound)
    else
      (releaseAll now order { t with state := .closing }).andThen fun freed t =>
        .answer { t with awaited := freed.map (·.grant) } ⟨⟩
  | .closing | .closed => .answer t ⟨⟩

def close (t : SlotTable) (now : Nat) : Reply PUnit := t.closeInOrder now t.slots.keys

/-- Whether the slot of a grant has left the table and is closed. -/
def isGrantClosed (t : SlotTable) (grant : Nat) : Bool :=
  (t.retired.get? grant).any (·.isClosed)

/-- Closes a table that is closing and has no slot left to wait for. -/
def finishClose (t : SlotTable) : SlotTable :=
  if t.state = .closing ∧ t.awaited.all t.isGrantClosed then
    { t with state := .closed, timers := t.timers.cancel }
  else t

def settle (t : SlotTable) (now : Nat) : SlotTable :=
  finishClose { t with retired := t.retired.map (·.settle now) }

/-! ## Memory of granted slots -/

/-- Lets a user work on the memory of a granted slot. -/
def onMemory {α : Type} (t : SlotTable) (grant : Nat)
    (f : ManagedMemory → α × ManagedMemory) : Option (α × SlotTable) :=
  match t.retired.get? grant with
  | some slot =>
    let (answer, memory) := f slot.memory
    some (answer, { t with retired := t.retired.insert grant { slot with memory } })
  | none =>
    (t.slots.values.find? (·.grant = grant)).map fun slot =>
      let (answer, memory) := f slot.memory
      (answer, { t with slots := t.slots.insert slot.allocation { slot with memory } })

end WorkerSlots.SlotTable
