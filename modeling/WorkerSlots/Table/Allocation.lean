import WorkerSlots.Table.Lifecycle

/-!
# Granting slots

* `allocate` : a slot for an allocation. A request for a slot that the allocation already has is
  answered with its index and changes nothing;
* `markActive`, `tryMarkActive` : a job claims its slot, which takes the timeout back;
* `markInactive` : a job lets its slot go for the time being, which arms a timeout again.
-/

namespace WorkerSlots.SlotTable

def requestedIndex (t : SlotTable) : IndexRequest → SlotIndex
  | .dynamic => t.nextDynamic
  | .fixed index => index

/-- What a slot has to hold by a request. -/
def requestedProfile (t : SlotTable) (request : SlotRequest) : ResourceProfile :=
  request.profile.getD t.config.defaultSlotProfile

/-- Whether a slot of the allocation is the one that a request asks for. -/
def isAsRequested (t : SlotTable) (slot : TaskSlot) (request : SlotRequest) : Bool :=
  slot.job = request.job && slot.profile = t.requestedProfile request &&
    match request.index with
    | .dynamic => t.isDynamicIndex slot.index
    | .fixed index => slot.index = index

/-- The next dynamic index if a slot is granted at an index, or why none can be granted there.
A dynamic index is granted once only, so the next one is always above those already granted. -/
def nextDynamicAfter (t : SlotTable) (index : SlotIndex) : Except Conflict SlotIndex :=
  match t.indices.get? index with
  | some owner => .error (.indexTaken index owner)
  | none =>
    if !t.isDynamicIndex index then .ok t.nextDynamic
    else if index < t.nextDynamic then .error (.indexSpent index)
    else
      match Word.add? index 1 with
      | some next => .ok next
      | none => .error (.lastIndex index)

def insertSlot (t : SlotTable) (slot : TaskSlot) : SlotTable :=
  let allocations := (t.jobSlots.get? slot.job).getD .empty
  { t with
    slots := t.slots.insert slot.allocation slot
    indices := t.indices.insert slot.index slot.allocation
    jobSlots := t.jobSlots.insert slot.job (allocations.insert slot.allocation ⟨⟩)
    grants := t.grants + 1 }

/-- Grants a new slot at an index. What it holds is reserved before its timeout is armed, and
goes back if that fails. -/
def grant (t : SlotTable) (now : Nat) (request : SlotRequest) (index nextDynamic : SlotIndex) :
    Reply SlotIndex :=
  let profile := t.requestedProfile request
  match t.budget.reserve? profile with
  | none => .refuse t (.resourceExhausted profile t.budget.available t.budget.total)
  | some budget =>
    match t.timers.register now request.allocation request.timeoutMs with
    | .error e =>
      match budget.release? profile with
      | some budget => .refuse { t with budget } (.timer e)
      | none => .refuse { t with budget } (.broken (.overRelease (budget.releaseFault profile)))
    | .ok (_, timers) =>
      match TaskSlot.new? t.grants index profile t.config.memoryPageSize request.job
          request.allocation t.config.memoryReleaseGraceMs with
      | none => .refuse { t with budget, timers } (.broken .zeroPageSize)
      | some slot =>
        .answer { t.insertSlot slot with budget, timers, nextDynamic } index

/-- Grants a slot to a job, unless the allocation already has the slot that is requested. -/
def allocate (t : SlotTable) (now : Nat) (request : SlotRequest) : Reply SlotIndex :=
  t.whenRunning <|
    if !t.bound then .refuse t (.illegalState .unbound)
    else
      match t.slots.get? request.allocation with
      | some slot =>
        if t.isAsRequested slot request then .answer t slot.index
        else .refuse t <| .allocationConflict <|
          .grantedOtherwise slot.allocation slot.profile slot.job slot.index
      | none =>
        let index := t.requestedIndex request.index
        match t.nextDynamicAfter index with
        | .error conflict => .refuse t (.allocationConflict conflict)
        | .ok nextDynamic => t.grant now request index nextDynamic

/-- Makes a live slot active, if it is allocated. -/
def activate (t : SlotTable) (slot : TaskSlot) : Reply Bool :=
  match slot.activate? with
  | none => .answer t false
  | some active =>
    .answer
      { t with
        slots := t.slots.insert slot.allocation active
        timers := t.timers.unregister slot.allocation }
      true

/-- Makes the slot of an allocation active. The answer is whether it was allocated. -/
def markActive (t : SlotTable) (allocation : AllocationId) : Reply Bool :=
  t.whenRunning <|
    match t.slots.get? allocation with
    | none => .refuse t (.allocationNotFound allocation)
    | some slot => t.activate slot

/-- Makes the slot of an allocation active if it is a certain job's. No state of the table rules
this out. -/
def tryMarkActive (t : SlotTable) (job : JobId) (allocation : AllocationId) : Reply Bool :=
  match t.slots.get? allocation with
  | some slot => if slot.isAllocated job allocation then t.activate slot else .answer t false
  | none => .answer t false

/-- Makes the slot of an allocation inactive, so that it has to be claimed again in time. The
answer is whether it was active. -/
def markInactive (t : SlotTable) (now : Nat) (allocation : AllocationId) (timeoutMs : UInt64) :
    Reply Bool :=
  t.whenStarted <|
    match t.slots.get? allocation with
    | none => .refuse t (.allocationNotFound allocation)
    | some slot =>
      match slot.deactivate? with
      | none => .answer t false
      | some inactive =>
        let t := { t with slots := t.slots.insert allocation inactive }
        match t.timers.register now allocation timeoutMs with
        | .error e => .refuse t (.timer e)
        | .ok (_, timers) => .answer { t with timers } true

end WorkerSlots.SlotTable
