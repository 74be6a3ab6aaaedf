import WorkerSlots.Budget
import WorkerSlots.Slot.Report
import WorkerSlots.Table.Error

/-!
# The slot table

`SlotTable` : the slots of one worker. The live slots are kept by allocation; beside them the
table keeps books by index, by job and by task, and the budget that the slots draw on.

* `SlotTable.new` : a table by a configuration;
* `SlotAction`, `Reply` : what an operation answers, and what it asks of the table's owner and
  tells the tasks on the way;
* queries, up to `SlotTable.report`. They change nothing and need no particular state.
-/

namespace WorkerSlots

/-- What the table asks of its owner. -/
inductive SlotAction where
  /-- A slot to be given back has lost its last task: finish it. -/
  | free (allocation : AllocationId)
  /-- A slot may not have been claimed in time: check the ticket. -/
  | timeout (allocation : AllocationId) (ticket : Ticket)
  deriving DecidableEq

/-- The slots of one worker. -/
structure SlotTable where
  config : TableConfig
  state : TableState
  /-- Whether the table has an owner that hears its actions. -/
  bound : Bool
  timers : Timers AllocationId
  budget : ResourceBudget
  /-- The live slots. -/
  slots : SortedMap AllocationId TaskSlot
  /-- The allocation that holds an index. -/
  indices : SortedMap SlotIndex AllocationId
  /-- The allocation to whose slot a task is bound. -/
  taskOwners : SortedMap ExecutionId AllocationId
  /-- The allocations of a job that have slots. -/
  jobSlots : SortedMap JobId (SortedMap AllocationId PUnit)
  /-- The index of the next slot for which a dynamic one is requested. -/
  nextDynamic : SlotIndex
  /-- How many slots have been granted. -/
  grants : Nat
  /-- The slots that have left the table, by the number of their grant. -/
  retired : SortedMap Nat TaskSlot
  /-- The grants whose slots have to close before the table does. -/
  awaited : List Nat

/-- What an operation on the table comes to. -/
structure Reply (α : Type) where
  result : Except TableError α
  table : SlotTable
  /-- What the owner is asked to do, in order. -/
  actions : List SlotAction := []
  /-- The tasks told to fail. -/
  failures : List TaskFailure := []

/-- How far the release of a slot got. -/
inductive FreeOutcome where
  /-- The slot has left the table, and its resources are back in the budget. -/
  | released
  /-- Tasks are bound; the slot leaves when the last of them does. -/
  | draining
  deriving DecidableEq, Repr

def FreeOutcome.name : FreeOutcome → String
  | released => "Released"
  | draining => "Draining"

/-- A slot that is being given back. -/
structure FreedSlot where
  index : SlotIndex
  outcome : FreeOutcome
  /-- The number of the grant, by which the end of the teardown can be awaited. -/
  grant : Nat
  deriving DecidableEq

/-- A request for a slot. -/
structure SlotRequest where
  index : IndexRequest
  job : JobId
  allocation : AllocationId
  /-- What the slot has to hold, if not the default profile. -/
  profile : Option ResourceProfile
  /-- In how many milliseconds the slot has to be claimed. -/
  timeoutMs : UInt64

/-- The answer `a` of an operation that leaves the table as it is. -/
def Reply.answer {α : Type} (table : SlotTable) (a : α) : Reply α :=
  { result := .ok a, table }

/-- The refusal of an operation, which leaves the table as it is. -/
def Reply.refuse {α : Type} (table : SlotTable) (e : TableError) : Reply α :=
  { result := .error e, table }

/-- Goes on with another operation, unless the first one failed. -/
def Reply.andThen {α β : Type} (r : Reply α) (next : α → SlotTable → Reply β) : Reply β :=
  match r.result with
  | .ok a =>
    let r' := next a r.table
    { r' with actions := r.actions ++ r'.actions, failures := r.failures ++ r'.failures }
  | .error e => { r with result := .error e }

def Reply.map {α β : Type} (f : α → β) (r : Reply α) : Reply β :=
  { r with result := r.result.map f }

namespace SlotTable

/-- The most static slots that there can be room for: the books are tables of at most `2 ^ 55`
places, of which one in eight stays empty. -/
def maxSlots : Nat := 7 <<< 52

/-- A table by a configuration, over a timer service. -/
def new (config : TableConfig) (timers : Timers AllocationId) : Except TableError SlotTable :=
  match config.problem? with
  | some problem => .error (.invalidConfig problem)
  | none =>
    if maxSlots < config.numberSlots.toNat then .error (.broken .tooManySlots)
    else .ok {
      config
      state := .created
      bound := false
      timers
      budget := .new config.totalResources
      slots := .empty
      indices := .empty
      taskOwners := .empty
      jobSlots := .empty
      nextDynamic := config.numberSlots
      grants := 0
      retired := .empty
      awaited := [] }

/-! ## Queries -/

def isClosed (t : SlotTable) : Bool := t.state = .closed

/-- Whether an index lies above those of the static slots. -/
def isDynamicIndex (t : SlotTable) (index : SlotIndex) : Bool := t.config.numberSlots ≤ index

def slot? (t : SlotTable) (allocation : AllocationId) : Option TaskSlot :=
  t.slots.get? allocation

def slotAt? (t : SlotTable) (index : SlotIndex) : Option TaskSlot :=
  (t.indices.get? index).bind t.slots.get?

/-- Whether the slot at an index is a job's by an allocation, and is not to be given back. -/
def isAllocated (t : SlotTable) (index : SlotIndex) (job : JobId) (allocation : AllocationId) :
    Bool :=
  (t.slotAt? index).any (·.isAllocated job allocation)

def isSlotFree (t : SlotTable) (index : SlotIndex) : Bool := !t.indices.contains index

/-- The allocation whose slot is at an index. -/
def currentAllocation? (t : SlotTable) (index : SlotIndex) : Option AllocationId :=
  t.indices.get? index

/-- The job that an allocation's slot belongs to. -/
def owningJob? (t : SlotTable) (allocation : AllocationId) : Option JobId :=
  (t.slots.get? allocation).map (·.job)

/-- The number of the grant whose slot an allocation has, by which the slot's memory is found. -/
def memoryOf (t : SlotTable) (allocation : AllocationId) : Except TableError Nat :=
  match t.slots.get? allocation with
  | some slot => .ok slot.grant
  | none => .error (.allocationNotFound allocation)

/-- The allocations of a job that have slots, whatever the slots' states. -/
def jobAllocations (t : SlotTable) (job : JobId) : List AllocationId :=
  (t.jobSlots.get? job).elim [] SortedMap.keys

/-- The live slots among those of the given allocations that are in a state. -/
def slotsInState (t : SlotTable) (allocations : List AllocationId) (state : SlotState) :
    List TaskSlot :=
  (allocations.filterMap t.slots.get?).filter (·.state = state)

def activeAllocations (t : SlotTable) : List AllocationId :=
  (t.slotsInState (t.jobSlots.values.flatMap SortedMap.keys) .active).map (·.allocation)

/-- The allocations of a job that have active slots. -/
def activeAllocationsOf (t : SlotTable) (job : JobId) : List AllocationId :=
  (t.slotsInState (t.jobAllocations job) .active).map (·.allocation)

/-- The slots of a job that it has not claimed yet. -/
def allocatedSlots (t : SlotTable) (job : JobId) : List TaskSlot :=
  t.slotsInState (t.jobAllocations job) .allocated

/-- Whether a job has slots that it has not claimed yet. -/
def hasAllocatedSlots (t : SlotTable) (job : JobId) : Bool := !(t.allocatedSlots job).isEmpty

def task? (t : SlotTable) (execution : ExecutionId) : Option Task :=
  match t.taskOwners.get? execution with
  | some allocation => (t.slots.get? allocation).bind (·.tasks.get? execution)
  | none => none

/-- The tasks of a job that are bound to active slots. -/
def tasks (t : SlotTable) (job : JobId) : List Task :=
  (t.slotsInState (t.jobAllocations job) .active).flatMap (·.tasks.values)

def status (resourceId : ResourceId) (slot : TaskSlot) : SlotStatus where
  slotId := ⟨resourceId, slot.index⟩
  resourceProfile := slot.profile
  jobId := some slot.job
  allocationId := some slot.allocation

/-- The status of a static index; without a slot it holds the default profile. -/
def staticStatus (t : SlotTable) (resourceId : ResourceId) (index : SlotIndex) : SlotStatus :=
  match t.slotAt? index with
  | some slot => { status resourceId slot with slotId := ⟨resourceId, index⟩ }
  | none => ⟨⟨resourceId, index⟩, t.config.defaultSlotProfile, none, none⟩

/-- Every static index in order, then the live slots at dynamic ones. -/
def report (t : SlotTable) (resourceId : ResourceId) : SlotReport :=
  (List.range t.config.numberSlots.toNat).map (fun n => t.staticStatus resourceId (.ofNat n)) ++
    (t.slots.values.filter fun slot => t.isDynamicIndex slot.index).map (status resourceId)

end SlotTable

end WorkerSlots
