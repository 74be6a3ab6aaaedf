import WorkerSlots.Slot
import WorkerSlots.Table.Config
import WorkerSlots.Timer

/-!
# Errors of the slot table

* `TableState` : the life of a table;
* `IllegalState`, `Conflict` : why an operation cannot be carried out;
* `Fault` : a broken rule of the table's own books, or of whoever uses a slot. No use of the
  table is meant to end in one;
* `TableError` : all of these, with `TableError.message`.
-/

namespace WorkerSlots

/-- The life of a table. -/
inductive TableState where
  | created
  | running
  | closing
  | closed
  deriving DecidableEq, Repr

namespace TableState

def name : TableState → String
  | created => "Created"
  | running => "Running"
  | closing => "Closing"
  | closed => "Closed"

/-- The place of a state in the life of a table. -/
def rank : TableState → Nat
  | created => 0
  | running => 1
  | closing => 2
  | closed => 3

def isStarted (s : TableState) : Bool := s ≠ created

end TableState

/-- Why the state of the table rules an operation out. -/
inductive IllegalState where
  | notCreated
  | notRunning (state : TableState)
  | notStarted
  | unbound
  deriving DecidableEq, Repr

def IllegalState.message : IllegalState → String
  | notCreated => "the task slot table has to be just created before starting"
  | notRunning state => "the task slot table has to be running, but is " ++ state.name
  | notStarted => "the task slot table has to be started (not created)"
  | unbound => "the task slot table has no executor bound"

/-- Why a slot cannot be granted as requested. -/
inductive Conflict where
  /-- The allocation has a slot that is not the one requested. -/
  | grantedOtherwise (allocation : AllocationId) (profile : ResourceProfile) (job : JobId)
      (index : SlotIndex)
  /-- The index is another allocation's. -/
  | indexTaken (index : SlotIndex) (owner : AllocationId)
  /-- The dynamic index has been used. -/
  | indexSpent (index : SlotIndex)
  /-- No index would be left above this one. -/
  | lastIndex (index : SlotIndex)
  deriving DecidableEq

def Conflict.message : Conflict → String
  | grantedOtherwise allocation profile job index =>
    s!"a slot with allocation id {allocation} and resource profile {profile} " ++
      s!"is already assigned to job {job} with index {index}"
  | indexTaken index owner =>
    s!"the slot with index {index} is already assigned to another allocation with id {owner}"
  | indexSpent index =>
    s!"dynamic slot index {index} was already handed out and cannot be reused"
  | lastIndex index => s!"slot index {index} leaves no room for further dynamic slots"

/-- A broken rule of the table's books, or of whoever uses a slot. -/
inductive Fault where
  /-- Memory in pages of no size. -/
  | zeroPageSize
  /-- A task bound where it does not belong. -/
  | bind (fault : BindFault)
  /-- More given back to the budget than was taken. -/
  | overRelease (message : String)
  /-- A live slot whose job has no slots. -/
  | jobWithoutSlots (job : JobId)
  /-- A task listed with an allocation that has no slot. -/
  | taskWithoutSlot (execution : ExecutionId) (allocation : AllocationId)
  /-- A task listed with a slot that does not hold it. -/
  | taskElsewhere (execution : ExecutionId)
  /-- A running table that nobody owns. -/
  | runningUnbound
  /-- More static slots than there can be room for. -/
  | tooManySlots
  deriving DecidableEq

def Fault.message : Fault → String
  | zeroPageSize => "memory page size must be positive"
  | bind fault => fault.message
  | overRelease message => message
  | jobWithoutSlots job =>
    s!"there are no more slots allocated for the job {job}; this indicates a programming bug"
  | taskWithoutSlot execution allocation =>
    s!"task {execution} is mapped to allocation {allocation} without a slot; " ++
      "this indicates a programming bug"
  | taskElsewhere execution =>
    s!"task {execution} is mapped to a slot that does not hold it; " ++
      "this indicates a programming bug"
  | runningUnbound =>
    "internal error: entered unreachable code: " ++
      "a running task slot table always has an executor"
  | tooManySlots => "Hash table capacity overflow"

/-- Why an operation of the table failed. -/
inductive TableError where
  | illegalState (reason : IllegalState)
  | allocationNotFound (allocation : AllocationId)
  | allocationConflict (conflict : Conflict)
  | resourceExhausted (requested available total : ResourceProfile)
  | slotNotActive (job : JobId) (allocation : AllocationId)
  | invalidConfig (problem : ConfigProblem)
  | timer (error : TimerError)
  | broken (fault : Fault)
  deriving DecidableEq

def TableError.message : TableError → String
  | illegalState reason => "illegal state: " ++ reason.message
  | allocationNotFound allocation => s!"no slot allocated for allocation {allocation}"
  | allocationConflict conflict => "allocation conflict: " ++ conflict.message
  | resourceExhausted requested available total =>
    s!"cannot allocate the requested resources: trying to allocate {requested}, while the " ++
      s!"currently remaining available resources are {available}, total is {total}"
  | slotNotActive job allocation =>
    s!"slot for job {job} and allocation {allocation} is not active"
  | invalidConfig problem => "invalid table config: " ++ problem.message
  | timer error => "timer service error: " ++ error.message
  | broken fault => fault.message

end WorkerSlots
