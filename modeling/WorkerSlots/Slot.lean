import WorkerSlots.Id
import WorkerSlots.ManagedMemory
import WorkerSlots.Profile
import WorkerSlots.Slot.Request
import WorkerSlots.Slot.State

/-!
# Task slots

* `Task` : a task as far as a slot is concerned, which is whose it is;
* `TaskSlot` : what one slot holds, the tasks bound to it, and its managed memory;
* `TaskSlot.close` : the slot is to be given back. Its tasks are told to fail, once. When no task
  is bound any more, the slot is torn down: its memory is shut down, and the slot is closed as
  soon as nothing is held of it, or when the grace period is over;
* `TaskSlot.settle` : the end of that wait.
-/

namespace WorkerSlots

/-- A task, as far as slots are concerned. -/
structure Task where
  execution : ExecutionId
  job : JobId
  allocation : AllocationId
  deriving DecidableEq

/-- A task that was told to fail, and why. -/
structure TaskFailure where
  task : Task
  cause : String
  deriving DecidableEq

/-- How far a slot's teardown is. -/
inductive Teardown where
  /-- Not begun. -/
  | idle
  /-- Waiting for memory to be released, up to a time. -/
  | waiting (deadline : Nat)
  /-- Done; the slot is closed. -/
  | done
  deriving DecidableEq, Repr

/-- A slot that is granted to a job. -/
structure TaskSlot where
  /-- The number of the grant, which tells the slot from others of the same allocation. -/
  grant : Nat
  index : SlotIndex
  profile : ResourceProfile
  job : JobId
  allocation : AllocationId
  state : SlotState
  tasks : SortedMap ExecutionId Task
  memory : ManagedMemory
  teardown : Teardown
  /-- How many milliseconds the teardown waits. -/
  graceMs : UInt64

/-- A mistake of whoever binds a task. -/
inductive BindFault where
  | foreignJob
  | foreignAllocation
  | notActive
  deriving DecidableEq, Repr

def BindFault.message : BindFault → String
  | foreignJob => "assertion `left == right` failed: task belongs to a different job"
  | foreignAllocation => "assertion `left == right` failed: task belongs to a different allocation"
  | notActive => "assertion `left == right` failed: the task slot is not in state active"

namespace TaskSlot

/-- A slot just granted. There is none if its memory could have no pages. -/
def new? (grant : Nat) (index : SlotIndex) (profile : ResourceProfile) (pageSize : UInt64)
    (job : JobId) (allocation : AllocationId) (graceMs : UInt64) : Option TaskSlot :=
  (ManagedMemory.new? profile.managedMemory pageSize).map fun memory =>
    { grant, index, profile, job, allocation, state := .allocated, tasks := .empty, memory,
      teardown := .idle, graceMs }

def isEmpty (s : TaskSlot) : Bool := s.tasks.isEmpty

/-- Whether the slot is to be given back. -/
def isReleasing (s : TaskSlot) : Bool := s.state = .releasing

def isClosed (s : TaskSlot) : Bool := s.teardown = .done

/-- Whether the slot was granted to a job by an allocation. -/
def isOwnedBy (s : TaskSlot) (job : JobId) (allocation : AllocationId) : Bool :=
  s.job = job && s.allocation = allocation

/-- Whether tasks of a job and an allocation may be bound. -/
def isActive (s : TaskSlot) (job : JobId) (allocation : AllocationId) : Bool :=
  s.state = .active && s.isOwnedBy job allocation

/-- Whether the slot is a job's by an allocation, and is not to be given back. -/
def isAllocated (s : TaskSlot) (job : JobId) (allocation : AllocationId) : Bool :=
  s.state ≠ .releasing && s.isOwnedBy job allocation

/-- The active slot, if the slot was allocated. -/
def activate? (s : TaskSlot) : Option TaskSlot :=
  if s.state = .allocated then some { s with state := .active } else none

/-- The allocated slot, if the slot was active. -/
def deactivate? (s : TaskSlot) : Option TaskSlot :=
  if s.state = .active then some { s with state := .allocated } else none

/-- Binds a task. The answer is whether it is new to the slot. -/
def add (s : TaskSlot) (task : Task) : Except BindFault (Bool × TaskSlot) :=
  if task.job ≠ s.job then .error .foreignJob
  else if task.allocation ≠ s.allocation then .error .foreignAllocation
  else if s.state ≠ .active then .error .notActive
  else if s.tasks.contains task.execution then .ok (false, s)
  else .ok (true, { s with tasks := s.tasks.insert task.execution task })

/-- Unbinds a task, if it is bound. -/
def remove? (s : TaskSlot) (execution : ExecutionId) : Option (Task × TaskSlot) :=
  (s.tasks.get? execution).map fun task =>
    (task, { s with tasks := s.tasks.erase execution })

/-- Shuts the memory down, and waits for its users if there are any. -/
def tearDown (s : TaskSlot) (now : Nat) : TaskSlot :=
  { s with
    memory := s.memory.shutdown
    teardown := if s.memory.isUnused then .done else .waiting (now + s.graceMs.toNat) }

/-- Marks the slot as to be given back. Its tasks are told to fail if it was not marked yet. -/
def markReleasing (s : TaskSlot) (cause : String) : TaskSlot × List TaskFailure :=
  if s.isReleasing then (s, [])
  else ({ s with state := .releasing }, s.tasks.values.map fun task => ⟨task, cause⟩)

/-- Asks for the slot to be given back. -/
def close (s : TaskSlot) (now : Nat) (cause : String) : TaskSlot × List TaskFailure :=
  let (s, failures) := s.markReleasing cause
  (if s.isEmpty && s.teardown = .idle then s.tearDown now else s, failures)

/-- Ends the wait for memory if it is over. -/
def settle (s : TaskSlot) (now : Nat) : TaskSlot :=
  match s.teardown with
  | .waiting deadline =>
    if s.memory.isUnused || deadline ≤ now then { s with teardown := .done } else s
  | _ => s

/-- When the wait for memory is over at the latest. -/
def deadline? (s : TaskSlot) : Option Nat :=
  match s.teardown with
  | .waiting deadline => some deadline
  | _ => none

def toText (s : TaskSlot) : String :=
  s!"TaskSlot(index:{s.index}, state:{s.state}, resource profile: {s.profile}, " ++
    s!"allocationId: {s.allocation}, jobId: {s.job})"

def inspect (s : TaskSlot) : String :=
  "TaskSlot \x7b index: " ++ Text.decimal s.index ++ ", state: " ++ s.state.inspect ++
    ", job_id: " ++ s.job.inspect ++ ", allocation_id: " ++ s.allocation.inspect ++
    ", tasks: " ++ s.tasks.size.repr ++ " \x7d"

end TaskSlot

end WorkerSlots
