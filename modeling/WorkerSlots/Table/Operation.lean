import WorkerSlots.Table.Allocation
import WorkerSlots.Table.Release
import WorkerSlots.Table.Tasks
import WorkerSlots.Table.Timeouts

/-!
# Operations as values

* `TableOperation` : everything that changes a table, with its arguments, and
  `TableOperation.run`;
* `Command` : a finite sequence of operations, each of which may depend on what the table shows
  and on the answers of those before it, and `Command.run`. A command may end in an error.
-/

namespace WorkerSlots

/-- Everything that changes a table. -/
inductive TableOperation where
  | start
  | allocate (request : SlotRequest)
  | markActive (allocation : AllocationId)
  | tryMarkActive (job : JobId) (allocation : AllocationId)
  | markInactive (allocation : AllocationId) (timeoutMs : UInt64)
  | free (allocation : AllocationId) (cause : String)
  | addTask (task : Task)
  | removeTask (execution : ExecutionId)
  | notifyTimeout (allocation : AllocationId) (ticket : Ticket)
  | close

namespace TableOperation

@[reducible] def Answer : TableOperation → Type
  | start | notifyTimeout .. | close => PUnit
  | allocate _ => SlotIndex
  | markActive _ | tryMarkActive .. | markInactive .. | addTask _ => Bool
  | free .. => FreedSlot
  | removeTask _ => Option Task

def run (now : Nat) (t : SlotTable) : (op : TableOperation) → Reply op.Answer
  | start => t.start
  | allocate request => t.allocate now request
  | markActive allocation => t.markActive allocation
  | tryMarkActive job allocation => t.tryMarkActive job allocation
  | markInactive allocation timeoutMs => t.markInactive now allocation timeoutMs
  | free allocation cause => t.free now allocation cause
  | addTask task => t.addTask task
  | removeTask execution => t.removeTask execution
  | notifyTimeout allocation ticket => t.notifyTimeout allocation ticket
  | close => t.close now

end TableOperation

/-- A finite sequence of operations. -/
inductive Command (α : Type) where
  | answer (a : α)
  | refuse (e : TableError)
  | look (next : SlotTable → Command α)
  | perform (op : TableOperation) (next : Except TableError op.Answer → Command α)

namespace Command

/-- Goes on with another command, unless the first one ends in an error. -/
def andThen {α β : Type} : Command α → (α → Command β) → Command β
  | answer a, next => next a
  | refuse e, _ => .refuse e
  | look view, next => .look fun t => (view t).andThen next
  | perform op rest, next => .perform op fun r => (rest r).andThen next

instance : Monad Command where
  pure := answer
  bind := andThen

/-- The result of an operation, an error as an error. -/
def ofExcept {α : Type} : Except TableError α → Command α
  | .ok a => .answer a
  | .error e => .refuse e

def operate (op : TableOperation) : Command op.Answer := .perform op ofExcept

/-- A question, which changes nothing. -/
def query {α : Type} (f : SlotTable → α) : Command α := .look fun t => .answer (f t)

def run {α : Type} (now : Nat) : Command α → SlotTable → Reply α
  | answer a, t => .answer t a
  | refuse e, t => .refuse t e
  | look next, t => (next t).run now t
  | perform op next, t =>
    let first := op.run now t
    let rest := (next first.result).run now first.table
    { rest with
      actions := first.actions ++ rest.actions
      failures := first.failures ++ rest.failures }

end Command

end WorkerSlots
