import WorkerSlots.Clock
import WorkerSlots.Table.Operation

/-!
# Tables in time

`TableRun` : a slot table, the time, and the channel to its owner: what the owner has been asked
to do, and which of this it has not taken up yet.

* `absorb` : the effects of an operation on table and channel;
* `background` : what happens to a table without its owner: timeouts expire and waits end;
* `perform`, `run` : an operation and a command, now.
-/

namespace WorkerSlots

/-- An action and the time at which the owner was asked for it. -/
structure AskedAction where
  time : Nat
  action : SlotAction
  deriving DecidableEq

/-- A slot table as time passes. -/
structure TableRun where
  now : Nat
  table : SlotTable
  /-- Whether the owner still listens. -/
  listening : Bool
  /-- The actions that the owner has not taken up, the earliest first. -/
  queue : List SlotAction
  /-- All that the owner has been asked for, the earliest first. -/
  asked : List AskedAction
  /-- The tasks that were told to fail, the earliest first. -/
  failures : List TaskFailure

namespace TableRun

def new (table : SlotTable) (listening : Bool) : TableRun := ⟨0, table, listening, [], [], []⟩

/-- Takes over what an operation has come to. -/
def absorb {α : Type} (r : TableRun) (reply : Reply α) : TableRun :=
  let actions := if r.listening then reply.actions else []
  { r with
    table := reply.table
    queue := r.queue ++ actions
    asked := r.asked ++ actions.map (⟨r.now, ·⟩)
    failures := r.failures ++ reply.failures }

/-- Does what is due now without the owner. -/
def background (r : TableRun) : TableRun :=
  let r := r.absorb (r.table.expire r.now)
  { r with table := r.table.settle r.now }

/-- The earliest time at which a timeout expires or a wait ends. -/
def nextDeadline? (r : TableRun) : Option Nat :=
  let waits := r.table.retired.values.filterMap (·.deadline?)
  (r.table.timers.nextDeadline?.toList ++ waits).min?

/-- At least as many as the times at which something is going to be due. -/
def pending (r : TableRun) : Nat :=
  r.table.timers.pending.length + r.table.slots.size + r.table.retired.size

instance : Timed TableRun where
  now := TableRun.now
  next? := nextDeadline?
  moveTo time r := { r with now := time }
  settle := background
  pending := pending

def perform (r : TableRun) (op : TableOperation) : Except TableError op.Answer × TableRun :=
  let reply := op.run r.now r.table
  (reply.result, r.absorb reply)

def run {α : Type} (r : TableRun) (command : Command α) : Except TableError α × TableRun :=
  let reply := command.run r.now r.table
  (reply.result, r.absorb reply)

def cancelTimers (r : TableRun) : TableRun := { r with table := r.table.cancelTimers }

/-- Lets a user work on the memory of a granted slot. -/
def onMemory {α : Type} (r : TableRun) (grant : Nat)
    (f : ManagedMemory → α × ManagedMemory) : Option (α × TableRun) :=
  (r.table.onMemory grant f).map fun (answer, table) => (answer, { r with table })

end TableRun

end WorkerSlots
