import WorkerSlots.Table.Lifecycle

/-!
# Timeouts of slots

The table does not decide what a timeout means. It hands every expiry to its owner, who checks
the ticket before acting on it.

* `isValidTimeout` : whether a ticket is that of the current timeout of an allocation;
* `notifyTimeout` : tells the owner of a timeout;
* `expire` : tells the owner of every timeout that is due.
-/

namespace WorkerSlots.SlotTable

/-- Whether the table is running, and a ticket is that of the current timeout of an allocation. -/
def isValidTimeout (t : SlotTable) (allocation : AllocationId) (ticket : Ticket) :
    Except TableError Bool :=
  if t.state.isStarted then .ok (t.state = .running && t.timers.isValid allocation ticket)
  else .error (.illegalState .notStarted)

/-- What the owner of a table is told of a timeout. -/
def timeoutActions (t : SlotTable) (due : List (AllocationId × Ticket)) : List SlotAction :=
  if t.bound then due.map fun (allocation, ticket) => .timeout allocation ticket else []

def notifyTimeout (t : SlotTable) (allocation : AllocationId) (ticket : Ticket) : Reply PUnit :=
  t.whenStarted
    { result := .ok ⟨⟩, table := t, actions := t.timeoutActions [(allocation, ticket)] }

/-- Tells the owner of every timeout that is due. -/
def expire (t : SlotTable) (now : Nat) : Reply PUnit :=
  let (due, timers) := t.timers.expire now
  { result := .ok ⟨⟩, table := { t with timers }, actions := t.timeoutActions due }

end WorkerSlots.SlotTable
