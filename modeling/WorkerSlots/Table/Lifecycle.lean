import WorkerSlots.Table

/-!
# Starting a table

* `whenRunning`, `whenStarted` : the states of the table in which an operation is carried out;
* `start` : gives the table an owner and starts its timers;
* `cancelTimers` : what others than the owner may do to the timers.
-/

namespace WorkerSlots.SlotTable

/-- Refuses an operation of a table that is not running. -/
def whenRunning {α : Type} (t : SlotTable) (reply : Reply α) : Reply α :=
  if t.state = .running then reply else .refuse t (.illegalState (.notRunning t.state))

/-- Refuses an operation of a table that has not been started. -/
def whenStarted {α : Type} (t : SlotTable) (reply : Reply α) : Reply α :=
  if t.state.isStarted then reply else .refuse t (.illegalState .notStarted)

def start (t : SlotTable) : Reply PUnit :=
  if t.state ≠ .created then .refuse t (.illegalState .notCreated)
  else
    match t.timers.start with
    | .error e => .refuse t (.timer e)
    | .ok timers => .answer { t with timers, bound := true, state := .running } ⟨⟩

def cancelTimers (t : SlotTable) : SlotTable := { t with timers := t.timers.cancel }

end WorkerSlots.SlotTable
