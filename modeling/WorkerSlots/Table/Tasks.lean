import WorkerSlots.Table.Lifecycle

/-!
# Binding tasks

* `addTask` : binds a task to the active slot of its allocation;
* `removeTask` : unbinds a task, wherever it is bound. If it was the last task of a slot that is
  to be given back, the table's owner is asked to finish that slot.
-/

namespace WorkerSlots.SlotTable

/-- Binds a task. The answer is whether it is new to its slot. -/
def addTask (t : SlotTable) (task : Task) : Reply Bool :=
  t.whenRunning <|
    match t.slots.get? task.allocation with
    | none => .refuse t (.allocationNotFound task.allocation)
    | some slot =>
      if slot.isActive task.job task.allocation then
        match slot.add task with
        | .error fault => .refuse t (.broken (.bind fault))
        | .ok (false, _) => .answer t false
        | .ok (true, slot) =>
          .answer
            { t with
              slots := t.slots.insert task.allocation slot
              taskOwners := t.taskOwners.insert task.execution task.allocation }
            true
      else .refuse t (.slotNotActive task.job task.allocation)

/-- Unbinds a task, if it is bound. -/
def removeTask (t : SlotTable) (execution : ExecutionId) : Reply (Option Task) :=
  t.whenStarted <|
    match t.taskOwners.get? execution with
    | none => .answer t none
    | some allocation =>
      let t := { t with taskOwners := t.taskOwners.erase execution }
      match t.slots.get? allocation with
      | none => .refuse t (.broken (.taskWithoutSlot execution allocation))
      | some slot =>
        match slot.remove? execution with
        | none => .refuse t (.broken (.taskElsewhere execution))
        | some (task, slot) =>
          { result := .ok (some task)
            table := { t with slots := t.slots.insert allocation slot }
            actions :=
              if slot.isReleasing && slot.isEmpty && t.bound then [.free allocation] else [] }

end WorkerSlots.SlotTable
