import WorkerSlots.MemorySize.Json
import WorkerSlots.Profile

/-!
# Resource profiles in JSON

A profile is a record whose fields are zero unless given. The extended resources are an object of
words; of a repeated name the last amount counts, and the object is written only when some amount
is positive.
-/

namespace WorkerSlots.ResourceProfile

def fields : List String :=
  ["cpuMillis", "taskHeap", "taskOffHeap", "managedMemory", "networkMemory", "extended"]

def toJson (p : ResourceProfile) : Json :=
  .object <|
    [("cpuMillis", .word p.cpuMillis), ("taskHeap", p.taskHeap.toJson),
      ("taskOffHeap", p.taskOffHeap.toJson), ("managedMemory", p.managedMemory.toJson),
      ("networkMemory", p.networkMemory.toJson)] ++
    if p.extended.isEmpty then []
    else [("extended", .object (p.extended.toList.map fun (name, x) => (name, .word x)))]

def amountsOfJson? (value : Json) : Option Amounts := do
  let members ← value.asObject?
  let amounts ← members.mapM fun (name, x) => x.asWord?.map (name, ·)
  return .ofList amounts

def ofJson? (value : Json) : Option ResourceProfile :=
  if value.isRecord fields then do
    let cpuMillis ← value.optional fields "cpuMillis" Json.asWord? 0
    let taskHeap ← value.optional fields "taskHeap" MemorySize.ofJson? .zero
    let taskOffHeap ← value.optional fields "taskOffHeap" MemorySize.ofJson? .zero
    let managedMemory ← value.optional fields "managedMemory" MemorySize.ofJson? .zero
    let networkMemory ← value.optional fields "networkMemory" MemorySize.ofJson? .zero
    let extended ← value.optional fields "extended" amountsOfJson? .none
    return { cpuMillis, taskHeap, taskOffHeap, managedMemory, networkMemory, extended }
  else none

end WorkerSlots.ResourceProfile
