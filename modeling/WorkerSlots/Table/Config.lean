import WorkerSlots.Profile.Json

/-!
# Table configuration

* `TableConfig` : the size of a slot table and what its slots are made of, with its defaults;
* `TableConfig.problem?` : the first reason why a configuration cannot be used;
* `TableConfig.evenlyDivided` : static slots with equal shares of a total.
-/

namespace WorkerSlots

/-- What a slot table is made of. -/
structure TableConfig where
  /-- The number of static slots; their indices come before all others. -/
  numberSlots : UInt64
  /-- All that the slots together may hold. -/
  totalResources : ResourceProfile
  /-- What a slot holds if its request does not say. -/
  defaultSlotProfile : ResourceProfile
  /-- The page size of a slot's managed memory, in bytes. -/
  memoryPageSize : UInt64
  /-- How many milliseconds a closing slot waits for its managed memory. -/
  memoryReleaseGraceMs : UInt64
  deriving DecidableEq

/-- Why a configuration cannot be used. -/
inductive ConfigProblem where
  | noSlots
  | badPageSize (pageSize : UInt64)
  | oversizedSlot (slot total : ResourceProfile)
  deriving DecidableEq

namespace TableConfig

def minPageSize : UInt64 := 4096

/-- One core, and memory of three kinds. -/
def standardProfile : ResourceProfile :=
  { ResourceProfile.zero with
    cpuMillis := 1000
    taskHeap := ⟨0x8000000⟩
    managedMemory := ⟨0x8000000⟩
    networkMemory := ⟨0x4000000⟩ }

def standard : TableConfig where
  numberSlots := 1
  totalResources := standardProfile
  defaultSlotProfile := standardProfile
  memoryPageSize := 32768
  memoryReleaseGraceMs := 10000

/-- Static slots with equal shares of a total. -/
def evenlyDivided (numberSlots : UInt64) (total : ResourceProfile) : TableConfig :=
  { standard with
    numberSlots
    totalResources := total
    defaultSlotProfile := total.divide (max numberSlots 1) }

/-- Whether memory may come in pages of a size: a power of two, and large enough. -/
def isPageSize (n : UInt64) : Bool := minPageSize ≤ n && n.toNat = 1 <<< n.toNat.log2

/-- The first reason why a configuration cannot be used. -/
def problem? (c : TableConfig) : Option ConfigProblem :=
  if c.numberSlots = 0 then some .noSlots
  else if !isPageSize c.memoryPageSize then some (.badPageSize c.memoryPageSize)
  else if !c.defaultSlotProfile.fitsWithin c.totalResources then
    some (.oversizedSlot c.defaultSlotProfile c.totalResources)
  else none

def fields : List String :=
  ["numberSlots", "totalResources", "defaultSlotProfile", "memoryPageSize",
    "memoryReleaseGraceMs"]

def toJson (c : TableConfig) : Json :=
  .object
    [("numberSlots", .word c.numberSlots), ("totalResources", c.totalResources.toJson),
      ("defaultSlotProfile", c.defaultSlotProfile.toJson),
      ("memoryPageSize", .word c.memoryPageSize),
      ("memoryReleaseGraceMs", .word c.memoryReleaseGraceMs)]

/-- Reads a configuration; every field may be left out. -/
def ofJson? (value : Json) : Option TableConfig :=
  if value.isRecord fields then do
    let numberSlots ← value.optional fields "numberSlots" Json.asWord? standard.numberSlots
    let totalResources ← value.optional fields "totalResources" ResourceProfile.ofJson?
      standard.totalResources
    let defaultSlotProfile ← value.optional fields "defaultSlotProfile" ResourceProfile.ofJson?
      standard.defaultSlotProfile
    let memoryPageSize ← value.optional fields "memoryPageSize" Json.asWord?
      standard.memoryPageSize
    let memoryReleaseGraceMs ← value.optional fields "memoryReleaseGraceMs" Json.asWord?
      standard.memoryReleaseGraceMs
    return {
      numberSlots, totalResources, defaultSlotProfile, memoryPageSize, memoryReleaseGraceMs }
  else none

end TableConfig

def ConfigProblem.message : ConfigProblem → String
  | noSlots => "the number of task slots must be greater than 0"
  | badPageSize pageSize =>
    s!"memory page size must be a power of two and at least {TableConfig.minPageSize}, " ++
      s!"got {pageSize}"
  | oversizedSlot slot total =>
    s!"default slot profile {slot} exceeds total resources {total}"

end WorkerSlots
