import WorkerSlots.Id.Json
import WorkerSlots.Profile.Json
import WorkerSlots.Slot.Request

/-!
# Slot reports

* `SlotId` : a slot's worker and its index there;
* `SlotStatus` : what one slot holds and whose it is; a free slot is nobody's;
* `SlotReport` : the statuses that a worker publishes.
-/

namespace WorkerSlots

/-- A slot among those of all workers. -/
structure SlotId where
  resourceId : ResourceId
  index : SlotIndex
  deriving DecidableEq

/-- The state of one slot at one moment. -/
structure SlotStatus where
  slotId : SlotId
  resourceProfile : ResourceProfile
  jobId : Option JobId
  allocationId : Option AllocationId
  deriving DecidableEq

/-- The statuses of a worker's slots: the static ones in index order, then the dynamic ones. -/
abbrev SlotReport := List SlotStatus

namespace SlotId

def toText (id : SlotId) : String := id.resourceId.name ++ "_" ++ Text.decimal id.index

def fields : List String := ["resourceId", "index"]

def toJson (id : SlotId) : Json :=
  .object [("resourceId", id.resourceId.toJson), ("index", .word id.index)]

def ofJson? (value : Json) : Option SlotId :=
  if value.isRecord fields then do
    let resourceId ← value.required fields "resourceId" ResourceId.ofJson?
    let index ← value.required fields "index" Json.asWord?
    return { resourceId, index }
  else none

end SlotId

namespace SlotStatus

def isFree (s : SlotStatus) : Bool := s.allocationId.isNone

def fields : List String := ["slotId", "resourceProfile", "jobId", "allocationId"]

/-- Writes an identity that may be absent; an absent one is left out. -/
def idMember {kind : IdKind} (name : String) : Option (Id kind) → List (String × Json)
  | some id => [(name, id.toJson)]
  | none => []

def toJson (s : SlotStatus) : Json :=
  .object <|
    [("slotId", s.slotId.toJson), ("resourceProfile", s.resourceProfile.toJson)] ++
    idMember "jobId" s.jobId ++ idMember "allocationId" s.allocationId

/-- Reads an identity that may be `null`, or left out of an object. -/
def idOfJson? {kind : IdKind} (value : Json) (name : String) : Option (Option (Id kind)) :=
  match value with
  | .array _ => value.required fields name (Json.nullable Id.ofJson?)
  | _ => value.optional fields name (Json.nullable Id.ofJson?) none

def ofJson? (value : Json) : Option SlotStatus :=
  if value.isRecord fields then do
    let slotId ← value.required fields "slotId" SlotId.ofJson?
    let resourceProfile ← value.required fields "resourceProfile" ResourceProfile.ofJson?
    let jobId ← idOfJson? value "jobId"
    let allocationId ← idOfJson? value "allocationId"
    return { slotId, resourceProfile, jobId, allocationId }
  else none

end SlotStatus

namespace SlotReport

def toJson (report : SlotReport) : Json := .array (report.map SlotStatus.toJson)

def ofJson? (value : Json) : Option SlotReport := do
  (← value.asArray?).mapM SlotStatus.ofJson?

end SlotReport

end WorkerSlots
