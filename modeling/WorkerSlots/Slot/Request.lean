import WorkerSlots.Json.Record

/-!
# Requested indices

* `SlotIndex` : the position of a slot in its worker's table;
* `IndexRequest` : which index a request for a slot is about.
-/

namespace WorkerSlots

/-- The position of a slot in its worker's table. -/
abbrev SlotIndex := UInt64

/-- Which index a request for a slot is about. -/
inductive IndexRequest where
  /-- The next dynamic index, whatever it is. -/
  | dynamic
  /-- One index; usually that of a static slot. -/
  | fixed (index : SlotIndex)
  deriving DecidableEq

namespace IndexRequest

def toText : IndexRequest → String
  | dynamic => "dynamic"
  | fixed index => Text.decimal index

instance : ToString IndexRequest := ⟨toText⟩

def toJson : IndexRequest → Json
  | dynamic => .text "dynamic"
  | fixed index => .object [("fixed", .word index)]

def ofJson? (value : Json) : Option IndexRequest :=
  match value.asCase? with
  | some ("dynamic", none) | some ("dynamic", some .null) => some dynamic
  | some ("fixed", some index) => index.asWord?.map fixed
  | _ => none

end IndexRequest

end WorkerSlots
