import WorkerSlots.Json.Record
import WorkerSlots.MemorySize.Text

/-!
# Memory sizes in JSON

A size is written as its count of bytes, and read from a count or from a text.
-/

namespace WorkerSlots.MemorySize

def toJson (a : MemorySize) : Json := .word a.bytes

def ofJson? : Json → Option MemorySize
  | .text value => (ofText value).toOption
  | value => value.asWord?.map mk

end WorkerSlots.MemorySize
