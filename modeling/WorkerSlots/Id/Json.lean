import WorkerSlots.Id
import WorkerSlots.Json.Record

/-!
# Identities in JSON

Identities are written as hyphenated texts, workers as their names.
-/

namespace WorkerSlots

def Id.toJson {kind : IdKind} (id : Id kind) : Json := .text id.hyphenated

def Id.ofJson? {kind : IdKind} (value : Json) : Option (Id kind) := value.asText?.bind ofText?

def ResourceId.toJson (id : ResourceId) : Json := .text id.name

def ResourceId.ofJson? (value : Json) : Option ResourceId := value.asText?.map mk

end WorkerSlots
