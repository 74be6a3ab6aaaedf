import WorkerSlots.Json
import WorkerSlots.Text.Decimal

/-!
# Records in JSON

A record is written as an object with its fields under their names, or as an array with its
fields in order. Names that are no fields are passed over; a field's name may stand once only.

* `Json.isRecord` : the value has one of the two forms;
* `Json.field?` : the value written for a field, if there is one;
* `Json.required`, `Json.optional` : a field decoded, an absent one being an error or a default;
* `Json.asWord?`, `Json.asText?`, `Json.asBool?` : plain values.
-/

namespace WorkerSlots.Json

/-- The word that a value denotes: an integer literal without sign, fraction or exponent. -/
def asWord? : Json → Option UInt64
  | .number literal => Text.word? literal.toList
  | _ => none

def asText? : Json → Option String
  | .text value => some value
  | _ => none

def asBool? : Json → Option Bool
  | .bool value => some value
  | _ => none

def asArray? : Json → Option (List Json)
  | .array items => some items
  | _ => none

def asObject? : Json → Option (List (String × Json))
  | .object members => some members
  | _ => none

/-- Whether a value can be read as a record with these fields. -/
def isRecord (fields : List String) : Json → Bool
  | .array items => items.length ≤ fields.length
  | .object members => fields.all fun f => (members.filter (·.1 = f)).length ≤ 1
  | _ => false

def field? (fields : List String) (name : String) : Json → Option Json
  | .array items => items[fields.idxOf name]?
  | .object members => (members.find? (·.1 = name)).map Prod.snd
  | _ => none

def required {α : Type} (record : Json) (fields : List String) (name : String)
    (decode : Json → Option α) : Option α :=
  (record.field? fields name).bind decode

def optional {α : Type} (record : Json) (fields : List String) (name : String)
    (decode : Json → Option α) (absent : α) : Option α :=
  match record.field? fields name with
  | some value => decode value
  | none => some absent

/-- A value that may also be `null`. -/
def nullable {α : Type} (decode : Json → Option α) : Json → Option (Option α)
  | .null => some none
  | value => (decode value).map some

/-- A case of an enumeration: its name alone, or an object of the name and the case's value. -/
def asCase? : Json → Option (String × Option Json)
  | .text name => some (name, none)
  | .object [(name, value)] => some (name, some value)
  | _ => none

/-- The decoded case of an enumeration whose cases carry no value. -/
def asPlainCase? {α : Type} (cases : List (String × α)) (value : Json) : Option α :=
  match value.asCase? with
  | some (name, none) | some (name, some .null) => cases.lookup name
  | _ => none

end WorkerSlots.Json
