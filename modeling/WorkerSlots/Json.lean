/-!
# JSON values

`Json` : a JSON value as written. A number keeps its literal, because `1`, `1.0` and `1e0` are
told apart; an object keeps its members in order, repeated names included. A string whose
escapes leave half of a surrogate pair alone is a lawful JSON text that denotes no string; it is
`garbled`, and so is an object with such a name.
-/

namespace WorkerSlots

/-- A JSON value. -/
inductive Json where
  | null
  | bool (value : Bool)
  | number (literal : String)
  | text (value : String)
  | array (items : List Json)
  | object (members : List (String × Json))
  | garbled
  deriving Inhabited

namespace Json

def word (w : UInt64) : Json := .number w.toNat.repr

end Json

end WorkerSlots
