import WorkerSlots.Log.Error
import WorkerSlots.Text.Blank

/-!
# Log formats

`LogFormat` : where and how log records are written, with its spellings. The journal has
spellings, but no output: naming it is an error of its own.
-/

namespace WorkerSlots

/-- Where and how log records are written. -/
inductive LogFormat where
  /-- Lines for people. -/
  | text
  /-- One JSON object a line. -/
  | json
  /-- Entries of the system journal. -/
  | journald
  deriving DecidableEq, Repr

namespace LogFormat

def name : LogFormat → String
  | text => "text"
  | json => "json"
  | journald => "journald"

instance : ToString LogFormat := ⟨name⟩

/-- Reads a format, in any ASCII letter case and with blanks around it. -/
def ofText (s : String) : Except LogError LogFormat :=
  match Text.fold s with
  | "text" | "plain" => .ok text
  | "json" => .ok json
  | "journald" | "journal" => .error .journaldNotSupported
  | _ => .error (.invalidFormat s)

end LogFormat

end WorkerSlots
