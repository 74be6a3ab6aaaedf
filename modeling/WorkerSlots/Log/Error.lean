import WorkerSlots.Text.Bytes

/-!
# Errors of the log settings

`LogError` : why log settings cannot be read or put to use.
-/

namespace WorkerSlots

/-- Why log settings cannot be read or put to use. -/
inductive LogError where
  /-- The text names no format. -/
  | invalidFormat (text : String)
  /-- The journal is not among the supported outputs. -/
  | journaldNotSupported
  /-- There is a logger already. -/
  | alreadyInitialized
  /-- The logger could not be installed. -/
  | initializationFailed (reason : String)
  /-- The text is no filter. -/
  | invalidFilter (text : String)
  /-- A piece of the filter begins or ends inside a character. -/
  | splitFilter (place : SplitCharacter)
  /-- The value of a variable is no truth value. -/
  | invalidFlag (name value : String)
  deriving DecidableEq, Repr

def LogError.message : LogError → String
  | invalidFormat text => s!"unknown log format `{text}` (expected text, json or journald)"
  | journaldNotSupported => "journald output needs linux and the `journald` feature"
  | alreadyInitialized => "a global logger is already installed"
  | initializationFailed reason => s!"logger initialization failed: {reason}"
  | invalidFilter text => s!"invalid log filter `{text}`"
  | splitFilter place => place.message
  | invalidFlag name value => s!"{name}: expected a boolean, got `{value}`"

end WorkerSlots
