import WorkerSlots.Json.Record
import WorkerSlots.Log.Filter
import WorkerSlots.Log.Format

/-!
# Log settings

* `LogSettings` : the format, the filter and two switches, with their defaults;
* `LogSettings.ofJson?` : settings as a record in which every field may be left out;
* `LogSettings.withOverrides` : settings changed by environment variables. A blank variable
  counts as absent;
* `LogSettings.install` : what becomes of an attempt to log by the settings.
-/

namespace WorkerSlots

/-- How records are logged. -/
structure LogSettings where
  format : LogFormat
  /-- The filter, checked only when it is put to use. -/
  level : String
  withTargets : Bool
  useColor : Bool
  deriving DecidableEq, Repr

namespace LogSettings

def standard : LogSettings := ⟨.text, "info", true, false⟩

def fields : List String := ["format", "level", "withTargets", "useColor"]

def ofJson? (value : Json) : Option LogSettings :=
  if value.isRecord fields then do
    let format ← value.optional fields "format"
      (fun v => v.asText?.bind fun s => (LogFormat.ofText s).toOption) standard.format
    let level ← value.optional fields "level" Json.asText? standard.level
    let withTargets ← value.optional fields "withTargets" Json.asBool? standard.withTargets
    let useColor ← value.optional fields "useColor" Json.asBool? standard.useColor
    return { format, level, withTargets, useColor }
  else none

/-! ## Environment variables -/

def levelVariable : String := "TSL_LOG_LEVEL"

def formatVariable : String := "TSL_LOG_FORMAT"

def colorVariable : String := "TSL_LOG_COLOR"

def readFlag (name value : String) : Except LogError Bool :=
  match Text.fold value with
  | "1" | "true" | "yes" | "on" => .ok true
  | "0" | "false" | "no" | "off" => .ok false
  | _ => .error (.invalidFlag name value)

/-- The value of a variable that is present and not blank. -/
def given? (lookup : String → Option String) (name : String) : Option String :=
  (lookup name).filter fun value => !Text.isBlankText value

/-- The settings with what the environment says in their place. -/
def withOverrides (s : LogSettings) (lookup : String → Option String) :
    Except LogError LogSettings := do
  let level := match given? lookup levelVariable with
    | some value => String.ofList (Text.trim value.toList)
    | none => s.level
  let format ← match given? lookup formatVariable with
    | some value => LogFormat.ofText value
    | none => pure s.format
  let useColor ← match given? lookup colorVariable with
    | some value => readFlag colorVariable value
    | none => pure s.useColor
  return { s with level, format, useColor }

/-! ## Use -/

/-- Installs a logger; `occupied` says that another one has been installed before. The filter is
checked first, then the format, then the place. -/
def install (s : LogSettings) (occupied : Bool) : Except LogError Unit :=
  match LogFilter.check s.level with
  | .error .malformed => .error (.invalidFilter s.level)
  | .error (.split place) => .error (.splitFilter place)
  | .ok _ =>
    if s.format = .journald then .error .journaldNotSupported
    else if occupied then
      .error (.initializationFailed "a global default trace dispatcher has already been set")
    else .ok ⟨⟩

end LogSettings

end WorkerSlots
