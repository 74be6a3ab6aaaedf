import WorkerSlots.Json.Parser
import WorkerSlots.Log.Settings
import WorkerSlots.Table.Config

/-!
# Agent configuration

* `AgentConfig` : what an agent needs to know, with its defaults;
* `AgentConfig.ofText` : a configuration from text; the table's part has to be usable;
* `AgentConfig.load` : a configuration from a file, if one is named, and the environment.
-/

namespace WorkerSlots

/-- What an agent needs to know. -/
structure AgentConfig where
  table : TableConfig
  log : LogSettings
  /-- How many milliseconds lie between two reports. -/
  reportIntervalMs : UInt64
  /-- In how many milliseconds a slot that the agent allocates has to be claimed. -/
  slotTimeoutMs : UInt64
  /-- Whether the agent claims every static slot for itself. -/
  claimsStaticSlots : Bool
  deriving DecidableEq

/-- Why there is no configuration. -/
inductive AgentConfigError where
  /-- The file cannot be read. -/
  | unreadable
  /-- The text is not a configuration. -/
  | malformed
  | table (problem : ConfigProblem)
  | log (error : LogError)
  deriving DecidableEq

/-- The file that an agent reads first. -/
inductive ConfigFile where
  | unnamed
  | missing
  | holding (text : String)

namespace AgentConfig

/-- One slot, claimed by the agent itself. -/
def standard : AgentConfig := ⟨.standard, .standard, 30000, 10000, true⟩

def fields : List String :=
  ["table", "logger", "reportIntervalMs", "slotTimeoutMs", "claimStaticSlots"]

/-- Reads a configuration; every field may be left out. -/
def ofJson? (value : Json) : Option AgentConfig :=
  if value.isRecord fields then do
    let table ← value.optional fields "table" TableConfig.ofJson? standard.table
    let log ← value.optional fields "logger" LogSettings.ofJson? standard.log
    let reportIntervalMs ← value.optional fields "reportIntervalMs" Json.asWord?
      standard.reportIntervalMs
    let slotTimeoutMs ← value.optional fields "slotTimeoutMs" Json.asWord?
      standard.slotTimeoutMs
    let claimsStaticSlots ← value.optional fields "claimStaticSlots" Json.asBool?
      standard.claimsStaticSlots
    return { table, log, reportIntervalMs, slotTimeoutMs, claimsStaticSlots }
  else none

def ofText (text : String) : Except AgentConfigError AgentConfig :=
  match (Json.parse? text).bind ofJson? with
  | none => .error .malformed
  | some config =>
    match config.table.problem? with
    | some problem => .error (.table problem)
    | none => .ok config

/-- The configuration with what the environment says in its place. -/
def withOverrides (config : AgentConfig) (lookup : String → Option String) :
    Except AgentConfigError AgentConfig :=
  match config.log.withOverrides lookup with
  | .ok log => .ok { config with log }
  | .error e => .error (.log e)

/-- A configuration from a file and the environment. -/
def load (file : ConfigFile) (lookup : String → Option String) :
    Except AgentConfigError AgentConfig := do
  let config ← match file with
    | .unnamed => pure standard
    | .missing => throw .unreadable
    | .holding text => ofText text
  config.withOverrides lookup

/-- How long an agent waits between two reports, which is never no time at all. -/
def reportInterval (config : AgentConfig) : UInt64 := max config.reportIntervalMs 1

end AgentConfig

end WorkerSlots
