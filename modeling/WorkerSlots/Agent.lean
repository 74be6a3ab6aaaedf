import WorkerSlots.Agent.Config
import WorkerSlots.Supervisor

/-!
# Agents

An agent runs the slot table of one worker under a supervisor. It may claim every static slot for
a job of its own, with one task in each. When such a task is told to fail, the agent unbinds it,
so that its slot can be given back.

* `Agent` : the supervisor, and how many of the failed tasks have been seen to;
* `Agent.claimStaticSlots`, `Agent.report`, `Agent.shutdown` : what an agent does in its life;
* `Agent.live` : such a life, from a configuration to the table that is left.
-/

namespace WorkerSlots

/-- The identities that an agent makes up for itself. -/
structure AgentIds where
  job : JobId
  allocation : SlotIndex → AllocationId
  execution : SlotIndex → ExecutionId

/-- What an agent's commands answer. -/
inductive AgentAnswer where
  | claimed (isNew : Bool)
  | unbound (task : Option Task)
  | reported (report : SlotReport) (available : ResourceProfile)

/-- Why static slots are not claimed. -/
inductive ClaimError where
  | table (e : TableError)
  | stopped

/-- An agent and the slot table of its worker. -/
structure Agent where
  supervisor : Supervisor AgentAnswer
  /-- How many of the tasks that were told to fail have been unbound. -/
  unbound : Nat

/-- What can be seen of an agent's table. -/
structure AgentView where
  report : SlotReport
  active : List AllocationId
  /-- The tasks of the jobs that the report names. -/
  tasks : List Task
  budget : ResourceBudget

/-- What an agent's life has come to. -/
structure AgentOutcome where
  /-- How claiming the static slots went, if it was tried. -/
  claimed : Option (Except ClaimError Unit)
  /-- Whether a report could be made. -/
  reported : Bool
  /-- What was to be seen before the shutdown. -/
  seen : AgentView
  /-- The table that is left. -/
  table : SlotTable

namespace Agent

/-- The slot at a static index, claimed by a task of the agent's own job. -/
def claimCommand (ids : AgentIds) (timeoutMs : UInt64) (index : SlotIndex) :
    Command AgentAnswer := do
  let allocation := ids.allocation index
  let _ ← Command.operate (.allocate ⟨.fixed index, ids.job, allocation, none, timeoutMs⟩)
  let _ ← Command.operate (.markActive allocation)
  let isNew ← Command.operate (.addTask ⟨ids.execution index, ids.job, allocation⟩)
  return .claimed isNew

def unbindCommand (execution : ExecutionId) : Command AgentAnswer := do
  return .unbound (← Command.operate (.removeTask execution))

/-- The state of every slot, and what is left of the budget. -/
def reportCommand (resourceId : ResourceId) : Command AgentAnswer :=
  Command.query fun t => .reported (t.report resourceId) t.budget.available

/-- An agent of a table that has just been started. -/
def new (table : SlotTable) : Agent := ⟨.new ((TableRun.new table true).perform .start).2, 0⟩

/-- Unbinds the tasks that have been told to fail. -/
def unbindFailed (a : Agent) : Agent where
  supervisor :=
    (a.supervisor.run.failures.drop a.unbound).foldl
      (fun s failure => s.post (unbindCommand failure.task.execution)) a.supervisor
  unbound := a.supervisor.run.failures.length

/-- Lets everything happen that can happen without time passing. Tasks that are unbound make no
other task fail, so it is enough to look for failed tasks once. -/
def settle (a : Agent) : Agent :=
  let a := unbindFailed { a with supervisor := a.supervisor.settle }
  { a with supervisor := a.supervisor.settle }

instance : Timed Agent where
  now a := Timed.now a.supervisor
  next? a := Timed.next? a.supervisor
  moveTo time a := { a with supervisor := Timed.moveTo time a.supervisor }
  settle := settle
  pending a := Timed.pending a.supervisor

/-- Sends a command and waits for its answer; a call that is not answered never will be. -/
def call (a : Agent) (command : Command AgentAnswer) : CallAnswer AgentAnswer × Agent :=
  let a' := settle { a with supervisor := a.supervisor.post command }
  ((a'.supervisor.answer? a.supervisor.calls).getD .stopped, a')

/-- Claims slots at some indices, up to the first that cannot be claimed. -/
def claim (ids : AgentIds) (timeoutMs : UInt64) :
    List SlotIndex → Agent → Except ClaimError Unit × Agent
  | [], a => (.ok (), a)
  | index :: rest, a =>
    match a.call (claimCommand ids timeoutMs index) with
    | (.carriedOut (.ok _), a) => claim ids timeoutMs rest a
    | (.carriedOut (.error e), a) => (.error (.table e), a)
    | (.stopped, a) => (.error .stopped, a)

def staticIndices (config : TableConfig) : List SlotIndex :=
  (List.range config.numberSlots.toNat).map .ofNat

def claimStaticSlots (a : Agent) (config : AgentConfig) (ids : AgentIds) :
    Except ClaimError Unit × Agent :=
  a.claim ids config.slotTimeoutMs (staticIndices config.table)

/-- Makes a report. The answer is whether the supervisor could be asked. -/
def report (a : Agent) (resourceId : ResourceId) : Bool × Agent :=
  match a.call (reportCommand resourceId) with
  | (.carriedOut _, a) => (true, a)
  | (.stopped, a) => (false, a)

def table (a : Agent) : SlotTable := a.supervisor.run.table

def view (a : Agent) (resourceId : ResourceId) : AgentView :=
  let report := a.table.report resourceId
  let jobs := (report.filterMap (·.jobId)).eraseDups
  { report
    active := a.table.activeAllocations
    tasks := jobs.flatMap a.table.tasks
    budget := a.table.budget }

def shutdown (a : Agent) : Agent :=
  settle { a with supervisor := a.supervisor.requestShutdown }

/-- Runs an agent for some time: it claims the static slots if it is to, makes a report at the
end, and shuts down. -/
def live (config : AgentConfig) (ids : AgentIds) (resourceId : ResourceId) (ms : UInt64) :
    Except TableError AgentOutcome :=
  match SlotTable.new config.table (.new 0) with
  | .error e => .error e
  | .ok table =>
    let (claimed, a) :=
      if config.claimsStaticSlots then
        let (result, a) := (new table).claimStaticSlots config ids
        (some result, a)
      else (none, new table)
    let (reported, a) := (Timed.advance ms a).report resourceId
    .ok { claimed, reported, seen := a.view resourceId, table := a.shutdown.table }

end Agent

end WorkerSlots
