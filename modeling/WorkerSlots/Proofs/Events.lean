import WorkerSlots.Supervisor

/-!
# Runs as sequences of events

A table in time is subject to events: its owner carries operations out, and other things happen by
themselves, in any order. Nothing here decides when they do; a run is any list of events.

* `Happening` : what happens to a table without its owner, one timeout, one teardown or one use of
  memory at a time, `TableRun.undergo`;
* `TableEvent` : a happening, an operation, or what the owner does to the channel between them,
  `TableRun.after`, `TableRun.afterAll`;
* `SupervisorEvent` : the same for a supervised table, `Supervisor.after`;
* `Supervisor.events` : what an event of a supervisor is to its table, and `Supervisor.after_run`,
  by which every run of a supervisor is a run of its table;
* `Supervisor.Reached` : the supervisors that can come to be, with the events of their tables.
-/

namespace WorkerSlots

/-! ## What happens without the owner -/

/-- What a user of managed memory does. -/
inductive MemoryUse where
  | reserve (owner : String) (bytes : UInt64)
  | release (owner : String) (bytes : UInt64)
  | releaseAll (owner : String)
  | shutdown
  deriving DecidableEq

/-- The memory after a use. -/
def MemoryUse.run : MemoryUse → ManagedMemory → ManagedMemory
  | reserve owner bytes, m => (m.reserve owner bytes).2
  | release owner bytes, m => (m.release owner bytes).2
  | releaseAll owner, m => (m.releaseAll owner).2
  | shutdown, m => m.shutdown

/-- What happens to a table without its owner. -/
inductive Happening where
  /-- Time passes. -/
  | tick (ms : Nat)
  /-- The timeout of an allocation is delivered, if it is due. -/
  | expiry (allocation : AllocationId)
  /-- A timeout is delivered although its registration has been replaced or taken back: it was
  under way already. -/
  | straggler (allocation : AllocationId) (ticket : Ticket)
  /-- The wait of a slot that has left the table ends, if it is over. -/
  | teardown (grant : Nat)
  /-- The table is closed, if it has no slot left to wait for. -/
  | finish
  /-- The memory of a granted slot is used. -/
  | memory (grant : Nat) (use : MemoryUse)
  /-- The pending timeouts are stopped from outside. -/
  | cancel
  deriving DecidableEq

namespace Timers

variable {K : Type} [Ord K] [DecidableEq K]

/-- Delivers the timeout of one key, if it is due. -/
def deliver? [Std.TransOrd K] [Std.LawfulEqOrd K] (t : Timers K) (now : Nat) (key : K) :
    Option (Ticket × Timers K) :=
  match t.registrations.get? key with
  | some r =>
    if t.cancelled = false ∧ r.expired = false ∧ r.deadline ≤ now then
      some (r.ticket,
        { t with registrations := t.registrations.insert key { r with expired := true } })
    else none
  | none => none

omit [DecidableEq K] in
/-- Whether a ticket is that of a registration of the past. -/
def isPast (t : Timers K) (ticket : Ticket) : Bool :=
  ticket.service = t.service && ticket.number < t.issued &&
    (t.cancelled || t.registrations.values.all (·.ticket ≠ ticket))

end Timers

namespace SlotTable

/-- Tells the owner of the timeout of one allocation, if it is due. -/
def expireOne (t : SlotTable) (now : Nat) (allocation : AllocationId) : Reply PUnit :=
  match t.timers.deliver? now allocation with
  | some (ticket, timers) =>
    { result := .ok ⟨⟩, table := { t with timers }
      actions := t.timeoutActions [(allocation, ticket)] }
  | none => .answer t ⟨⟩

/-- Tells the owner of a timeout whose registration is of the past. -/
def expireLate (t : SlotTable) (allocation : AllocationId) (ticket : Ticket) : Reply PUnit :=
  if t.timers.isPast ticket then
    { result := .ok ⟨⟩, table := t, actions := t.timeoutActions [(allocation, ticket)] }
  else .answer t ⟨⟩

/-- Ends the wait of one slot that has left the table, if it is over. -/
def settleOne (t : SlotTable) (now : Nat) (grant : Nat) : SlotTable :=
  match t.retired.get? grant with
  | some slot => { t with retired := t.retired.insert grant (slot.settle now) }
  | none => t

end SlotTable

/-- A table after something has happened to it. -/
def TableRun.undergo (r : TableRun) : Happening → TableRun
  | .tick ms => { r with now := r.now + ms }
  | .expiry allocation => r.absorb (r.table.expireOne r.now allocation)
  | .straggler allocation ticket => r.absorb (r.table.expireLate allocation ticket)
  | .teardown grant => { r with table := r.table.settleOne r.now grant }
  | .finish => { r with table := r.table.finishClose }
  | .memory grant use => (r.onMemory grant fun m => ((), use.run m)).elim r (·.2)
  | .cancel => r.cancelTimers

/-! ## Runs of a table -/

/-- What happens to a table, by its owner or without. -/
inductive TableEvent where
  | operation (op : TableOperation)
  /-- The table is closed, its slots being freed in an order of their own. -/
  | closing (order : List AllocationId)
  | happening (h : Happening)
  /-- The owner takes the first action that waits. -/
  | take
  /-- The owner listens no more. -/
  | leave

/-- Whether the event is about the channel to the owner alone. -/
def TableEvent.isChannel : TableEvent → Bool
  | take | leave => true
  | _ => false

namespace TableRun

/-- A table after an event. -/
def after (r : TableRun) : TableEvent → TableRun
  | .operation op => (r.perform op).2
  | .closing order =>
    if order.isPerm r.table.slots.keys then r.absorb (r.table.closeInOrder r.now order) else r
  | .happening h => r.undergo h
  | .take => { r with queue := r.queue.tail }
  | .leave => { r with listening := false, queue := [] }

/-- A table after some events, one after the other. -/
def afterAll (r : TableRun) (events : List TableEvent) : TableRun := events.foldl after r

@[simp] theorem afterAll_nil (r : TableRun) : r.afterAll [] = r := rfl

@[simp] theorem afterAll_cons (r : TableRun) (e : TableEvent) (events : List TableEvent) :
    r.afterAll (e :: events) = (r.after e).afterAll events := rfl

theorem afterAll_append (r : TableRun) (events events' : List TableEvent) :
    r.afterAll (events ++ events') = (r.afterAll events).afterAll events' :=
  List.foldl_append

theorem afterAll_concat (r : TableRun) (events : List TableEvent) (e : TableEvent) :
    r.afterAll (events ++ [e]) = (r.afterAll events).after e := afterAll_append r events [e]

/-- What one event keeps, a run keeps. -/
theorem afterAll_keeps {P : TableRun → Prop} (hstep : ∀ r e, P r → P (r.after e)) {r : TableRun}
    (h : P r) (events : List TableEvent) : P (r.afterAll events) := by
  induction events generalizing r with
  | nil => exact h
  | cons e rest ih => exact ih (hstep r e h)

theorem absorb_absorb {α β : Type} (r : TableRun) (first : Reply α) (rest : Reply β) :
    (r.absorb first).absorb rest =
      r.absorb { rest with
        actions := first.actions ++ rest.actions
        failures := first.failures ++ rest.failures } := by
  unfold absorb
  cases r.listening <;> simp

theorem absorb_answer {α : Type} (r : TableRun) (a : α) : r.absorb (.answer r.table a) = r := by
  simp [absorb, Reply.answer]

theorem absorb_refuse {α : Type} (r : TableRun) (e : TableError) :
    r.absorb (Reply.refuse (α := α) r.table e) = r := by
  simp [absorb, Reply.refuse]

end TableRun

/-! ## A command is a sequence of operations -/

/-- The operations that a command carries out. -/
def Command.operations {α : Type} (now : Nat) : Command α → SlotTable → List TableOperation
  | answer _, _ => []
  | refuse _, _ => []
  | look next, t => (next t).operations now t
  | perform op next, t => op :: (next (op.run now t).result).operations now (op.run now t).table

/-- Carrying a command out comes to the same as its operations, one by one. -/
theorem TableRun.run_eq_afterAll {α : Type} (command : Command α) (r : TableRun) :
    (r.run command).2 =
      r.afterAll ((command.operations r.now r.table).map .operation) := by
  induction command generalizing r with
  | answer a => exact r.absorb_answer a
  | refuse e => exact r.absorb_refuse e
  | look next ih => exact ih r.table r
  | perform op next ih =>
    have hrest := ih (op.run r.now r.table).result (r.absorb (op.run r.now r.table))
    rw [Command.operations, List.map_cons, afterAll_cons]
    refine Eq.trans ?_ hrest
    exact (r.absorb_absorb _ _).symm

/-! ## Runs of a supervisor -/

/-- What happens to a supervisor. -/
inductive SupervisorEvent (α : Type) where
  /-- A command is sent. -/
  | post (command : Command α)
  /-- The supervisor does the next thing that there is to do. -/
  | turn
  | requestShutdown
  | happening (h : Happening)

namespace Supervisor

variable {α : Type}

/-- A supervisor after an event. -/
def after (s : Supervisor α) : SupervisorEvent α → Supervisor α
  | .post command => s.post command
  | .turn => s.turn?.getD s
  | .requestShutdown => s.requestShutdown
  | .happening h => { s with run := s.run.undergo h }

/-- What heeding an action is to the table. -/
def heedEvents (t : SlotTable) : SlotAction → List TableEvent
  | .free allocation => [.operation (.free allocation emptiedCause)]
  | .timeout allocation ticket =>
    match t.isValidTimeout allocation ticket with
    | .ok true => [.operation (.free allocation unclaimedCause)]
    | _ => []

/-- What serving is to the table. -/
def serveEvents (s : Supervisor α) : List TableEvent :=
  match s.run.queue with
  | action :: _ => .take :: heedEvents s.run.table action
  | [] =>
    match s.inbox with
    | call :: _ => (call.command.operations s.run.now s.run.table).map .operation
    | [] => []

/-- What a turn is to the table. -/
def turnEvents (s : Supervisor α) : List TableEvent :=
  match s.phase with
  | .serving => if s.shutdownRequested then [.operation .close] else s.serveEvents
  | .closing => if s.run.table.isClosed then [.leave] else s.serveEvents
  | .stopped => []

/-- What an event of a supervisor is to its table. -/
def events (s : Supervisor α) : SupervisorEvent α → List TableEvent
  | .post _ => []
  | .turn => s.turnEvents
  | .requestShutdown => []
  | .happening h => [.happening h]

theorem heed_eq_afterAll (r : TableRun) (action : SlotAction) :
    r.heed action = r.afterAll (heedEvents r.table action) := by
  cases action with
  | free allocation => rfl
  | timeout allocation ticket =>
    simp only [TableRun.heed, heedEvents]
    cases r.table.isValidTimeout allocation ticket with
    | error e => rfl
    | ok isValid => cases isValid <;> rfl

theorem serve?_run (s : Supervisor α) :
    (s.serve?.getD s).run = s.run.afterAll s.serveEvents := by
  cases hq : s.run.queue with
  | cons action queue =>
    have htake : s.run.after .take = { s.run with queue } := by
      simp only [TableRun.after, hq, List.tail_cons]
    simp only [serve?, serveEvents, hq, Option.getD_some, TableRun.afterAll_cons, htake]
    exact heed_eq_afterAll _ action
  | nil =>
    cases hi : s.inbox with
    | cons call inbox =>
      simp only [serve?, serveEvents, hq, hi, Option.getD_some]
      exact TableRun.run_eq_afterAll _ _
    | nil => simp only [serve?, serveEvents, hq, hi, Option.getD_none, TableRun.afterAll_nil]

/-- Every event of a supervisor is a sequence of events of its table. -/
theorem after_run (s : Supervisor α) (e : SupervisorEvent α) :
    (s.after e).run = s.run.afterAll (s.events e) := by
  cases e with
  | post command =>
    show (s.post command).run = s.run
    unfold post
    cases s.isStopped <;> rfl
  | turn =>
    show (s.turn?.getD s).run = s.run.afterAll s.turnEvents
    unfold turn? turnEvents
    cases s.phase with
    | serving =>
      cases s.shutdownRequested with
      | true => rfl
      | false => exact serve?_run s
    | closing =>
      cases s.run.table.isClosed with
      | true => rfl
      | false => exact serve?_run s
    | stopped => rfl
  | requestShutdown => rfl
  | happening h => rfl

/-- The supervisors that can come to be from a table just created, with all that has happened to
the table. The table may have been used before it was handed over, as long as nobody else took
what it asks for. -/
inductive Reached (table : SlotTable) : List TableEvent → Supervisor α → Prop where
  | begin (before : List TableEvent) (h : ∀ e ∈ before, e.isChannel = false) :
      Reached table before (.new ((TableRun.new table true).afterAll before))
  | step {history : List TableEvent} {s : Supervisor α} (h : Reached table history s)
      (e : SupervisorEvent α) : Reached table (history ++ s.events e) (s.after e)

theorem Reached.run_eq {table : SlotTable} {history : List TableEvent} {s : Supervisor α}
    (h : Reached table history s) : s.run = (TableRun.new table true).afterAll history := by
  induction h with
  | begin before _ => rfl
  | step _ e ih => rw [after_run, TableRun.afterAll_append, ih]

end Supervisor

end WorkerSlots
