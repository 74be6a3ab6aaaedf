import WorkerSlots.Clock
import WorkerSlots.Timer

/-!
# Timeouts in time

`TimerRun K` : a timer service, the time, the tasks that wait for it, and what they have delivered so far.
Every registration starts a task, which sleeps until the deadline and then tells the owner of the keys. When
the registration ends, its task is told to give up, and does so when it is run the next time.

* `start`, `stop`, `cancel`, `register`, `unregister`, `replace` : what is done to the service;
* `poll` : one task is run;
* `settle` : all tasks are run.
-/

namespace WorkerSlots

/-- An expiry as delivered to the owner of the keys. -/
structure Expiry (K : Type) where
  time : Nat
  key : K
  ticket : Ticket
  deriving DecidableEq

/-- The task of a registration. -/
structure TimerTask (K : Type) where
  key : K
  ticket : Ticket
  /-- The time until which it sleeps. -/
  deadline : Nat
  /-- Whether it has been told to give up. -/
  cancelled : Bool
  deriving DecidableEq

namespace TimerTask

variable {K : Type}

def cancel (task : TimerTask K) : TimerTask K := { task with cancelled := true }

/-- The time at which it goes on. -/
def wakesAt (task : TimerTask K) (now : Nat) : Nat := if task.cancelled then now else task.deadline

end TimerTask

/-- A timer service as time passes. -/
structure TimerRun (K : Type) [Ord K] where
  now : Nat
  timers : Timers K
  /-- The tasks that have not ended, the oldest first. -/
  tasks : List (TimerTask K)
  /-- What has been delivered, the earliest first. -/
  delivered : List (Expiry K)

namespace TimerRun

variable {K : Type} [Ord K]

/-- A first service, at time zero. -/
def new : TimerRun K := ⟨0, .new 0, [], []⟩

/-- The task of a registration, unless it has ended. -/
def task? (r : TimerRun K) (ticket : Ticket) : Option (TimerTask K) := r.tasks.find? (·.ticket = ticket)

/-- Ends a task that has nothing to deliver. -/
def drop (r : TimerRun K) (ticket : Ticket) : TimerRun K :=
  { r with tasks := r.tasks.filter (·.ticket ≠ ticket) }

/-- Ends a task that delivers the expiry. -/
def tell (r : TimerRun K) (task : TimerTask K) : TimerRun K :=
  { r.drop task.ticket with delivered := r.delivered ++ [⟨r.now, task.key, task.ticket⟩] }

/-- Runs a task. If its time has come and it has been told to give up as well, it does one or the other: it
delivers the expiry if it is run as `late`. -/
def poll (r : TimerRun K) (ticket : Ticket) (late : Bool) : TimerRun K :=
  match r.task? ticket with
  | none => r
  | some task =>
    match task.cancelled, decide (task.deadline ≤ r.now) with
    | false, false => r
    | false, true => { r.tell task with timers := r.timers.noteExpiry task.ticket }
    | true, false => r.drop task.ticket
    | true, true => if late then r.tell task else r.drop task.ticket

/-- Runs all tasks. Those that are told to give up do so. -/
def settle (r : TimerRun K) : TimerRun K :=
  r.tasks.foldl (fun r task => r.poll task.ticket false) r

instance : Timed (TimerRun K) where
  now := TimerRun.now
  next? r := (r.tasks.map (·.wakesAt r.now)).min?
  moveTo time r := { r with now := time }
  settle := settle
  pending r := r.tasks.length

/-- Starts the service, if it can be started. -/
def start (r : TimerRun K) : Except TimerError Unit × TimerRun K :=
  match r.timers.start with
  | .ok timers => (.ok (), { r with timers })
  | .error e => (.error e, r)

/-- The tasks when that of a key's registration has been told to give up. -/
def cancelTask [DecidableEq K] (r : TimerRun K) (key : K) : List (TimerTask K) :=
  r.tasks.map fun task =>
    if (r.timers.registrations.get? key).any (·.ticket = task.ticket) then task.cancel else task

/-- Registers a timeout, if timeouts can be registered, and starts its task. The task of an earlier
registration is told to give up. -/
def register [DecidableEq K] [Std.TransOrd K] [Std.LawfulEqOrd K] (r : TimerRun K) (key : K)
    (delay : UInt64) : Except TimerError Ticket × TimerRun K :=
  match r.timers.register r.now key delay with
  | .ok (ticket, timers) =>
    let task : TimerTask K := ⟨key, ticket, r.now + delay.toNat, false⟩
    (.ok ticket, { r with timers, tasks := r.cancelTask key ++ [task] })
  | .error e => (.error e, r)

def unregister [DecidableEq K] (r : TimerRun K) (key : K) : TimerRun K :=
  { r with timers := r.timers.unregister key, tasks := r.cancelTask key }

def stop (r : TimerRun K) : TimerRun K :=
  { r with timers := r.timers.stop, tasks := r.tasks.map (·.cancel) }

def cancel (r : TimerRun K) : TimerRun K :=
  { r with timers := r.timers.cancel, tasks := r.tasks.map (·.cancel) }

/-- Gives the service up, with all its timeouts, for a new one. -/
def replace (r : TimerRun K) : TimerRun K :=
  { r with timers := .new (r.timers.service + 1), tasks := r.tasks.map (·.cancel) }

end TimerRun

end WorkerSlots
