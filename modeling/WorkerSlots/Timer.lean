import WorkerSlots.SortedMap

/-!
# Timeouts

`Timers K` : one-shot timeouts by key. Every registration gets a fresh ticket, and the owner of
the keys is told of an expiry by key and ticket. An expired registration stays until it is
replaced or taken back, so that its ticket can still be checked when the owner hears of it.

* `start`, `stop`, `cancel` : the life of the service; `cancel` is what others than the owner may
  do, and leaves the registrations in place;
* `register`, `unregister` : one timeout at most is pending for a key;
* `isValid` : whether a ticket is that of the current registration;
* `expire` : the timeouts that are due at a time, `noteExpiry` : one timeout that has expired.
-/

namespace WorkerSlots

/-- The proof of one registration: the service that made it and its number there. -/
structure Ticket where
  service : Nat
  number : Nat
  deriving DecidableEq, Repr

/-- Why the service refuses. -/
inductive TimerError where
  | notStarted
  | alreadyStarted
  | stopped
  deriving DecidableEq, Repr

def TimerError.message : TimerError → String
  | notStarted => "timer service has not been started"
  | alreadyStarted => "timer service has already been started"
  | stopped => "timer service has been stopped"

/-- A registered timeout. -/
structure Registration where
  ticket : Ticket
  /-- The time at which it expires. -/
  deadline : Nat
  /-- Whether its expiry has been delivered. -/
  expired : Bool
  deriving DecidableEq, Repr

/-- Timeouts by key. -/
structure Timers (K : Type) [Ord K] where
  /-- The number of the service, which its tickets carry. -/
  service : Nat
  started : Bool
  cancelled : Bool
  registrations : SortedMap K Registration
  /-- How many registrations there have been. -/
  issued : Nat

namespace Timers

variable {K : Type} [Ord K]

def new (service : Nat) : Timers K := ⟨service, false, false, .empty, 0⟩

def start (t : Timers K) : Except TimerError (Timers K) :=
  if t.cancelled then .error .stopped
  else if t.started then .error .alreadyStarted
  else .ok { t with started := true }

/-- Stops every pending timeout for good; the registrations stay. -/
def cancel (t : Timers K) : Timers K := { t with cancelled := true }

def stop (t : Timers K) : Timers K := { t with cancelled := true, registrations := .empty }

def isRunning (t : Timers K) : Bool := t.started && !t.cancelled

def size (t : Timers K) : Nat := t.registrations.size

/-- The registrations whose expiry is still to be delivered. -/
def pending (t : Timers K) : List (K × Registration) :=
  if t.cancelled then [] else t.registrations.entries.filter fun e => !e.2.expired

/-- The earliest time at which a timeout expires. -/
def nextDeadline? (t : Timers K) : Option Nat := (t.pending.map fun e => e.2.deadline).min?

/-- Delivers every expiry that is due: the keys and tickets of the timeouts, and the service with
these timeouts expired. -/
def expire (t : Timers K) (now : Nat) : List (K × Ticket) × Timers K :=
  let due := t.pending.filter fun e => e.2.deadline ≤ now
  let mark (r : Registration) : Registration :=
    if r.deadline ≤ now then { r with expired := true } else r
  (due.map fun e => (e.1, e.2.ticket),
    if t.cancelled then t else { t with registrations := t.registrations.map mark })

/-- Notes that the expiry of a registration has been delivered. -/
def noteExpiry (t : Timers K) (ticket : Ticket) : Timers K :=
  let mark (r : Registration) : Registration :=
    if r.ticket = ticket then { r with expired := true } else r
  { t with registrations := t.registrations.map mark }

section Keys

variable [DecidableEq K]

def unregister (t : Timers K) (key : K) : Timers K :=
  { t with registrations := t.registrations.erase key }

/-- Whether a ticket is that of a key's current registration, expired or not. -/
def isValid (t : Timers K) (key : K) (ticket : Ticket) : Bool :=
  !t.cancelled && (t.registrations.get? key).any (·.ticket = ticket)

def deadline? (t : Timers K) (key : K) : Option Nat :=
  (t.registrations.get? key).map (·.deadline)

/-- Registers a timeout for a key, in place of an earlier one. -/
def register [Std.TransOrd K] [Std.LawfulEqOrd K] (t : Timers K) (now : Nat) (key : K)
    (delay : UInt64) : Except TimerError (Ticket × Timers K) :=
  if t.cancelled then .error .stopped
  else if !t.started then .error .notStarted
  else
    let ticket : Ticket := ⟨t.service, t.issued⟩
    let registration : Registration := ⟨ticket, now + delay.toNat, false⟩
    .ok (ticket,
      { t with
        registrations := t.registrations.insert key registration
        issued := t.issued + 1 })

end Keys

end Timers

end WorkerSlots
