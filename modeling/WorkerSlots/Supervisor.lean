import WorkerSlots.Table.Run

/-!
# Supervisors of slot tables

A supervisor owns a table. It does what the table asks of it, and carries out the commands that
callers send, in the order in which they come; what the table asks for goes first. When it is
told to shut down, it closes the table, goes on until the table is closed, and stops.

* `Supervisor` : the table, the calls that wait, and the answers given;
* `Supervisor.turn?` : the next thing to do, if there is any, and `Supervisor.drain` : all of it;
* `Supervisor.settle` : everything that can happen without time passing;
* `Supervisor.post`, `Supervisor.requestShutdown` : what others want of a supervisor.
-/

namespace WorkerSlots

def emptiedCause : String := "last task left a releasing slot"

/-- Why a slot that was not claimed is freed. -/
def unclaimedCause : String := "slot was not claimed before its timeout"

/-- Does what the table asks for. An emptied slot is freed; so is one whose timeout is still the
current one. -/
def TableRun.heed (r : TableRun) : SlotAction → TableRun
  | .free allocation => (r.perform (.free allocation emptiedCause)).2
  | .timeout allocation ticket =>
    match r.table.isValidTimeout allocation ticket with
    | .ok true => (r.perform (.free allocation unclaimedCause)).2
    | _ => r

theorem TableRun.perform_free_queue (r : TableRun) (allocation : AllocationId) (cause : String) :
    (r.perform (.free allocation cause)).2.queue = r.queue := by
  simp [perform, absorb, TableOperation.run, SlotTable.free_actions]

theorem TableRun.heed_queue (r : TableRun) (action : SlotAction) :
    (r.heed action).queue = r.queue := by
  cases action with
  | free allocation => exact perform_free_queue ..
  | timeout allocation ticket =>
    simp only [heed]
    split
    · exact perform_free_queue ..
    · rfl

/-- How far the work of a supervisor is. -/
inductive Phase where
  | serving
  | closing
  | stopped
  deriving DecidableEq, Repr

def Phase.remaining : Phase → Nat
  | serving => 2
  | closing => 1
  | stopped => 0

/-- A call that waits for its turn. -/
structure Call (α : Type) where
  number : Nat
  command : Command α

/-- What a caller hears. -/
inductive CallAnswer (α : Type) where
  /-- The command was carried out, and came to this. -/
  | carriedOut (result : Except TableError α)
  /-- The command has not been carried out and will not be. -/
  | stopped

/-- The text that a caller gets from a supervisor that has stopped. -/
def stoppedMessage : String := "slot table driver has stopped"

/-- The owner of a slot table. -/
structure Supervisor (α : Type) where
  run : TableRun
  phase : Phase
  shutdownRequested : Bool
  /-- The calls that wait, the earliest first. -/
  inbox : List (Call α)
  /-- The numbers of the calls that were answered, and the answers, the earliest first. -/
  answers : List (Nat × CallAnswer α)
  /-- How many calls there have been. -/
  calls : Nat

namespace Supervisor

variable {α : Type}

def new (run : TableRun) : Supervisor α := ⟨run, .serving, false, [], [], 0⟩

/-- Whether no call will be answered any more. -/
def isStopped (s : Supervisor α) : Bool := s.phase = .stopped

def beginClose (s : Supervisor α) : Supervisor α :=
  { s with phase := .closing, run := (s.run.perform .close).2 }

/-- Stops. The calls that wait are not carried out, and the table is not listened to. -/
def stop (s : Supervisor α) : Supervisor α :=
  { s with
    phase := .stopped
    run := { s.run with listening := false, queue := [] }
    inbox := []
    answers := s.answers ++ s.inbox.map fun call => (call.number, .stopped) }

def answer (s : Supervisor α) (call : Call α) : Supervisor α :=
  let (result, run) := s.run.run call.command
  { s with run, answers := s.answers ++ [(call.number, .carriedOut result)] }

/-- Does the first thing that the table asks for or, if it asks for nothing, what the first call
wants. -/
def serve? (s : Supervisor α) : Option (Supervisor α) :=
  match s.run.queue with
  | action :: queue => some { s with run := { s.run with queue }.heed action }
  | [] =>
    match s.inbox with
    | call :: inbox => some ({ s with inbox }.answer call)
    | [] => none

/-- Does the next thing that there is to do without time passing. -/
def turn? (s : Supervisor α) : Option (Supervisor α) :=
  match s.phase with
  | .serving => if s.shutdownRequested then some s.beginClose else s.serve?
  | .closing => if s.run.table.isClosed then some s.stop else s.serve?
  | .stopped => none

/-! ## A supervisor comes to rest -/

/-- A turn that serves takes a call or an action. -/
theorem serve?_shorter {s s' : Supervisor α} (h : s.serve? = some s') :
    s'.phase = s.phase ∧ (s'.inbox.length < s.inbox.length ∨
      s'.inbox = s.inbox ∧ s'.run.queue.length < s.run.queue.length) := by
  unfold serve? at h
  split at h
  case h_1 action queue hq =>
    obtain rfl := Option.some.inj h
    refine ⟨rfl, .inr ⟨rfl, ?_⟩⟩
    simp [TableRun.heed_queue, hq]
  case h_2 =>
    split at h
    case h_1 call inbox hi =>
      obtain rfl := Option.some.inj h
      exact ⟨rfl, .inl (by simp [answer, hi])⟩
    case h_2 => cases h

/-- A turn ends a phase, or takes a call or an action. -/
theorem turn?_shorter {s s' : Supervisor α} (h : s.turn? = some s') :
    s'.phase.remaining < s.phase.remaining ∨ s'.phase = s.phase ∧
      (s'.inbox.length < s.inbox.length ∨
        s'.inbox = s.inbox ∧ s'.run.queue.length < s.run.queue.length) := by
  unfold turn? at h
  split at h
  case h_1 hp =>
    split at h
    · obtain rfl := Option.some.inj h
      exact .inl (by simp [beginClose, hp, Phase.remaining])
    · exact .inr (serve?_shorter h)
  case h_2 hp =>
    split at h
    · obtain rfl := Option.some.inj h
      exact .inl (by simp [stop, hp, Phase.remaining])
    · exact .inr (serve?_shorter h)
  case h_3 => cases h

/-- Does all that there is to do without time passing and without the table's timeouts. -/
def drain (s : Supervisor α) : Supervisor α :=
  match _h : s.turn? with
  | some s' => drain s'
  | none => s
termination_by (s.phase.remaining, s.inbox.length, s.run.queue.length)
decreasing_by
  rcases turn?_shorter _h with hp | ⟨hp, hi | ⟨hi, hq⟩⟩
  · exact Prod.Lex.left _ _ hp
  · rw [hp]; exact Prod.Lex.right _ (Prod.Lex.left _ _ hi)
  · rw [hp, hi]; exact Prod.Lex.right _ (Prod.Lex.right _ hq)

/-- Lets timeouts expire and waits end, and then does all that there is to do. -/
def round (s : Supervisor α) : Supervisor α := drain { s with run := s.run.background }

/-- Lets everything happen that can happen without time passing. The calls that wait may arm
timeouts that are due at once; the slots freed by these may be closed at once; and that may be
the last thing the table waits for. So there is nothing left to do after three rounds. -/
def settle (s : Supervisor α) : Supervisor α := s.round.round.round

instance : Timed (Supervisor α) where
  now s := s.run.now
  next? s := s.run.nextDeadline?
  moveTo time s := { s with run := { s.run with now := time } }
  settle := settle
  pending s := s.run.pending

/-- Sends a command, to be carried out when its turn comes. -/
def post (s : Supervisor α) (command : Command α) : Supervisor α :=
  if s.isStopped then
    { s with calls := s.calls + 1, answers := s.answers ++ [(s.calls, .stopped)] }
  else { s with calls := s.calls + 1, inbox := s.inbox ++ [⟨s.calls, command⟩] }

/-- The answer to a call, if it has been answered. -/
def answer? (s : Supervisor α) (number : Nat) : Option (CallAnswer α) := s.answers.lookup number

def requestShutdown (s : Supervisor α) : Supervisor α := { s with shutdownRequested := true }

/-- Stops every pending timeout of the table from outside. -/
def cancelTimers (s : Supervisor α) : Supervisor α := { s with run := s.run.cancelTimers }

/-- Lets a user work on the memory of a granted slot. -/
def onMemory {β : Type} (s : Supervisor α) (grant : Nat)
    (f : ManagedMemory → β × ManagedMemory) : Option (β × Supervisor α) :=
  (s.run.onMemory grant f).map fun (answer, run) => (answer, { s with run })

end Supervisor

end WorkerSlots
