import WorkerSlots.Proofs.Schedules

/-!
# Callers of a supervisor

Any number of callers send commands to a supervisor. Only so many commands have room in its inbox: a caller that
finds none waits until its command gets in, or until the supervisor has stopped.

* `Callers` : a supervisor, those that wait for room, and those whose commands got in or did not;
* `CallersEvent`, `Callers.after`, `Callers.afterAll` : what happens to them, in any order;
* `Callers.reply?` : what a caller has been told;
* `Execution`, `Callers.executions` : the commands that are carried out in a run, whatever the callers are told;
* `after_turn_cases` : a turn carries one command out, or leaves all calls alone, or is the last one.
-/

namespace WorkerSlots

/-- How many commands have room in the inbox of a supervisor. -/
def inboxRoom : Nat := 64

/-- A supervisor and its callers. -/
structure Callers (α : Type) where
  supervisor : Supervisor α
  /-- The callers that wait for room, and what they want. -/
  waiting : List (Nat × Command α)
  /-- The callers whose commands got in, the earliest first. The place of a caller is the number of its call. -/
  accepted : List Nat
  /-- The callers whose commands had not got in when the supervisor stopped, or came after that. -/
  turnedAway : List Nat
  /-- How many callers there have been. -/
  count : Nat

/-- What happens to a supervisor and its callers. -/
inductive CallersEvent (α : Type) where
  /-- Another caller sends a command. -/
  | call (command : Command α)
  /-- The command of a caller that waits gets in, if there is room. -/
  | enter (caller : Nat)
  | turn
  | requestShutdown
  | happening (h : Happening)

/-- A command that is carried out: whose it is, and the table that it comes upon. -/
structure Execution (α : Type) where
  caller : Nat
  command : Command α
  before : TableRun

namespace Execution

variable {α : Type}

def result (x : Execution α) : Except TableError α := (x.before.run x.command).1

/-- The table that the command leaves. -/
def after (x : Execution α) : TableRun := (x.before.run x.command).2

end Execution

/-- The call that a supervisor carries out in its next turn: the first one, if the supervisor is neither to close
the table nor to stop, and nothing that the table asks for waits. -/
def Supervisor.due? {α : Type} (s : Supervisor α) : Option (Call α) :=
  let serves := match s.phase with
    | .serving => !s.shutdownRequested
    | .closing => !s.run.table.isClosed
    | .stopped => false
  if serves && s.run.queue.isEmpty then s.inbox.head? else none

/-- The command that an event sends. -/
def CallersEvent.command? {α : Type} : CallersEvent α → Option (Command α)
  | call command => some command
  | _ => none

/-- Whether the event is the supervisor's or a caller's that has called before, and nobody else's. -/
def CallersEvent.isInner {α : Type} : CallersEvent α → Bool
  | enter _ | turn => true
  | _ => false

namespace Callers

variable {α : Type}

def new (run : TableRun) : Callers α := ⟨.new run, [], [], [], 0⟩

/-- A command is sent; nobody receives it once the supervisor has stopped. -/
def call (s : Callers α) (command : Command α) : Callers α :=
  if s.supervisor.isStopped then { s with turnedAway := s.turnedAway ++ [s.count], count := s.count + 1 }
  else { s with waiting := s.waiting ++ [(s.count, command)], count := s.count + 1 }

def enter (s : Callers α) (caller : Nat) : Callers α :=
  match s.waiting.lookup caller with
  | some command =>
    if s.supervisor.inbox.length < inboxRoom then
      { s with
        supervisor := s.supervisor.after (.post command)
        waiting := s.waiting.filter fun x => x.1 ≠ caller
        accepted := s.accepted ++ [caller] }
    else s
  | none => s

/-- The supervisor does the next thing. If it stops by this, those that wait are turned away. -/
def turn (s : Callers α) : Callers α :=
  let supervisor := s.supervisor.after .turn
  if supervisor.isStopped then
    { s with supervisor, waiting := [], turnedAway := s.turnedAway ++ s.waiting.map Prod.fst }
  else { s with supervisor }

/-- A supervisor and its callers after an event. -/
def after (s : Callers α) : CallersEvent α → Callers α
  | .call command => s.call command
  | .enter caller => s.enter caller
  | .turn => s.turn
  | .requestShutdown => { s with supervisor := s.supervisor.after .requestShutdown }
  | .happening h => { s with supervisor := s.supervisor.after (.happening h) }

def afterAll (s : Callers α) (events : List (CallersEvent α)) : Callers α := events.foldl after s

/-- What a caller has been told. -/
def reply? (s : Callers α) (caller : Nat) : Option (CallAnswer α) :=
  if caller ∈ s.turnedAway then some .stopped
  else if caller ∈ s.accepted then s.supervisor.answer? (s.accepted.idxOf caller)
  else none

/-- The command that an event carries out. -/
def executes? (s : Callers α) : CallersEvent α → Option (Execution α)
  | .turn =>
    s.supervisor.due?.bind fun call =>
      s.accepted[call.number]?.map fun caller => ⟨caller, call.command, s.supervisor.run⟩
  | _ => none

/-- The commands that are carried out in a run, the earliest first. -/
def executions (s : Callers α) : List (CallersEvent α) → List (Execution α)
  | [] => []
  | e :: rest => (s.executes? e).toList ++ (s.after e).executions rest

/-- The commands that are sent in a run; the place of a command is the number of its caller. -/
def sent (events : List (CallersEvent α)) : List (Command α) := events.filterMap CallersEvent.command?

/-- Nothing is left to do for the supervisor, and nobody waits for room. -/
structure AtRest (s : Callers α) : Prop where
  turn : s.supervisor.turn? = none
  waiting : s.waiting = []

@[simp] theorem afterAll_cons (s : Callers α) (e : CallersEvent α) (events : List (CallersEvent α)) :
    s.afterAll (e :: events) = (s.after e).afterAll events := rfl

theorem afterAll_append (s : Callers α) (events events' : List (CallersEvent α)) :
    s.afterAll (events ++ events') = (s.afterAll events).afterAll events' :=
  List.foldl_append

theorem afterAll_concat (s : Callers α) (events : List (CallersEvent α)) (e : CallersEvent α) :
    s.afterAll (events ++ [e]) = (s.afterAll events).after e :=
  afterAll_append s events [e]

theorem executions_append (s : Callers α) (events events' : List (CallersEvent α)) :
    s.executions (events ++ events') = s.executions events ++ (s.afterAll events).executions events' := by
  induction events generalizing s with
  | nil => rfl
  | cons e rest ih =>
    rw [List.cons_append, executions, executions, ih, afterAll_cons, List.append_assoc]

theorem executions_concat (s : Callers α) (events : List (CallersEvent α)) (e : CallersEvent α) :
    s.executions (events ++ [e]) = s.executions events ++ ((s.afterAll events).executes? e).toList := by
  rw [executions_append, executions, executions, List.append_nil]

theorem sent_append (events events' : List (CallersEvent α)) : sent (events ++ events') = sent events ++ sent events' :=
  List.filterMap_append

@[simp] theorem call_supervisor (s : Callers α) (command : Command α) :
    (s.call command).supervisor = s.supervisor := by
  unfold call
  split <;> rfl

@[simp] theorem turn_supervisor (s : Callers α) : s.turn.supervisor = s.supervisor.after .turn := by
  unfold turn
  dsimp only
  split <;> rfl

/-- A caller that waits gets in if there is room; otherwise nothing changes. -/
theorem enter_cases (s : Callers α) (caller : Nat) : s.enter caller = s ∨
    ∃ command, s.waiting.lookup caller = some command ∧ s.supervisor.inbox.length < inboxRoom ∧
      s.enter caller = { s with
        supervisor := s.supervisor.after (.post command)
        waiting := s.waiting.filter fun x => x.1 ≠ caller
        accepted := s.accepted ++ [caller] } := by
  unfold enter
  cases s.waiting.lookup caller with
  | none => exact .inl rfl
  | some command =>
    by_cases hroom : s.supervisor.inbox.length < inboxRoom
    · simp only [hroom, ↓reduceIte]
      exact .inr ⟨command, rfl, trivial, rfl⟩
    · simp only [hroom, ↓reduceIte]
      exact .inl trivial

end Callers

/-! ## Turns of a supervisor -/

namespace Supervisor

variable {α : Type}

/-- A turn leaves the calls alone: those that wait and those that were answered. -/
structure SameCalls (s s' : Supervisor α) : Prop where
  inbox : s'.inbox = s.inbox
  answers : s'.answers = s.answers
  calls : s'.calls = s.calls
  stopped : s'.phase = .stopped ↔ s.phase = .stopped

/-- What becomes of the calls in a turn. -/
inductive TurnOfCalls (s : Supervisor α) : Option (Call α) → Supervisor α → Prop where
  | answer {call : Call α} {inbox : List (Call α)} (hphase : s.phase ≠ .stopped)
      (hinbox : s.inbox = call :: inbox) : TurnOfCalls s (some call) ({ s with inbox }.answer call)
  | same {s' : Supervisor α} (h : s.SameCalls s') : TurnOfCalls s none s'
  | stop (hphase : s.phase ≠ .stopped) : TurnOfCalls s none s.stop

theorem serve_calls (s : Supervisor α) (hphase : s.phase ≠ .stopped) :
    s.TurnOfCalls (if s.run.queue.isEmpty then s.inbox.head? else none) (s.serve?.getD s) := by
  unfold serve?
  cases hqueue : s.run.queue with
  | cons x queue => exact .same ⟨rfl, rfl, rfl, Iff.rfl⟩
  | nil =>
    cases hinbox : s.inbox with
    | cons call inbox => exact .answer hphase hinbox
    | nil => exact .same ⟨rfl, rfl, rfl, Iff.rfl⟩

/-- A turn carries the command out that is due, or leaves the calls alone, or is the last one. -/
theorem after_turn_cases (s : Supervisor α) : s.TurnOfCalls s.due? (s.after .turn) := by
  show s.TurnOfCalls s.due? (s.turn?.getD s)
  unfold due? turn?
  cases hphase : s.phase with
  | stopped => exact .same ⟨rfl, rfl, rfl, Iff.rfl⟩
  | serving =>
    have hgoes : s.phase ≠ .stopped := by rw [hphase]; nofun
    cases s.shutdownRequested with
    | true => exact .same ⟨rfl, rfl, rfl, by rw [hphase]; exact iff_of_false nofun nofun⟩
    | false => exact s.serve_calls hgoes
  | closing =>
    have hgoes : s.phase ≠ .stopped := by rw [hphase]; nofun
    cases s.run.table.isClosed with
    | true => exact .stop hgoes
    | false => exact s.serve_calls hgoes

end Supervisor

end WorkerSlots
