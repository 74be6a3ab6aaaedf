import WorkerSlots.Agent
import WorkerSlots.Proofs.Schedules

/-!
# Commands that are sent to a table at rest

* `Command.run_operate_bind` : a command is carried out one operation at a time;
* `Still` : a table to which nothing will happen by itself, but for its end (`Still.background`);
* `Supervisor.Resting`, `Agent.Resting` : nothing is left to do, now or later. A command that is sent then
  is carried out and answered at once (`Agent.Resting.call`), and time passes without anything happening
  (`Agent.Resting.advance`).
-/

namespace WorkerSlots

open SlotTable

namespace Command

variable {α : Type} {now : Nat} {t t' : SlotTable} {op : TableOperation} {next : op.Answer → Command α}

theorem run_operate_bind_eq (now : Nat) (t : SlotTable) (op : TableOperation)
    (next : op.Answer → Command α) :
    (operate op >>= next).run now t =
      let first := op.run now t
      let rest := ((ofExcept first.result).andThen next).run now first.table
      { rest with
        actions := first.actions ++ rest.actions
        failures := first.failures ++ rest.failures } := rfl

/-- After its first operation, a command goes on with the answer. -/
theorem run_operate_bind {a : op.Answer} {actions : List SlotAction} {failures : List TaskFailure}
    (h : op.run now t = ⟨.ok a, t', actions, failures⟩) :
    (operate op >>= next).run now t =
      { (next a).run now t' with
        actions := actions ++ ((next a).run now t').actions
        failures := failures ++ ((next a).run now t').failures } := by
  rw [run_operate_bind_eq, h]
  rfl

theorem run_operate_bind_of_answer {a : op.Answer} (h : op.run now t = .answer t' a) :
    (operate op >>= next).run now t = (next a).run now t' := run_operate_bind h

/-- What is refused ends a command. -/
theorem run_operate_bind_of_refuse {e : TableError} (h : op.run now t = .refuse t' e) :
    (operate op >>= next).run now t = .refuse t' e := by
  rw [run_operate_bind_eq, h]
  rfl

end Command

theorem SlotTable.Sound.operation {t : SlotTable} (h : t.Sound) (op : TableOperation) (now : Nat) :
    (op.run now t).table.Sound :=
  (h.after (r := ⟨now, t, true, [], [], []⟩) (.operation op)).1

/-- A command keeps a table sound. -/
theorem SlotTable.Sound.command {α : Type} {t : SlotTable} (h : t.Sound) (command : Command α)
    (now : Nat) : (command.run now t).table.Sound ∧ (command.run now t).table.config = t.config := by
  have hrun := TableRun.run_eq_afterAll command ⟨now, t, true, [], [], []⟩
  have hafter := Sound.afterAll (r := ⟨now, t, true, [], [], []⟩) h
    ((command.operations now t).map .operation)
  rw [← hrun] at hafter
  exact hafter

/-! ## Tables to which nothing happens -/

namespace Timers

variable {K : Type} [Ord K] {timers : Timers K}

theorem pending_of_empty (h : timers.registrations = .empty) : timers.pending = [] := by
  unfold pending
  rw [h]
  split <;> rfl

theorem expire_of_empty (h : timers.registrations = .empty) (now : Nat) :
    timers.expire now = ([], timers) := by
  obtain ⟨service, started, cancelled, registrations, issued⟩ := timers
  obtain rfl : registrations = .empty := h
  unfold expire
  rw [pending_of_empty rfl]
  cases cancelled <;> rfl

end Timers

/-- No timeout is registered, and every slot that has left the table is closed. -/
structure SlotTable.Still (t : SlotTable) : Prop where
  registrations : t.timers.registrations = .empty
  closed : ∀ {g s}, t.retired.get? g = some s → s.isClosed = true

namespace SlotTable.Still

variable {t : SlotTable} {r : TableRun}

theorem settle (h : t.Still) (now : Nat) : t.settle now = t.finishClose := by
  have hretired : t.retired.map (·.settle now) = t.retired := by
    refine SortedMap.ext_get? fun g => ?_
    rw [SortedMap.get?_map]
    cases hs : t.retired.get? g with
    | none => rfl
    | some s =>
      have hdone : s.teardown = .done := of_decide_eq_true (h.closed hs)
      rw [Option.map_some]
      unfold TaskSlot.settle
      rw [hdone]
  unfold SlotTable.settle
  rw [hretired]

/-- Without its owner, the table can be closed, and nothing else. -/
theorem background (h : r.table.Still) : r.background = { r with table := r.table.finishClose } := by
  have hexpire : r.absorb (r.table.expire r.now) = r := by
    unfold expire
    rw [Timers.expire_of_empty h.registrations]
    dsimp only
    rw [timeoutActions_nil]
    exact r.absorb_silent _ _
  unfold TableRun.background
  dsimp only
  rw [hexpire, h.settle]

theorem nextDeadline? (h : r.table.Still) : r.nextDeadline? = none := by
  have hwaits : r.table.retired.values.filterMap (·.deadline?) = [] := by
    refine List.filterMap_eq_nil_iff.2 fun s hs => ?_
    obtain ⟨g, hg⟩ := SortedMap.mem_values_iff.1 hs
    have hdone : s.teardown = .done := of_decide_eq_true (h.closed hg)
    unfold TaskSlot.deadline?
    rw [hdone]
  unfold TableRun.nextDeadline? Timers.nextDeadline?
  rw [Timers.pending_of_empty h.registrations, hwaits]
  rfl

theorem finishClose (h : t.state ≠ .closing) : t.finishClose = t := by
  unfold SlotTable.finishClose
  rw [if_neg fun hend => h hend.1]

theorem background_of_running (h : r.table.Still) (hrunning : r.table.state = .running) : r.background = r := by
  have hstate : r.table.state ≠ .closing := by
    rw [hrunning]
    nofun
  rw [h.background, finishClose hstate]

end SlotTable.Still

/-! ## Supervisors at rest -/

namespace Supervisor

variable {α : Type} {s s' : Supervisor α} {command : Command α} {result : Except TableError α}
  {t' : SlotTable} {call : Call α} {inbox : List (Call α)} {reply : Reply α}

/-- The supervisor once a command has come to it. -/
def received (s : Supervisor α) (command : Command α) : Supervisor α :=
  { s with calls := s.calls + 1, inbox := s.inbox ++ [⟨s.calls, command⟩] }

theorem post_of_unstopped (h : s.phase ≠ .stopped) (command : Command α) :
    s.post command = s.received command :=
  if_neg fun hstopped => h (of_decide_eq_true hstopped)

/-- The supervisor once it has carried out the first of its calls. -/
def carriedOut (s : Supervisor α) (call : Call α) (inbox : List (Call α)) (reply : Reply α) :
    Supervisor α :=
  { s with
    run := s.run.absorb reply
    inbox
    answers := s.answers ++ [(call.number, .carriedOut reply.result)] }

theorem carriedOut_queue (hlistening : s.run.listening = true) (hqueue : s.run.queue = []) :
    (s.carriedOut call inbox reply).run.queue = reply.actions := by
  show s.run.queue ++ (if s.run.listening then _ else _) = _
  rw [hqueue, hlistening]
  rfl

theorem turn?_of_serving (hphase : s.phase = .serving) (hunasked : s.shutdownRequested = false) :
    s.turn? = s.serve? := by
  unfold Supervisor.turn?
  rw [hphase, hunasked]
  rfl

theorem turn?_of_closing (hphase : s.phase = .closing) (hopen : s.run.table.state = .closing) :
    s.turn? = s.serve? := by
  have hclosed : ¬ s.run.table.isClosed = true := by
    unfold SlotTable.isClosed
    rw [hopen]
    nofun
  unfold Supervisor.turn?
  rw [hphase]
  exact if_neg hclosed

/-- A call is carried out if the table asks for nothing. -/
theorem serve?_of_call (hqueue : s.run.queue = []) (hinbox : s.inbox = call :: inbox)
    (hrun : call.command.run s.run.now s.run.table = reply) :
    s.serve? = some (s.carriedOut call inbox reply) := by
  unfold serve?
  rw [hqueue, hinbox]
  unfold answer TableRun.run
  dsimp only
  rw [hrun]
  rfl

theorem serve?_of_idle (hqueue : s.run.queue = []) (hinbox : s.inbox = []) : s.serve? = none := by
  unfold serve?
  rw [hqueue, hinbox]

theorem drain_of_turn (h : s.turn? = some s') : s.drain = s'.drain := by
  rw [drain, h]

theorem drain_of_idle (h : s.turn? = none) : s.drain = s := by
  rw [drain, h]

/-- A supervisor that serves a running table and has nothing to do, now or later. -/
structure Resting (s : Supervisor α) : Prop where
  serving : s.phase = .serving
  unasked : s.shutdownRequested = false
  listening : s.run.listening = true
  queue : s.run.queue = []
  inbox : s.inbox = []
  running : s.run.table.state = .running
  still : s.run.table.Still
  numbered : ∀ x ∈ s.answers, x.1 < s.calls

/-- The supervisor once it has carried this command out. -/
def answered (s : Supervisor α) (t' : SlotTable) (result : Except TableError α) : Supervisor α :=
  { s with
    run := { s.run with table := t' }
    calls := s.calls + 1
    answers := s.answers ++ [(s.calls, .carriedOut result)] }

namespace Resting

theorem background (h : s.Resting) : s.run.background = s.run := h.still.background_of_running h.running

theorem turn? (h : s.Resting) : s.turn? = none :=
  (turn?_of_serving h.serving h.unasked).trans (serve?_of_idle h.queue h.inbox)

theorem round (h : s.Resting) : s.round = s := by
  unfold Supervisor.round
  rw [h.background]
  exact drain_of_idle h.turn?

theorem settle (h : s.Resting) : s.settle = s := by
  unfold Supervisor.settle
  rw [h.round, h.round, h.round]

theorem moveTo (h : s.Resting) (time : Nat) : (Timed.moveTo time s).Resting :=
  ⟨h.serving, h.unasked, h.listening, h.queue, h.inbox, h.running, h.still, h.numbered⟩

theorem answered (h : s.Resting) (result : Except TableError α) (hstate : t'.state = .running)
    (hstill : t'.Still) : (s.answered t' result).Resting := by
  refine ⟨h.serving, h.unasked, h.listening, h.queue, h.inbox, hstate, hstill, fun x hx => ?_⟩
  rcases List.mem_append.1 hx with hx | hx
  · exact Nat.lt_succ_of_lt (h.numbered x hx)
  · obtain rfl := List.mem_singleton.1 hx
    exact Nat.lt_succ_self _

/-- A command of which nobody is told is carried out, and the supervisor is at rest again. -/
theorem settle_post (h : s.Resting)
    (hrun : command.run s.run.now s.run.table = ⟨result, t', [], []⟩) (hstate : t'.state = .running)
    (hstill : t'.Still) : (s.post command).settle = s.answered t' result := by
  have hunstopped : s.phase ≠ .stopped := by
    rw [h.serving]
    nofun
  have hinbox : (s.received command).inbox = [⟨s.calls, command⟩] := by
    unfold received
    rw [h.inbox]
    rfl
  have hserve : (s.received command).serve? =
      some ((s.received command).carriedOut ⟨s.calls, command⟩ [] ⟨result, t', [], []⟩) :=
    serve?_of_call h.queue hinbox hrun
  have hcarried : (s.received command).carriedOut ⟨s.calls, command⟩ [] ⟨result, t', [], []⟩ =
      s.answered t' result := by
    unfold carriedOut received Supervisor.answered
    rw [TableRun.absorb_silent, h.inbox]
  have hturn := (turn?_of_serving (s := s.received command) h.serving h.unasked).trans hserve
  rw [hcarried] at hturn
  have hbackground : (s.received command).run.background = (s.received command).run := h.background
  have hrest := h.answered result hstate hstill
  have hfirst : (s.post command).round = s.answered t' result := by
    rw [post_of_unstopped hunstopped]
    unfold Supervisor.round
    rw [hbackground]
    exact (drain_of_turn hturn).trans (drain_of_idle hrest.turn?)
  unfold Supervisor.settle
  rw [hfirst, hrest.round, hrest.round]

theorem answer?_answered (h : s.Resting) :
    (s.answered t' result).answer? s.calls = some (.carriedOut result) := by
  have hnone : s.answers.lookup s.calls = none := by
    refine List.lookup_eq_none_iff.2 fun x hx => ?_
    have hlt := h.numbered x hx
    simp only [bne_iff_ne]
    omega
  unfold Supervisor.answer? Supervisor.answered
  rw [List.lookup_append, hnone]
  simp

end Resting

end Supervisor

/-! ## Agents at rest -/

namespace Agent

variable {a : Agent} {command : Command AgentAnswer} {result : Except TableError AgentAnswer}
  {t' : SlotTable}

/-- An agent that has nothing to do, and none of whose tasks was told to fail. -/
structure Resting (a : Agent) : Prop where
  supervisor : a.supervisor.Resting
  failures : a.supervisor.run.failures = []
  unbound : a.unbound = 0

/-- Where no task was told to fail, none is unbound. -/
theorem settle_of_unfailing (h : a.supervisor.settle.run.failures = []) (hunbound : a.unbound = 0) :
    a.settle = { a with supervisor := a.supervisor.settle.settle } := by
  obtain ⟨s, unbound⟩ := a
  obtain rfl := hunbound
  unfold Agent.settle unbindFailed
  dsimp only at h ⊢
  rw [h]
  rfl

/-- Where nothing is to happen at any time, all time passes at once. -/
theorem advance_of_still (h : a.supervisor.run.table.Still) (ms : UInt64) :
    Timed.advance ms a = Timed.wake (Timed.now a + ms.toNat) a := by
  have hnext : Timed.next? a = none := h.nextDeadline?
  unfold Timed.advance
  cases Timed.pending a with
  | zero => rfl
  | succ fuel =>
    unfold Timed.advanceTo
    rw [hnext]

namespace Resting

theorem settle (h : a.Resting) : a.settle = a := by
  have hsettled := h.supervisor.settle
  rw [settle_of_unfailing (by rw [hsettled]; exact h.failures) h.unbound, hsettled, hsettled]

/-- A command of which nobody is told is answered at once. -/
theorem call (h : a.Resting)
    (hrun : command.run a.supervisor.run.now a.table = ⟨result, t', [], []⟩)
    (hstate : t'.state = .running) (hstill : t'.Still) :
    ∃ a', a.call command = (.carriedOut result, a') ∧ a'.Resting ∧ a'.table = t' := by
  have hsettled := h.supervisor.settle_post hrun hstate hstill
  have hrest := h.supervisor.answered result hstate hstill
  have hagent : Agent.settle { a with supervisor := a.supervisor.post command } =
      { a with supervisor := a.supervisor.answered t' result } := by
    have hunfailing : (a.supervisor.post command).settle.run.failures = [] := by
      rw [hsettled]
      exact h.failures
    rw [settle_of_unfailing (a := { a with supervisor := a.supervisor.post command }) hunfailing h.unbound]
    dsimp only
    rw [hsettled, hrest.settle]
  refine ⟨{ a with supervisor := a.supervisor.answered t' result }, ?_,
    ⟨hrest, h.failures, h.unbound⟩, rfl⟩
  unfold Agent.call
  dsimp only
  rw [hagent]
  dsimp only
  rw [h.supervisor.answer?_answered]
  rfl

/-- Whatever time passes, nothing happens. -/
theorem advance (h : a.Resting) (ms : UInt64) :
    (Timed.advance ms a).Resting ∧ (Timed.advance ms a).table = a.table := by
  have hmoved : ∀ time, (Timed.moveTo time a).Resting :=
    fun time => ⟨h.supervisor.moveTo time, h.failures, h.unbound⟩
  have heq : Timed.advance ms a = Timed.moveTo (Timed.now a + ms.toNat) a :=
    (advance_of_still h.supervisor.still ms).trans (hmoved _).settle
  rw [heq]
  exact ⟨hmoved _, rfl⟩

end Resting

end Agent

end WorkerSlots
