import WorkerSlots.Proofs.Answers
import WorkerSlots.Proofs.Supervision

/-!
# Calls of a supervisor

* `Supervisor.ownWork_of_due?` : what a supervisor does to its table besides carrying out commands;
* `run_of_executes?`, `Faithful.run_of_executes?_eq_none` : a command is carried out as a whole, and nothing else
  is done meanwhile;
* `Faithful.exists_rest` : the supervisor and its callers always come to rest by themselves;
* `reply?_lasting` : what a caller has been told stays so;
* `Honoured`, `honoured_of_new` : all of this in every run.
-/

namespace WorkerSlots

open SlotTable TableRun

/-! ## Own work of the supervisor -/

/-- What the supervisor does to its table, or happens to it, without any command of a caller. -/
def TableEvent.IsOwnWork (e : TableEvent) : Prop :=
  e.isChannel = true ∨ e = .operation .close ∨ (∃ a cause, e = .operation (.free a cause)) ∨ ∃ h, e = .happening h

namespace Supervisor

variable {α : Type} {s : Supervisor α}

theorem ownWork_serve (h : (if s.run.queue.isEmpty then s.inbox.head? else none) = none) :
    ∀ e ∈ s.serveEvents, e.IsOwnWork := by
  intro e he
  unfold serveEvents at he
  cases hqueue : s.run.queue with
  | cons x queue =>
    rw [hqueue] at he
    obtain rfl | he := List.mem_cons.1 he
    · exact .inl rfl
    · exact .inr (.inr (.inl (mem_heedEvents he)))
  | nil =>
    rw [hqueue] at he h
    cases hinbox : s.inbox with
    | nil =>
      rw [hinbox] at he
      cases he
    | cons call inbox =>
      rw [hinbox] at h
      cases h

/-- As long as no call is due, a supervisor does its own work only. -/
theorem ownWork_of_due? (h : s.due? = none) : ∀ e ∈ s.turnEvents, e.IsOwnWork := by
  unfold due? at h
  unfold turnEvents
  cases hphase : s.phase with
  | stopped => nofun
  | serving =>
    rw [hphase] at h
    cases hshutdown : s.shutdownRequested with
    | true =>
      intro e he
      exact .inr (.inl (List.mem_singleton.1 he))
    | false =>
      rw [hshutdown] at h
      exact ownWork_serve h
  | closing =>
    rw [hphase] at h
    cases hclosed : s.run.table.isClosed with
    | true =>
      intro e he
      obtain rfl := List.mem_singleton.1 he
      exact .inl rfl
    | false =>
      rw [hclosed] at h
      exact ownWork_serve h

end Supervisor

namespace Callers

variable {α : Type} {s : Callers α} {commands : List (Command α)} {log : List (Execution α)} {caller : Nat}
  {table : SlotTable}

/-- A command is carried out as a whole, on the table that is there. -/
theorem run_of_executes? {e : CallersEvent α} {x : Execution α} (h : s.executes? e = some x) :
    x.before = s.supervisor.run ∧ (s.after e).supervisor.run = x.after := by
  cases e with
  | call | enter | requestShutdown | happening => cases h
  | turn =>
    show _ ∧ s.turn.supervisor.run = _
    rw [turn_supervisor]
    have hturn := s.supervisor.after_turn_cases
    unfold executes? at h
    generalize s.supervisor.due? = due, s.supervisor.after .turn = supervisor at hturn h
    cases hturn with
    | answer =>
      rw [Option.bind_some] at h
      obtain ⟨caller, -, rfl⟩ := Option.map_eq_some_iff.1 h
      exact ⟨rfl, rfl⟩
    | same | stop => cases h

/-- While no command is carried out, the table undergoes the supervisor's own work. -/
theorem Faithful.run_of_executes?_eq_none (h : s.Faithful commands log) {e : CallersEvent α}
    (hnone : s.executes? e = none) :
    ∃ work, (∀ w ∈ work, w.IsOwnWork) ∧ (s.after e).supervisor.run = s.supervisor.run.afterAll work := by
  cases e with
  | call command =>
    refine ⟨[], nofun, ?_⟩
    show (s.call command).supervisor.run = _
    rw [call_supervisor]
    rfl
  | enter caller =>
    refine ⟨[], nofun, ?_⟩
    show (s.enter caller).supervisor.run = _
    obtain heq | ⟨command, hcaller, hroom, -⟩ := s.enter_cases caller
    · rw [heq]
      rfl
    · rw [(h.enter_eq hcaller hroom).2]
      rfl
  | turn =>
    show ∃ work, _ ∧ s.turn.supervisor.run = _
    rw [turn_supervisor]
    refine ⟨s.supervisor.turnEvents, ?_, s.supervisor.after_run .turn⟩
    refine Supervisor.ownWork_of_due? ?_
    have hturn := s.supervisor.after_turn_cases
    generalize hdue : s.supervisor.due? = due, s.supervisor.after .turn = supervisor at hturn
    cases hturn with
    | same | stop => rfl
    | answer hphase hinbox =>
      -- the call that is due has a caller
      obtain ⟨-, -, caller, hcaller, -⟩ := h.first_call hphase hinbox
      rw [h.executes?_turn hphase hinbox hdue hcaller] at hnone
      cases hnone
  | requestShutdown => exact ⟨[], nofun, rfl⟩
  | happening happening =>
    refine ⟨[.happening happening], fun w hw => ?_, rfl⟩
    exact .inr (.inr (.inr ⟨happening, List.mem_singleton.1 hw⟩))

/-! ## Coming to rest -/

/-- A turn ends a phase, or takes a call or something that the table asks for, while those that wait go on waiting. -/
theorem turn_shorter {supervisor : Supervisor α} (h : s.supervisor.turn? = some supervisor) :
    (s.after .turn).supervisor.phase.remaining < s.supervisor.phase.remaining ∨
    (s.after .turn).supervisor.phase = s.supervisor.phase ∧ (s.after .turn).waiting = s.waiting ∧
      ((s.after .turn).supervisor.inbox.length < s.supervisor.inbox.length ∨
        (s.after .turn).supervisor.inbox = s.supervisor.inbox ∧
          (s.after .turn).supervisor.run.queue.length < s.supervisor.run.queue.length) := by
  have hafter : s.supervisor.after .turn = supervisor := by
    unfold Supervisor.after
    rw [h]
    rfl
  have hgoes : s.supervisor.phase ≠ .stopped := by
    intro hstopped
    unfold Supervisor.turn? at h
    rw [hstopped] at h
    cases h
  have hsupervisor : (s.after .turn).supervisor = supervisor := s.turn_supervisor.trans hafter
  rw [hsupervisor]
  obtain hphase | ⟨hphase, hless⟩ := Supervisor.turn?_shorter h
  · exact .inl hphase
  · refine .inr ⟨hphase, ?_, hless⟩
    show s.turn.waiting = s.waiting
    have hstopped : supervisor.isStopped = false := by
      simp [Supervisor.isStopped, hphase, hgoes]
    unfold Callers.turn
    simp only [hafter, hstopped, Bool.false_eq_true, ↓reduceIte]

/-- Where the supervisor has nothing to do, the first one that waits gets in. -/
theorem Faithful.enter_shorter (h : s.Faithful commands log) (hturn : s.supervisor.turn? = none)
    {x : Nat × Command α} {rest : List (Nat × Command α)} (hwaiting : s.waiting = x :: rest) :
    (s.after (.enter x.1)).supervisor.phase = s.supervisor.phase ∧
      (s.after (.enter x.1)).waiting.length < s.waiting.length := by
  have hlookup : s.waiting.lookup x.1 = some x.2 := by
    rw [hwaiting, List.lookup_cons, beq_self_eq_true]
  have hroom : s.supervisor.inbox.length < inboxRoom := by
    obtain hstopped | ⟨-, hinbox⟩ := Supervisor.rest_of_turn?_eq_none hturn
    · have hnone := (h.stopped hstopped).1
      rw [hwaiting] at hnone
      cases hnone
    · rw [hinbox]
      exact Nat.zero_lt_succ _
  have heq : s.after (.enter x.1) = _ := (h.enter_eq hlookup hroom).2
  rw [heq]
  refine ⟨rfl, ?_⟩
  show (s.waiting.filter fun y => y.1 ≠ x.1).length < s.waiting.length
  refine List.length_filter_lt_length_iff_exists.2 ⟨x, hwaiting ▸ List.mem_cons_self, ?_⟩
  simp

/-- A supervisor and its callers come to rest by themselves: those that wait get in and are served, or the supervisor
stops. -/
theorem Faithful.exists_rest (s : Callers α) {commands : List (Command α)} {log : List (Execution α)}
    (h : s.Faithful commands log) : ∃ steps, (∀ e ∈ steps, e.isInner = true) ∧ (s.afterAll steps).AtRest := by
  cases hturn : s.supervisor.turn? with
  | some supervisor =>
    obtain ⟨steps, hinner, hrest⟩ := exists_rest (s.after .turn) (h.after .turn)
    exact ⟨.turn :: steps, List.forall_mem_cons.2 ⟨rfl, hinner⟩, hrest⟩
  | none =>
    cases hwaiting : s.waiting with
    | nil => exact ⟨[], nofun, hturn, hwaiting⟩
    | cons x rest =>
      obtain ⟨steps, hinner, hrest⟩ := exists_rest (s.after (.enter x.1)) (h.after (.enter x.1))
      exact ⟨.enter x.1 :: steps, List.forall_mem_cons.2 ⟨rfl, hinner⟩, hrest⟩
termination_by (s.supervisor.phase.remaining, s.waiting.length, s.supervisor.inbox.length, s.supervisor.run.queue.length)
decreasing_by
  · obtain ⟨hphase, hwait⟩ := h.enter_shorter hturn hwaiting
    rw [hphase]
    exact Prod.Lex.right _ (Prod.Lex.left _ _ hwait)
  · obtain hphase | ⟨hphase, hwait, hinbox | ⟨hinbox, hqueue⟩⟩ := turn_shorter hturn
    · exact Prod.Lex.left _ _ hphase
    · rw [hphase, hwait]
      exact Prod.Lex.right _ (Prod.Lex.right _ (Prod.Lex.left _ _ hinbox))
    · rw [hphase, hwait, hinbox]
      exact Prod.Lex.right _ (Prod.Lex.right _ (Prod.Lex.right _ hqueue))

/-! ## Every run -/

/-- What happens to the callers is nothing to the supervisor, or it is an event of the supervisor. -/
theorem supervisor_after (s : Callers α) (e : CallersEvent α) :
    (s.after e).supervisor = s.supervisor ∨ ∃ e', (s.after e).supervisor = s.supervisor.after e' := by
  cases e with
  | call command => exact .inl (s.call_supervisor command)
  | enter caller =>
    show (s.enter caller).supervisor = _ ∨ ∃ e', (s.enter caller).supervisor = _
    obtain heq | ⟨command, -, -, heq⟩ := s.enter_cases caller <;> rw [heq]
    · exact .inl rfl
    · exact .inr ⟨.post command, rfl⟩
  | turn => exact .inr ⟨.turn, s.turn_supervisor⟩
  | requestShutdown => exact .inr ⟨.requestShutdown, rfl⟩
  | happening happening => exact .inr ⟨.happening happening, rfl⟩

theorem reached_afterAll {history : List TableEvent} (h : Supervisor.Reached table history s.supervisor)
    (events : List (CallersEvent α)) :
    ∃ history', Supervisor.Reached table history' (s.afterAll events).supervisor := by
  induction events generalizing s history with
  | nil => exact ⟨history, h⟩
  | cons e rest ih =>
    obtain heq | ⟨e', heq⟩ := s.supervisor_after e
    · exact ih (heq ▸ h)
    · exact ih (heq ▸ h.step e')

/-- A caller keeps the answer that it got. -/
theorem reply?_lasting {run : TableRun} {events more : List (CallersEvent α)} {answer : CallAnswer α}
    (h : ((Callers.new run).afterAll events).reply? caller = some answer) :
    ((Callers.new run).afterAll (events ++ more)).reply? caller = some answer := by
  have hbefore := faithful_afterAll run events
  have hafter := faithful_afterAll run (events ++ more)
  cases answer with
  | carriedOut result =>
    obtain ⟨x, hx, hcaller, hresult⟩ := hbefore.reply?_eq_carriedOut_iff.1 h
    refine hafter.reply?_eq_carriedOut_iff.2 ⟨x, ?_, hcaller, hresult⟩
    rw [executions_append]
    exact List.mem_append_left _ hx
  | stopped =>
    obtain ⟨hphase, hcaller, hunserved⟩ := hbefore.reply?_eq_stopped_iff.1 h
    obtain ⟨hnone, hstopped⟩ := hbefore.executions_of_stopped hphase more
    refine hafter.reply?_eq_stopped_iff.2 ⟨?_, ?_, ?_⟩
    · rw [afterAll_append]
      exact hstopped
    · rw [← hbefore.count] at hcaller
      rw [← hafter.count, sent_append, List.length_append]
      omega
    · rw [executions_append, hnone, List.append_nil]
      exact hunserved

/-- The calls of a run are honoured. The commands that get in are carried out one after the other, as wholes and in
this order. A caller is told of a result if and only if its command was carried out with this result, and that the
supervisor has stopped if and only if its command never is. -/
structure Honoured (start : Callers α) (events : List (CallersEvent α)) : Prop where
  room : (start.afterAll events).supervisor.inbox.length ≤ inboxRoom
  order : (start.executions events).map Execution.caller <+: (start.afterAll events).accepted
  once : ((start.executions events).map Execution.caller).Nodup
  own : ∀ x ∈ start.executions events, (sent events)[x.caller]? = some x.command
  /-- A command is carried out on the table that is there: its operations are, one after the other, and nothing else
  is done meanwhile. -/
  alone : ∀ before e rest x, events = before ++ e :: rest → (start.afterAll before).executes? e = some x →
    x.before = (start.afterAll before).supervisor.run ∧
      (start.afterAll (before ++ [e])).supervisor.run = x.after ∧
      x.after = x.before.afterAll ((x.command.operations x.before.now x.before.table).map .operation)
  apart : ∀ before e rest, events = before ++ e :: rest → (start.afterAll before).executes? e = none →
    ∃ work, (∀ w ∈ work, w.IsOwnWork) ∧
      (start.afterAll (before ++ [e])).supervisor.run = (start.afterAll before).supervisor.run.afterAll work
  carriedOut : ∀ caller result, (start.afterAll events).reply? caller = some (.carriedOut result) ↔
    ∃ x ∈ start.executions events, x.caller = caller ∧ x.result = result
  stopped : ∀ caller, (start.afterAll events).reply? caller = some .stopped →
    caller < (sent events).length ∧ ∀ more, ∀ x ∈ start.executions (events ++ more), x.caller ≠ caller
  never : ∀ caller, caller < (sent events).length →
    (∀ more, ∀ x ∈ start.executions (events ++ more), x.caller ≠ caller) →
    ∀ more, (start.afterAll (events ++ more)).AtRest →
      (start.afterAll (events ++ more)).reply? caller = some .stopped
  lasting : ∀ more caller answer, (start.afterAll events).reply? caller = some answer →
    (start.afterAll (events ++ more)).reply? caller = some answer
  answered : (start.afterAll events).AtRest → ∀ caller, caller < (sent events).length →
    ∃ answer, (start.afterAll events).reply? caller = some answer
  rest : ∃ steps, (∀ e ∈ steps, e.isInner = true) ∧ (start.afterAll (events ++ steps)).AtRest
  closed : (start.afterAll events).supervisor.phase = .stopped →
    (start.afterAll events).supervisor.run.table.state = .closed

end Callers

/-- The calls of a supervisor are honoured in every run, whoever calls whenever and whenever it is told to shut
down. -/
theorem honoured_of_new {α : Type} {config : TableConfig} {timers : Timers AllocationId} {table : SlotTable}
    (hnew : SlotTable.new config timers = .ok table) (before : List TableEvent)
    (hchannel : ∀ e ∈ before, e.isChannel = false) (events : List (CallersEvent α)) :
    (Callers.new ((TableRun.new table true).afterAll before)).Honoured events := by
  have hfaithful := Callers.faithful_afterAll (α := α) ((TableRun.new table true).afterAll before)
  generalize hrun : (TableRun.new table true).afterAll before = run at hfaithful
  have h := hfaithful events
  have hunserved : ∀ caller more, ((Callers.new run).afterAll events).reply? caller = some .stopped →
      ∀ x ∈ (Callers.new run).executions (events ++ more), x.caller ≠ caller := fun caller more hreply =>
    ((hfaithful (events ++ more)).reply?_eq_stopped_iff.1 (Callers.reply?_lasting hreply)).2.2
  have hanswered : ∀ more caller, caller < (Callers.sent events).length →
      ((Callers.new run).afterAll (events ++ more)).AtRest →
      ∃ answer, ((Callers.new run).afterAll (events ++ more)).reply? caller = some answer := by
    intro more caller hcaller hrest
    have hafter := hfaithful (events ++ more)
    refine hafter.exists_reply hrest ?_
    rw [← hafter.count, Callers.sent_append, List.length_append]
    omega
  exact {
    room := h.room
    order := h.order
    once := h.order.sublist.nodup h.nodup_accepted
    own := h.own
    alone := fun before e rest x hevents hx => by
      rw [Callers.afterAll_concat]
      obtain ⟨hbefore, hafter⟩ := Callers.run_of_executes? hx
      exact ⟨hbefore, hafter, run_eq_afterAll x.command x.before⟩
    apart := fun before e rest hevents hnone => by
      rw [Callers.afterAll_concat]
      exact (hfaithful before).run_of_executes?_eq_none hnone
    carriedOut := fun caller result => h.reply?_eq_carriedOut_iff
    stopped := fun caller hreply => by
      obtain ⟨-, hcaller, -⟩ := h.reply?_eq_stopped_iff.1 hreply
      rw [← h.count] at hcaller
      exact ⟨hcaller, fun more => hunserved caller more hreply⟩
    never := fun caller hcaller hnever more hrest => by
      obtain ⟨answer, hreply⟩ := hanswered more caller hcaller hrest
      cases answer with
      | stopped => exact hreply
      | carriedOut result =>
        obtain ⟨x, hx, heq, -⟩ := (hfaithful (events ++ more)).reply?_eq_carriedOut_iff.1 hreply
        exact absurd heq (hnever more x hx)
    lasting := fun more caller answer => Callers.reply?_lasting
    answered := fun hrest caller hcaller => by
      have hreply := hanswered [] caller hcaller
      rw [List.append_nil] at hreply
      exact hreply hrest
    rest := by
      obtain ⟨steps, hinner, hrest⟩ := h.exists_rest
      refine ⟨steps, hinner, ?_⟩
      rw [Callers.afterAll_append]
      exact hrest
    closed := fun hphase => by
      have hbegin : Supervisor.Reached table before (Callers.new (α := α) run).supervisor :=
        hrun ▸ .begin before hchannel
      obtain ⟨history, hreached⟩ := Callers.reached_afterAll hbegin events
      exact hreached.closed_of_stopped (SlotTable.Sound.new hnew).1 hphase }

/-- Three callers want slots. The first one is granted one and the second one gets in while the table is being closed,
so that two of them can ask elsewhere. -/
theorem honoured_of_new_shutdown : ∃ table, SlotTable.new .standard (.new 0) = .ok table ∧
    let request : Nat → Command SlotIndex := fun n => .operate (.allocate ⟨.dynamic, ⟨0⟩, ⟨n⟩, none, 5⟩)
    let start : Callers SlotIndex := .new ((TableRun.new table true).afterAll [.operation .start])
    let events : List (CallersEvent SlotIndex) :=
      [.call (request 1), .call (request 2), .call (request 3), .enter 0, .turn, .requestShutdown, .turn,
        .happening (.teardown 0), .happening .finish, .enter 1, .turn]
    start.Honoured events ∧ (start.executions events).map (fun x => (x.caller, x.result)) = [(0, .ok 1)] ∧
      ((start.afterAll (events.take 5)).supervisor.run.table.slot? ⟨1⟩).map (·.index) = some 1 ∧
      (start.afterAll events).reply? 0 = some (.carriedOut (.ok 1)) ∧
      (∀ caller ∈ [1, 2], (start.afterAll events).reply? caller = some .stopped ∧
        ∀ more, ∀ x ∈ start.executions (events ++ more), x.caller ≠ caller) ∧
      (start.afterAll events).supervisor.run.table.state = .closed := by
  have hnew : SlotTable.new .standard (.new 0) = .ok _ := rfl
  refine ⟨_, hnew, ?_⟩
  intro request start events
  have h : start.Honoured events := honoured_of_new hnew [.operation .start] (by decide) events
  have hexecutions : (start.executions events).map (fun x => (x.caller, x.result)) = [(0, .ok 1)] := by
    decide +kernel
  have hserved : ∀ x ∈ start.executions events, (x.caller, x.result) = (0, .ok 1) := by
    intro x hx
    have hmem := List.mem_map_of_mem (f := fun x => (x.caller, x.result)) hx
    rw [hexecutions] at hmem
    exact List.mem_singleton.1 hmem
  have hphase : (start.afterAll events).supervisor.phase = .stopped := by decide +kernel
  have hstopped : ∀ caller ∈ [1, 2], (start.afterAll events).reply? caller = some .stopped := by
    intro caller hcaller
    have hlater : 0 < caller ∧ caller < 3 := by
      revert caller
      decide
    have hfaithful : (start.afterAll events).Faithful (Callers.sent events) (start.executions events) :=
      Callers.faithful_afterAll _ events
    refine hfaithful.reply?_eq_stopped_iff.2 ⟨hphase, ?_, fun x hx heq => ?_⟩
    · rw [← hfaithful.count]
      exact hlater.2
    · have hfirst : x.caller = 0 := (Prod.mk.inj (hserved x hx)).1
      omega
  refine ⟨h, hexecutions, by decide +kernel, ?_, fun caller hcaller => ⟨hstopped caller hcaller, ?_⟩, h.closed hphase⟩
  · have hmem : (0, .ok 1) ∈ (start.executions events).map fun x => (x.caller, x.result) := by
      rw [hexecutions]
      exact List.mem_singleton_self _
    obtain ⟨x, hx, heq⟩ := List.mem_map.1 hmem
    obtain ⟨hcaller, hresult⟩ := Prod.mk.inj heq
    exact (h.carriedOut 0 (.ok 1)).2 ⟨x, hx, hcaller, hresult⟩
  · exact (h.stopped caller (hstopped caller hcaller)).2

end WorkerSlots
