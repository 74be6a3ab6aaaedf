import WorkerSlots.Proofs.Closing
import WorkerSlots.Proofs.StaticSlots

/-!
# How an agent shuts down

When an agent is told to shut down, its supervisor closes the table. This marks every slot and tells its
task to fail. Each failed task comes back to the supervisor as a command that unbinds it; this command asks
the supervisor to finish the slot, and the slot is closed. When all of them are, so is the table.

* `close_of_busy` : what closing comes to where every live slot has tasks;
* `SlotTable.Unwinding` : a table that closes, and waits for some tasks to leave. Each task that leaves
  takes its slot with it (`Unwinding.leave`), and then the table is closed (`Unwinding.finish`);
* `Supervisor.Unwinding` : the same of a supervisor to which these tasks come back. All of them leave
  (`Unwinding.drain`), and it stops (`Unwinding.stops`);
* `Agent.Resting.shutdown` : so the table of an agent is closed, and has nothing left, also when timeouts come late
  (`Agent.Resting.shutdown_straggle`).
-/

namespace WorkerSlots

open SlotTable

/-! ## Closing a table whose slots have tasks -/

/-- The slot, which is to be given back. -/
def TaskSlot.marked (s : TaskSlot) : TaskSlot := { s with state := .releasing }

/-- The slot once its tasks have left. -/
def TaskSlot.left (s : TaskSlot) : TaskSlot := { s with tasks := .empty }

/-- What a slot's tasks are told when the table closes. -/
def TaskSlot.closeFailures (s : TaskSlot) : List TaskFailure := s.tasks.values.map (⟨·, closeCause⟩)

/-- A slot that has tasks and is not to be given back yet. -/
structure TaskSlot.Busy (s : TaskSlot) : Prop where
  nonempty : s.isEmpty = false
  unmarked : s.state ≠ .releasing

namespace SlotTable

variable {t t' : SlotTable} {now : Nat}

theorem release_of_busy {a : AllocationId} {s : TaskSlot} (hlive : t.slots.get? a = some s)
    (hkey : s.allocation = a) (h : s.Busy) :
    t.release now a closeCause = ⟨.ok ⟨s.index, .draining, s.grant⟩,
      { t with slots := t.slots.insert a s.marked }, [], s.closeFailures⟩ := by
  have hslot : (s.close now closeCause).1 = s.marked := by
    rw [TaskSlot.close_eq, h.nonempty]
    rfl
  have hfailures : (s.close now closeCause).2 = s.closeFailures := by
    rw [TaskSlot.close_failures, if_neg h.unmarked]
    rfl
  rw [release_eq_afterDrain now hlive h.nonempty]
  unfold afterDrain
  rw [hslot, hfailures, hkey]

/-- Each slot is marked, and its tasks are told to fail. -/
theorem releaseAll_of_busy (now : Nat) {entries : List (AllocationId × TaskSlot)}
    (hnodup : (entries.map Prod.fst).Nodup)
    (hbusy : ∀ e ∈ entries, t.slots.get? e.1 = some e.2 ∧ e.2.allocation = e.1 ∧ e.2.Busy) :
    releaseAll now (entries.map Prod.fst) t =
      ⟨.ok (entries.map fun e => ⟨e.2.index, .draining, e.2.grant⟩),
        { t with
          slots := (entries.map fun e => (e.1, e.2.marked)).foldl (fun m e => m.insert e.1 e.2) t.slots },
        [], entries.flatMap fun e => e.2.closeFailures⟩ := by
  induction entries generalizing t with
  | nil => rfl
  | cons e rest ih =>
    obtain ⟨hlive, hkey, he⟩ := hbusy e List.mem_cons_self
    rw [List.map_cons, List.nodup_cons] at hnodup
    -- the other slots are as they were
    have hothers : ∀ e' ∈ rest, (t.slots.insert e.1 e.2.marked).get? e'.1 = some e'.2 ∧
        e'.2.allocation = e'.1 ∧ e'.2.Busy := by
      intro e' he'
      obtain ⟨hlive', hrest⟩ := hbusy e' (List.mem_cons_of_mem _ he')
      have hne : e'.1 ≠ e.1 := fun heq => hnodup.1 (heq ▸ List.mem_map_of_mem he')
      refine ⟨?_, hrest⟩
      rw [SortedMap.get?_insert, if_neg hne]
      exact hlive'
    have hrest := ih (t := { t with slots := t.slots.insert e.1 e.2.marked }) hnodup.2 hothers
    rw [List.map_cons, releaseAll_cons now (release_of_busy hlive hkey he), hrest]
    rfl

/-- The table once it closes, where every slot has tasks. -/
def marked (t : SlotTable) : SlotTable :=
  { t with
    state := .closing
    slots := t.slots.map TaskSlot.marked
    awaited := t.slots.values.map (·.grant) }

/-- Closing a running table marks all its slots, if each of them has tasks. -/
theorem Sound.close_of_busy (h : t.Sound) (hstate : t.state = .running)
    (hbusy : ∀ {a s}, t.slots.get? a = some s → s.Busy) :
    t.close now = ⟨.ok ⟨⟩, t.marked, [], t.slots.values.flatMap TaskSlot.closeFailures⟩ := by
  have hmarked : (t.slots.entries.map fun e => (e.1, e.2.marked)).foldl
      (fun m e => m.insert e.1 e.2) t.slots = t.slots.map TaskSlot.marked := by
    refine SortedMap.foldl_insert_eq (fun e he => ?_) fun a ha => ?_
    · obtain ⟨e, hmem, rfl⟩ := List.mem_map.1 he
      rw [SortedMap.get?_map, SortedMap.mem_entries_iff.1 hmem, Option.map_some]
    · rw [SortedMap.get?_map]
      cases hs : t.slots.get? a with
      | none => rfl
      | some s => exact absurd (List.mem_map_of_mem (SortedMap.mem_entries_iff.2 hs)) (ha _)
  have hall : ∀ e ∈ t.slots.entries, t.slots.get? e.1 = some e.2 ∧ e.2.allocation = e.1 ∧ e.2.Busy := by
    intro e he
    have hs := SortedMap.mem_entries_iff.1 he
    exact ⟨hs, h.keyed hs, hbusy hs⟩
  have hreleased :=
    releaseAll_of_busy (t := { t with state := .closing }) now (SortedMap.nodup_keys t.slots) hall
  have hbound : ¬ (!t.bound) = true := by
    rw [h.bound hstate]
    nofun
  unfold close SlotTable.closeInOrder
  rw [hstate]
  dsimp only
  rw [if_neg hbound]
  unfold SortedMap.keys
  rw [hreleased, hmarked]
  unfold Reply.andThen Reply.answer marked SortedMap.values
  dsimp only
  simp only [List.map_map, List.flatMap_map, List.append_nil]
  rfl

/-! ## A table that waits for tasks to leave -/

/-- A slot that waits for its only task to leave, and for nothing else. -/
structure Waits (t : SlotTable) (s : TaskSlot) (task : Task) : Prop where
  live : t.slots.get? task.allocation = some s
  releasing : s.state = .releasing
  tasks : s.tasks = SortedMap.empty.insert task.execution task
  teardown : s.teardown = .idle
  memory : s.memory.isUnused = true
  listed : t.taskOwners.get? task.execution = some task.allocation

/-- A table that closes, and waits for some tasks to leave first. -/
structure Unwinding (t : SlotTable) (tasks : List Task) : Prop where
  sound : t.Sound
  closing : t.state = .closing
  bound : t.bound = true
  still : t.Still
  distinct : (tasks.map (·.allocation)).Nodup
  waits : ∀ task ∈ tasks, ∃ s, t.Waits s task
  live : ∀ {a s}, t.slots.get? a = some s → ∃ task ∈ tasks, task.allocation = a
  awaited : ∀ g ∈ t.awaited, t.isGrantClosed g = true ∨ ∃ a s, t.slots.get? a = some s ∧ s.grant = g

/-- A slot has left the table, and is closed. -/
structure Closes (t : SlotTable) (s : TaskSlot) (t' : SlotTable) : Prop where
  slots : t'.slots = t.slots.erase s.allocation
  retired : ∃ closed, t'.retired = t.retired.insert s.grant closed ∧ closed.isClosed = true
  owners : t'.taskOwners = t.taskOwners
  state : t'.state = t.state
  bound : t'.bound = t.bound
  awaited : t'.awaited = t.awaited
  registrations : t'.timers.registrations = t.timers.registrations.erase s.allocation

/-- A slot that waits for nothing is closed when it is freed. -/
theorem Sound.free_of_drained (h : t.Sound) {s : TaskSlot} (hlive : t.slots.get? s.allocation = some s)
    (hreleasing : s.state = .releasing) (hempty : s.isEmpty = true) (hidle : s.teardown = .idle)
    (hunused : s.memory.isUnused = true) (now : Nat) (cause : String) :
    ∃ freed t', t.free now s.allocation cause = ⟨.ok freed, t', [], []⟩ ∧ Closes t s t' := by
  obtain ⟨as, hjob⟩ := h.exists_jobSlots hlive
  obtain ⟨budget, hbudget⟩ := h.exists_release? hlive
  have hstarted : t.state.isStarted = true := decide_eq_true (h.not_created hlive)
  have hfailures : (s.close now cause).2 = [] := by
    rw [TaskSlot.close_failures, if_pos hreleasing]
  have hclosed : (s.close now cause).1.isClosed = true := by
    rw [TaskSlot.close_eq, hempty, hidle]
    unfold TaskSlot.tearDown
    simp only [decide_true, Bool.and_self, ↓reduceIte, hunused]
    rfl
  unfold SlotTable.free whenStarted SlotTable.release
  rw [if_pos hstarted, hlive]
  dsimp only
  rw [if_pos hempty]
  unfold SlotTable.retire
  simp only [hjob, hbudget, hfailures]
  exact ⟨_, _, rfl, rfl, ⟨_, rfl, hclosed⟩, rfl, rfl, rfl, rfl, rfl⟩

/-- The table once the only task of a slot has left. -/
def withoutTask (t : SlotTable) (s : TaskSlot) (task : Task) : SlotTable :=
  { t with
    slots := t.slots.insert task.allocation s.left
    taskOwners := t.taskOwners.erase task.execution }

/-- The task leaves, and the owner is asked to finish its slot. -/
theorem Waits.removeTask {s : TaskSlot} {task : Task} (h : t.Waits s task) (hstate : t.state = .closing)
    (hbound : t.bound = true) :
    t.removeTask task.execution =
      ⟨.ok (some task), t.withoutTask s task, [.free task.allocation], []⟩ := by
  have hremove : s.remove? task.execution = some (task, s.left) := by
    refine TaskSlot.remove?_eq_some_iff.2 ⟨?_, ?_⟩
    · rw [h.tasks, SortedMap.get?_insert_self]
    · rw [h.tasks, SortedMap.erase_insert_self]
      rfl
  have hstarted : t.state.isStarted = true := by
    rw [hstate]
    rfl
  have hask : (s.left.isReleasing && s.left.isEmpty && t.bound) = true := by
    rw [hbound, Bool.and_true]
    exact Bool.and_eq_true_iff.2 ⟨decide_eq_true h.releasing, rfl⟩
  unfold SlotTable.removeTask whenStarted
  rw [if_pos hstarted, h.listed]
  dsimp only
  rw [h.live]
  dsimp only
  rw [hremove]
  dsimp only
  rw [if_pos hask]
  rfl

namespace Unwinding

variable {task : Task} {rest : List Task}

/-- The first task leaves, and takes its slot with it. -/
theorem leave (h : t.Unwinding (task :: rest)) (now : Nat) (cause : String) :
    ∃ u freed t', t.removeTask task.execution = ⟨.ok (some task), u, [.free task.allocation], []⟩ ∧
      u.state = .closing ∧ u.free now task.allocation cause = ⟨.ok freed, t', [], []⟩ ∧
      t'.Unwinding rest := by
  obtain ⟨s, hs⟩ := h.waits task List.mem_cons_self
  have hkey : s.allocation = task.allocation := h.sound.keyed hs.live
  have hremove := hs.removeTask h.closing h.bound
  have hsound : (t.withoutTask s task).Sound := by
    have hkept : (t.removeTask task.execution).table.Sound :=
      h.sound.operation (.removeTask task.execution) now
    rw [hremove] at hkept
    exact hkept
  have hdrained : (t.withoutTask s task).slots.get? s.left.allocation = some s.left := by
    show _ = some s.left
    rw [show s.left.allocation = task.allocation from hkey]
    exact SortedMap.get?_insert_self _ _ _
  obtain ⟨freed, t', hfree, hcloses⟩ :=
    hsound.free_of_drained hdrained hs.releasing rfl hs.teardown hs.memory now cause
  rw [show s.left.allocation = task.allocation from hkey] at hfree
  have hslots : ∀ a, t'.slots.get? a = if a = task.allocation then none else t.slots.get? a := by
    intro a
    rw [hcloses.slots]
    show ((t.slots.insert task.allocation s.left).erase s.allocation).get? a = _
    rw [hkey, SortedMap.erase_insert_self, SortedMap.get?_erase]
  obtain ⟨closed, hretired, hclosed⟩ := hcloses.retired
  have hsettled : ∀ g, t'.isGrantClosed g = true ↔ g = s.grant ∨ t.isGrantClosed g = true := by
    intro g
    unfold isGrantClosed
    rw [hretired, SortedMap.get?_insert]
    split
    · rename_i heq
      exact iff_of_true hclosed (.inl heq)
    · rename_i hne
      exact (or_iff_right hne).symm
  have hdistinct := h.distinct
  rw [List.map_cons, List.nodup_cons] at hdistinct
  refine ⟨_, freed, t', hremove, h.closing, hfree, ?_, hcloses.state.trans h.closing,
    hcloses.bound.trans h.bound, ⟨?_, ?_⟩, hdistinct.2, ?_, ?_, ?_⟩
  · have hkept : ((t.withoutTask s task).free now task.allocation cause).table.Sound :=
      hsound.operation (.free task.allocation cause) now
    rw [hfree] at hkept
    exact hkept
  · rw [hcloses.registrations]
    show t.timers.registrations.erase _ = _
    rw [h.still.registrations]
    rfl
  · intro g x hx
    rw [hretired, SortedMap.get?_insert] at hx
    split at hx
    · obtain rfl := Option.some.inj hx
      exact hclosed
    · exact h.still.closed hx
  · -- the others have another slot, and so another execution
    intro task' hmem
    obtain ⟨s', hs'⟩ := h.waits task' (List.mem_cons_of_mem _ hmem)
    have hne : task'.allocation ≠ task.allocation := fun heq => hdistinct.1 (heq ▸ List.mem_map_of_mem hmem)
    refine ⟨s', ?_, hs'.releasing, hs'.tasks, hs'.teardown, hs'.memory, ?_⟩
    · rw [hslots, if_neg hne]
      exact hs'.live
    · rw [hcloses.owners]
      show (t.taskOwners.erase task.execution).get? task'.execution = _
      rw [SortedMap.get?_erase, if_neg fun heq => ?_]
      · exact hs'.listed
      · have hlisted := hs'.listed
        rw [heq, hs.listed] at hlisted
        exact hne (Option.some.inj hlisted).symm
  · intro a x hx
    rw [hslots] at hx
    split at hx
    · cases hx
    · rename_i hne
      obtain ⟨task', hmem, rfl⟩ := h.live hx
      obtain rfl | hmem := List.mem_cons.1 hmem
      · exact absurd rfl hne
      · exact ⟨task', hmem, rfl⟩
  · intro g hg
    rw [hcloses.awaited] at hg
    rw [hsettled]
    obtain hdone | ⟨a, x, hx, rfl⟩ := h.awaited g hg
    · exact .inl (.inr hdone)
    · by_cases heq : a = task.allocation
      · subst heq
        obtain rfl := Option.some.inj (hx.symm.trans hs.live)
        exact .inl (.inl rfl)
      · refine .inr ⟨a, x, ?_, rfl⟩
        rw [hslots, if_neg heq]
        exact hx

/-- A table that waits for no task any more is closed, and nothing is left of it. -/
theorem finish (h : t.Unwinding []) :
    t.finishClose.state = .closed ∧ t.finishClose.Still ∧ t.finishClose.Emptied := by
  have hgone : ∀ a, t.slots.get? a = none := by
    intro a
    cases hs : t.slots.get? a with
    | none => rfl
    | some s =>
      obtain ⟨task, hmem, -⟩ := h.live hs
      cases hmem
  have hclosed : ∀ g ∈ t.awaited, t.isGrantClosed g = true := by
    intro g hg
    obtain hdone | ⟨a, s, hs, -⟩ := h.awaited g hg
    · exact hdone
    · rw [hgone a] at hs
      cases hs
  have hall : t.awaited.all t.isGrantClosed = true := List.all_eq_true.2 hclosed
  have hfinish : t.finishClose = { t with state := .closed, timers := t.timers.cancel } := by
    unfold finishClose
    exact if_pos ⟨h.closing, hall⟩
  have hending : Ending { t with state := .closed, timers := t.timers.cancel } :=
    ⟨nofun, nofun, fun _ => hgone, fun _ _ => hclosed, fun _ _ => rfl⟩
  have hstep : Step 0 t (.happening .finish) [] [] { t with state := .closed, timers := t.timers.cancel } :=
    .finish h.closing hall
  rw [hfinish]
  refine ⟨rfl, ⟨h.still.registrations, h.still.closed⟩,
    hending.emptied (h.sound.step hstep) rfl h.bound fun a => ?_⟩
  show t.timers.registrations.get? a = none
  rw [h.still.registrations]
  rfl

end Unwinding

/-- A table is not closed while there is a slot that it awaits. -/
theorem finishClose_of_awaited {g : Nat} (hawaited : g ∈ t.awaited) (hopen : t.retired.get? g = none) :
    t.finishClose = t := by
  unfold finishClose
  refine if_neg fun hend => ?_
  obtain ⟨s, hs, -⟩ := isGrantClosed_iff.1 (List.all_eq_true.1 hend.2 g hawaited)
  rw [hopen] at hs
  cases hs

end SlotTable

/-! ## A supervisor to which the tasks come back -/

namespace Supervisor

variable {s : Supervisor AgentAnswer} {task : Task} {tasks rest : List Task}

/-- A supervisor that closes its table, and to which the tasks that the table waits for come back. -/
structure Unwinding (s : Supervisor AgentAnswer) (tasks : List Task) : Prop where
  closing : s.phase = .closing
  listening : s.run.listening = true
  queue : s.run.queue = []
  inbox : s.inbox.map (·.command) = tasks.map fun task => Agent.unbindCommand task.execution
  table : s.run.table.Unwinding tasks

/-- A supervisor that has stopped, of whose table nothing is left. -/
structure Over (s : Supervisor AgentAnswer) : Prop where
  stopped : s.phase = .stopped
  closed : s.run.table.state = .closed
  still : s.run.table.Still
  emptied : s.run.table.Emptied

/-- A slot that the table asks for is freed. -/
theorem turn?_of_free {a : AllocationId} {freed : FreedSlot} {t' : SlotTable} (hphase : s.phase = .closing)
    (hopen : s.run.table.state = .closing) (hqueue : s.run.queue = [.free a])
    (hfree : s.run.table.free s.run.now a emptiedCause = ⟨.ok freed, t', [], []⟩) :
    s.turn? = some { s with run := { s.run with queue := [], table := t' } } := by
  have hheed : TableRun.heed { s.run with queue := [] } (.free a) =
      { s.run with queue := [], table := t' } := by
    unfold TableRun.heed TableRun.perform TableOperation.run
    dsimp only
    rw [hfree]
    exact TableRun.absorb_silent _ _ _
  rw [turn?_of_closing hphase hopen]
  unfold serve?
  rw [hqueue]
  dsimp only
  rw [hheed]

namespace Unwinding

/-- In two turns, the task is unbound and its slot is freed. -/
theorem drain_cons (h : s.Unwinding (task :: rest)) :
    ∃ s' : Supervisor AgentAnswer, s.drain = s'.drain ∧ s'.Unwinding rest := by
  obtain ⟨u, freed, t', hremove, hopen, hfree, hrest⟩ := h.table.leave s.run.now emptiedCause
  obtain ⟨call, inbox, hinbox, hcall, hcalls⟩ := List.map_eq_cons_iff.1 h.inbox
  have hunbind : TableOperation.run s.run.now s.run.table (.removeTask task.execution) =
      ⟨.ok (some task), u, [.free task.allocation], []⟩ := hremove
  have hrun : call.command.run s.run.now s.run.table =
      ⟨.ok (.unbound (some task)), u, [.free task.allocation], []⟩ := by
    rw [hcall]
    exact Command.run_operate_bind hunbind
  have hanswer := (turn?_of_closing h.closing h.table.closing).trans (serve?_of_call h.queue hinbox hrun)
  have hserve := turn?_of_free
    (s := s.carriedOut call inbox ⟨.ok (.unbound (some task)), u, [.free task.allocation], []⟩)
    h.closing hopen (carriedOut_queue h.listening h.queue) hfree
  exact ⟨_, (drain_of_turn hanswer).trans (drain_of_turn hserve), h.closing, h.listening, rfl, hcalls,
    hrest⟩

/-- All tasks leave, one after the other. -/
theorem drain (h : s.Unwinding tasks) : s.drain.Unwinding [] := by
  induction tasks generalizing s with
  | nil =>
    have hidle := serve?_of_idle h.queue (List.map_eq_nil_iff.1 h.inbox)
    rw [drain_of_idle ((turn?_of_closing h.closing h.table.closing).trans hidle)]
    exact h
  | cons task rest ih =>
    obtain ⟨s', hdrain, hrest⟩ := h.drain_cons
    rw [hdrain]
    exact ih hrest

theorem round (h : s.Unwinding tasks) (hopen : s.run.table.finishClose = s.run.table) :
    s.round.Unwinding [] := by
  have hbackground : s.run.background = s.run := by
    rw [h.table.still.background, hopen]
  unfold Supervisor.round
  rw [hbackground]
  exact h.drain

/-- When all tasks have left, the supervisor stops. -/
theorem stops (h : s.Unwinding []) : s.round.Over := by
  obtain ⟨hclosed, hstill, hemptied⟩ := h.table.finish
  have hstop : Supervisor.turn? { s with run := s.run.background } =
      some (Supervisor.stop { s with run := s.run.background }) := by
    unfold Supervisor.turn? SlotTable.isClosed
    rw [h.closing, h.table.still.background]
    exact if_pos (decide_eq_true hclosed)
  unfold Supervisor.round
  rw [drain_of_turn hstop, drain_of_idle rfl, h.table.still.background]
  exact ⟨rfl, hclosed, hstill, hemptied⟩

end Unwinding

namespace Over

theorem round (h : s.Over) : s.round = s := by
  have hstate : s.run.table.state ≠ .closing := by
    rw [h.closed]
    nofun
  have hbackground : s.run.background = s.run := by
    rw [h.still.background, Still.finishClose hstate]
  have hidle : s.turn? = none := by
    unfold Supervisor.turn?
    rw [h.stopped]
  unfold Supervisor.round
  rw [hbackground]
  exact drain_of_idle hidle

theorem settle (h : s.Over) : s.settle = s := by
  unfold Supervisor.settle
  rw [h.round, h.round, h.round]

theorem post (h : s.Over) (command : Command AgentAnswer) : (s.post command).Over := by
  unfold Supervisor.post
  split <;> exact ⟨h.stopped, h.closed, h.still, h.emptied⟩

end Over

end Supervisor

/-! ## An agent that shuts down -/

namespace TaskSlot.IsClaimed

variable {config : TableConfig} {ids : AgentIds} {s : TaskSlot}

theorem busy (h : s.IsClaimed config ids) : s.Busy := by
  refine ⟨?_, ?_⟩
  · unfold TaskSlot.isEmpty
    rw [h.tasks]
    rfl
  · rw [h.state]
    nofun

theorem closeFailures (h : s.IsClaimed config ids) :
    s.closeFailures = [⟨ids.task s.index, closeCause⟩] := by
  unfold TaskSlot.closeFailures
  rw [h.tasks]
  rfl

end TaskSlot.IsClaimed

namespace SlotTable

/-- The tasks of the slots that an agent has claimed. -/
def claimedTasks (t : SlotTable) (ids : AgentIds) : List Task :=
  t.slots.values.map fun s => ids.task s.index

namespace Claimed

variable {t : SlotTable} {config : TableConfig} {ids : AgentIds} {k : Nat} {now : Nat}

/-- When the table closes, the task of every slot is told to fail. -/
theorem close (h : Claimed config ids k t) (now : Nat) :
    t.close now = ⟨.ok ⟨⟩, t.marked, [], (t.claimedTasks ids).map (⟨·, closeCause⟩)⟩ := by
  have hfailures : t.slots.values.flatMap TaskSlot.closeFailures =
      (t.claimedTasks ids).map (⟨·, closeCause⟩) := by
    unfold claimedTasks
    rw [List.map_map, List.map_eq_flatMap]
    refine List.flatMap_congr fun s hs => ?_
    obtain ⟨a, ha⟩ := SortedMap.mem_values_iff.1 hs
    exact (h.live ha).2.closeFailures
  rw [h.sound.close_of_busy h.running fun hs => (h.live hs).2.busy, hfailures]

/-- The table then waits for these tasks. -/
theorem unwinding (h : Claimed config ids k t) : t.marked.Unwinding (t.claimedTasks ids) := by
  have hmarked : ∀ {a s'}, t.marked.slots.get? a = some s' →
      ∃ s, t.slots.get? a = some s ∧ s.marked = s' := fun hs' => by
    unfold marked at hs'
    rw [SortedMap.get?_map] at hs'
    exact Option.map_eq_some_iff.1 hs'
  have hlive : ∀ {a s}, t.slots.get? a = some s → t.marked.slots.get? a = some s.marked := fun hs => by
    unfold marked
    rw [SortedMap.get?_map, hs]
    rfl
  refine ⟨?_, rfl, h.sound.bound h.running, ⟨h.registrations, h.still.closed⟩, ?_, fun task hmem => ?_,
    fun hs' => ?_, fun g hg => ?_⟩
  · have hclosed : (t.close 0).table.Sound := h.sound.operation .close 0
    rw [h.close] at hclosed
    exact hclosed
  · have hkeys : (t.claimedTasks ids).map (·.allocation) = t.slots.keys := by
      unfold claimedTasks SortedMap.values SortedMap.keys
      rw [List.map_map, List.map_map]
      refine List.map_congr_left fun e he => ?_
      have hs := SortedMap.mem_entries_iff.1 he
      exact h.key hs
    rw [hkeys]
    exact SortedMap.nodup_keys _
  · obtain ⟨s, hs, rfl⟩ := List.mem_map.1 hmem
    obtain ⟨a, ha⟩ := SortedMap.mem_values_iff.1 hs
    obtain ⟨hlt, hclaimed⟩ := h.live ha
    obtain rfl := h.key ha
    exact ⟨s.marked, hlive ha, rfl, hclaimed.tasks, hclaimed.teardown, hclaimed.memory,
      h.listed s.index hlt⟩
  · obtain ⟨s, hs, -⟩ := hmarked hs'
    exact ⟨_, List.mem_map_of_mem (SortedMap.mem_values_iff.2 ⟨_, hs⟩), h.key hs⟩
  · obtain ⟨s, hs, rfl⟩ := List.mem_map.1 hg
    obtain ⟨a, ha⟩ := SortedMap.mem_values_iff.1 hs
    exact .inr ⟨a, s.marked, hlive ha, rfl⟩

theorem finishClose (h : Claimed config ids k t) (htasks : t.claimedTasks ids ≠ []) :
    t.marked.finishClose = t.marked := by
  obtain ⟨task, hmem⟩ := List.exists_mem_of_ne_nil _ htasks
  obtain ⟨s, hs, -⟩ := List.mem_map.1 hmem
  refine finishClose_of_awaited (List.mem_map_of_mem hs) ?_
  show t.retired.get? _ = none
  rw [h.retired]
  rfl

end Claimed

end SlotTable

namespace Supervisor

variable {s : Supervisor AgentAnswer} {t' : SlotTable} {told : List TaskFailure} {tasks : List Task}

/-- The commands that are sent to a supervisor wait for their turn. -/
theorem foldl_post {γ : Type} (command : γ → Command AgentAnswer) (xs : List γ) (h : s.phase = .closing) :
    (xs.foldl (fun s x => s.post (command x)) s).run = s.run ∧
      (xs.foldl (fun s x => s.post (command x)) s).phase = .closing ∧
      (xs.foldl (fun s x => s.post (command x)) s).inbox.map (·.command) =
        s.inbox.map (·.command) ++ xs.map command := by
  induction xs generalizing s with
  | nil => exact ⟨rfl, h, (List.append_nil _).symm⟩
  | cons x rest ih =>
    have hunstopped : s.phase ≠ .stopped := by
      rw [h]
      nofun
    rw [List.foldl_cons, post_of_unstopped hunstopped]
    obtain ⟨hrun, hphase, hinbox⟩ := ih (s := s.received (command x)) h
    refine ⟨hrun, hphase, hinbox.trans ?_⟩
    unfold received
    rw [List.map_append, List.append_assoc]
    rfl

theorem Over.foldl_post {γ : Type} (command : γ → Command AgentAnswer) (xs : List γ) (h : s.Over) :
    (xs.foldl (fun s x => s.post (command x)) s).Over := by
  induction xs generalizing s with
  | nil => exact h
  | cons x rest ih => exact ih (h.post (command x))

/-- A supervisor to which all tasks come back stops. -/
theorem Unwinding.settle (h : s.Unwinding tasks) (hopen : s.run.table.finishClose = s.run.table) :
    s.settle.Over := by
  have hover := (h.round hopen).stops
  unfold Supervisor.settle
  rw [hover.round]
  exact hover

/-- The supervisor once it has been told to shut down and has closed its table. -/
def closed (s : Supervisor AgentAnswer) (t' : SlotTable) (told : List TaskFailure) :
    Supervisor AgentAnswer :=
  { s with
    phase := .closing
    shutdownRequested := true
    run := { s.run with table := t', failures := s.run.failures ++ told } }

theorem Resting.turn?_closed (h : s.Resting) (hopen : t'.state = .closing) : (s.closed t' told).turn? = none :=
  (turn?_of_closing rfl hopen).trans (serve?_of_idle h.queue h.inbox)

/-- A supervisor at rest that is told to shut down closes its table, and waits. Timeouts that come late are taken up
after that, and ignored. -/
theorem requestShutdown_of_timeouts (h : s.unqueued.Resting) (htimeouts : ∀ x ∈ s.run.queue, x.IsTimeout)
    (hclose : s.run.table.close s.run.now = ⟨.ok ⟨⟩, t', [], told⟩) (hopen : t'.state = .closing) :
    s.requestShutdown.round = s.unqueued.closed t' told := by
  have habsorb : s.run.absorb ⟨.ok PUnit.unit, t', [], told⟩ =
      { s.run with table := t', failures := s.run.failures ++ told } := by
    unfold TableRun.absorb
    simp only [ite_self, List.append_nil, List.map_nil]
  have hserving : s.phase = .serving := h.serving
  have hbegin : s.requestShutdown.turn? = some (s.closed t' told) := by
    unfold Supervisor.turn? Supervisor.requestShutdown
    dsimp only
    rw [hserving]
    dsimp only
    unfold beginClose TableRun.perform TableOperation.run
    dsimp only
    rw [hclose, habsorb]
    rfl
  have hbackground : s.requestShutdown.run.background = s.requestShutdown.run :=
    Still.background_of_running (r := s.run) h.still h.running
  have hignored : ∀ x ∈ (s.closed t' told).run.queue, t'.Ignores x := by
    refine fun x hx => (htimeouts x hx).ignored (.inl ?_)
    rw [hopen]
    nofun
  unfold Supervisor.round
  rw [hbackground]
  refine (drain_of_turn hbegin).trans ((drain_of_ignored hignored (.inr rfl)).trans ?_)
  exact drain_of_idle (h.turn?_closed hopen)

namespace Resting

/-- A supervisor at rest that is told to shut down closes its table, and waits. -/
theorem requestShutdown (h : s.Resting) (hclose : s.run.table.close s.run.now = ⟨.ok ⟨⟩, t', [], told⟩)
    (hopen : t'.state = .closing) : s.requestShutdown.round = s.closed t' told := by
  have hround := requestShutdown_of_timeouts (by rwa [h.unqueued]) (by rw [h.queue]; nofun) hclose hopen
  rwa [h.unqueued] at hround

/-- It stops at once if there is no task to wait for. -/
theorem settle_unclaimed (h : s.Resting)
    (hclose : s.run.table.close s.run.now = ⟨.ok ⟨⟩, t', [], told⟩) (hunwinding : t'.Unwinding []) :
    s.requestShutdown.settle.Over := by
  have hclosed : (s.closed t' told).Unwinding [] :=
    ⟨rfl, h.listening, h.queue, congrArg (List.map (·.command)) h.inbox, hunwinding⟩
  have hover := hclosed.stops
  unfold Supervisor.settle
  rw [h.requestShutdown hclose hunwinding.closing, hover.round]
  exact hover

/-- Else it waits, until the tasks come back. -/
theorem settle_waiting (h : s.Resting)
    (hclose : s.run.table.close s.run.now = ⟨.ok ⟨⟩, t', [], told⟩) (hunwinding : t'.Unwinding tasks)
    (hopen : t'.finishClose = t') : s.requestShutdown.settle = s.closed t' told := by
  have hbackground : (s.closed t' told).run.background = (s.closed t' told).run := by
    have hsame := Still.background (r := (s.closed t' told).run) hunwinding.still
    rw [hsame]
    exact congrArg (fun table => { (s.closed t' told).run with table }) hopen
  have hround : (s.closed t' told).round = s.closed t' told := by
    unfold Supervisor.round
    rw [hbackground]
    exact drain_of_idle (h.turn?_closed hunwinding.closing)
  unfold Supervisor.settle
  rw [h.requestShutdown hclose hunwinding.closing, hround, hround]

/-- They come back when they have been told to fail. -/
theorem unwinding_post (h : s.Resting) (hunwinding : t'.Unwinding tasks) :
    (tasks.foldl (fun s task => s.post (Agent.unbindCommand task.execution)) (s.closed t' told)).Unwinding
      tasks := by
  obtain ⟨hrun, hphase, hinbox⟩ :=
    foldl_post (s := s.closed t' told) (fun task : Task => Agent.unbindCommand task.execution) tasks rfl
  refine ⟨hphase, ?_, ?_, hinbox.trans ?_, ?_⟩
  · rw [hrun]
    exact h.listening
  · rw [hrun]
    exact h.queue
  · have hnone : (s.closed t' told).inbox = [] := h.inbox
    rw [hnone]
    rfl
  · rw [hrun]
    exact hunwinding

end Resting

end Supervisor

namespace Agent

variable {a : Agent} {config : TableConfig} {ids : AgentIds} {k : Nat}

/-- The agent sees to the failed tasks once its supervisor has nothing to do. -/
theorem settle_supervisor (a : Agent) : a.settle.supervisor =
    ((a.supervisor.settle.run.failures.drop a.unbound).foldl
      (fun s failure => s.post (unbindCommand failure.task.execution)) a.supervisor.settle).settle := rfl

/-- When an agent that has claimed slots shuts down, its table is closed, and nothing is left of it. -/
theorem Resting.shutdown (h : a.Resting) (hclaimed : Claimed config ids k a.table) :
    a.shutdown.supervisor.Over := by
  have hclose : a.supervisor.run.table.close a.supervisor.run.now = _ := hclaimed.close _
  have hunwinding := hclaimed.unwinding
  have hwaiting := hclaimed.finishClose
  generalize a.table.claimedTasks ids = tasks at hclose hunwinding hwaiting
  unfold Agent.shutdown
  rw [settle_supervisor]
  dsimp only
  by_cases htasks : tasks = []
  · subst htasks
    have hover := (h.supervisor.settle_unclaimed hclose hunwinding).foldl_post
      (fun failure : TaskFailure => unbindCommand failure.task.execution)
      (a.supervisor.requestShutdown.settle.run.failures.drop a.unbound)
    rw [hover.settle]
    exact hover
  · have hopen := hwaiting htasks
    rw [h.supervisor.settle_waiting hclose hunwinding hopen, h.unbound]
    have hfailures : (a.supervisor.closed a.table.marked (tasks.map (⟨·, closeCause⟩))).run.failures =
        tasks.map (⟨·, closeCause⟩) := by
      show a.supervisor.run.failures ++ _ = _
      rw [h.failures]
      rfl
    rw [hfailures, List.drop_zero, List.foldl_map]
    refine (h.supervisor.unwinding_post hunwinding).settle ?_
    rw [(Supervisor.foldl_post (fun task : Task => unbindCommand task.execution) tasks rfl).1]
    exact hopen

/-- Timeouts that come late are ignored by an agent that shuts down, too. -/
theorem Resting.shutdown_straggle (h : a.Resting) (hclaimed : Claimed config ids k a.table)
    (late : List (AllocationId × Ticket)) : (a.straggle late).shutdown = (a.heard late).shutdown := by
  obtain ⟨hundisturbed, hrest, -⟩ := h.supervisor.straggle late
  obtain ⟨-, htable⟩ := h.heard late
  rw [← htable] at hclaimed
  have hclose := hclaimed.close (a.supervisor.straggle late).run.now
  have hopen : (a.heard late).table.marked.state = .closing := rfl
  refine settle_congr ?_ rfl
  exact (Supervisor.requestShutdown_of_timeouts hrest hundisturbed.timeouts hclose hopen).trans
    (hrest.requestShutdown hclose hopen).symm

end Agent

end WorkerSlots
