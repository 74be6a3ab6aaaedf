import WorkerSlots.Proofs.Runs

/-!
# Which tasks a table can find

A table lists a task with the slot that it was bound to last, and a slot refuses an execution that it
holds already. An execution that another slot holds is not refused: from then on it is listed with its
new slot, and the task in the first one cannot be found any more.

* `Holds` : what a live slot holds;
* `TaskChange` : what an event changes of the tasks;
* `Exact` : a task is listed with a slot iff the slot holds it;
* `Rebinds` : an event binds an execution that another slot holds;
* `Stray` : a task that a slot holds and that is not listed with it. It is held for good;
* `exact_iff_of_new` : a run leaves the list of the tasks exact iff nothing in it is such an event.
-/

namespace WorkerSlots

namespace SlotTable

/-- The live slot of an allocation holds a task under an execution. -/
def Holds (t : SlotTable) (a : AllocationId) (e : ExecutionId) (task : Task) : Prop :=
  ∃ s, t.slots.get? a = some s ∧ s.tasks.get? e = some task

/-- A task is listed with a slot iff the slot holds it. -/
def Exact (t : SlotTable) : Prop :=
  ∀ e a, t.taskOwners.get? e = some a ↔ ∃ task, t.Holds a e task

/-- A slot holds a task that is not listed with it. -/
def Stray (t : SlotTable) (a : AllocationId) (e : ExecutionId) (task : Task) : Prop :=
  t.Holds a e task ∧ t.taskOwners.get? e ≠ some a

/-- What an event changes of the tasks: nothing, or it binds one, or unbinds one where it is listed. -/
inductive TaskChange (t : SlotTable) (event : TableEvent) (t' : SlotTable) : Prop where
  | same (howners : t'.taskOwners = t.taskOwners)
      (hholds : ∀ a e task, t'.Holds a e task ↔ t.Holds a e task)
  | bind {task : Task} (hevent : event = .operation (.addTask task))
      (hok : (t.addTask task).result = .ok true)
      (hnew : ∀ old, ¬ t.Holds task.allocation task.execution old)
      (howners : t'.taskOwners = t.taskOwners.insert task.execution task.allocation)
      (hholds : ∀ a e old, t'.Holds a e old ↔
        (a = task.allocation ∧ e = task.execution ∧ old = task) ∨ t.Holds a e old)
  | unbind {x : ExecutionId} {owner : AllocationId} (hevent : event = .operation (.removeTask x))
      (howner : t.taskOwners.get? x = some owner) (howners : t'.taskOwners = t.taskOwners.erase x)
      (hholds : ∀ a e task, t'.Holds a e task ↔ t.Holds a e task ∧ ¬ (a = owner ∧ e = x))

section Changes

variable {t t' : SlotTable}

theorem holds_iff_of_live {a : AllocationId} {s : TaskSlot} (hlive : t.slots.get? a = some s)
    {e : ExecutionId} {task : Task} : t.Holds a e task ↔ s.tasks.get? e = some task := by
  unfold Holds
  constructor
  · rintro ⟨s', hs', htask⟩
    rw [hlive] at hs'
    obtain rfl := Option.some.inj hs'
    exact htask
  · exact fun htask => ⟨s, hlive, htask⟩

theorem holds_of_ne {a b : AllocationId} {s : TaskSlot} (hs : t'.slots = t.slots.insert a s)
    (hne : b ≠ a) {e : ExecutionId} {task : Task} : t'.Holds b e task ↔ t.Holds b e task := by
  unfold Holds
  rw [hs, SortedMap.get?_insert, if_neg hne]

theorem holds_of_eq {a : AllocationId} {s : TaskSlot} (hs : t'.slots = t.slots.insert a s)
    {e : ExecutionId} {task : Task} : t'.Holds a e task ↔ s.tasks.get? e = some task :=
  holds_iff_of_live (by rw [hs, SortedMap.get?_insert_self])

/-- Nothing changes of the tasks if nothing changes of the slots. -/
theorem TaskChange.congr {event : TableEvent} (hs : t'.slots = t.slots)
    (ho : t'.taskOwners = t.taskOwners) : TaskChange t event t' := by
  refine .same ho fun a e task => ?_
  unfold Holds
  rw [hs]

/-- Nor if a slot is replaced by another version that holds the same tasks. -/
theorem TaskChange.replace {event : TableEvent} {a : AllocationId} {s s' : TaskSlot}
    (hlive : t.slots.get? a = some s) (hs : t'.slots = t.slots.insert a s')
    (htasks : s'.tasks = s.tasks) (ho : t'.taskOwners = t.taskOwners) : TaskChange t event t' := by
  refine .same ho fun b e task => ?_
  by_cases hb : b = a
  · rw [hb, holds_of_eq hs, holds_iff_of_live hlive, htasks]
  · exact holds_of_ne hs hb

theorem TaskChange.insertSlot {event : TableEvent} {s : TaskSlot}
    (hfree : t.slots.get? s.allocation = none) (hempty : s.tasks = .empty)
    (hs : t'.slots = t.slots.insert s.allocation s) (ho : t'.taskOwners = t.taskOwners) :
    TaskChange t event t' := by
  refine .same ho fun b e task => ?_
  by_cases hb : b = s.allocation
  · rw [hb, holds_of_eq hs, hempty]
    refine iff_of_false nofun ?_
    rintro ⟨s', hs', -⟩
    rw [hfree] at hs'
    cases hs'
  · exact holds_of_ne hs hb

/-- Neither does a slot that leaves the table. -/
theorem TaskChange.retire {event : TableEvent} {a : AllocationId} {s : TaskSlot}
    (hlive : t.slots.get? a = some s) (hempty : s.isEmpty = true)
    (hs : t'.slots = t.slots.erase a) (ho : t'.taskOwners = t.taskOwners) :
    TaskChange t event t' := by
  refine .same ho fun b e task => ?_
  by_cases hb : b = a
  · rw [hb, holds_iff_of_live hlive, TaskSlot.isEmpty_iff.1 hempty e]
    refine iff_of_false ?_ nofun
    rintro ⟨s', hs', -⟩
    rw [hs, SortedMap.get?_erase_self] at hs'
    cases hs'
  · unfold Holds
    rw [hs, SortedMap.get?_erase, if_neg hb]

/-! ## What is accepted -/

/-- A running table accepts a task that is new to its active slot. -/
theorem addTask_of_bindable {s : TaskSlot} {task : Task} (hstate : t.state = .running)
    (hlive : t.slots.get? task.allocation = some s)
    (hactive : s.isActive task.job task.allocation = true)
    (hnew : s.tasks.get? task.execution = none) :
    t.addTask task = .answer
      { t with
        slots := t.slots.insert task.allocation
          { s with tasks := s.tasks.insert task.execution task }
        taskOwners := t.taskOwners.insert task.execution task.allocation } true := by
  have hcontains : s.tasks.contains task.execution = false := by
    unfold SortedMap.contains
    rw [hnew]
    rfl
  unfold addTask whenRunning
  rw [if_pos hstate, hlive]
  simp only [hactive, ↓reduceIte, TaskSlot.add_eq_of_isActive hactive, hcontains, Bool.false_eq_true]

theorem bindable_of_addTask {task : Task} (hok : (t.addTask task).result = .ok true) :
    t.state = .running ∧ ∃ s, t.slots.get? task.allocation = some s ∧
      s.isActive task.job task.allocation = true ∧ s.tasks.get? task.execution = none := by
  unfold addTask whenRunning at hok
  split at hok
  · rename_i hstate
    refine ⟨hstate, ?_⟩
    cases hlive : t.slots.get? task.allocation with
    | none =>
      rw [hlive] at hok
      cases hok
    | some s =>
      rw [hlive] at hok
      dsimp only at hok
      split at hok
      · rename_i hactive
        refine ⟨s, rfl, hactive, ?_⟩
        rw [TaskSlot.add_eq_of_isActive hactive] at hok
        cases hnew : s.tasks.get? task.execution with
        | none => rfl
        | some old =>
          have hcontains := SortedMap.contains_iff.2 ⟨old, hnew⟩
          rw [if_pos hcontains] at hok
          cases hok
      · cases hok
  · cases hok

/-- A task that is accepted is new to its slot, which holds it from then on. -/
theorem addTask_accepted {task : Task} (hok : (t.addTask task).result = .ok true) :
    TaskChange t (.operation (.addTask task)) (t.addTask task).table ∧
      (t.addTask task).table.taskOwners = t.taskOwners.insert task.execution task.allocation ∧
      (t.addTask task).table.Holds task.allocation task.execution task := by
  obtain ⟨hstate, s, hlive, hactive, hnew⟩ := bindable_of_addTask hok
  have heq := addTask_of_bindable hstate hlive hactive hnew
  have hslots : (t.addTask task).table.slots = t.slots.insert task.allocation
      { s with tasks := s.tasks.insert task.execution task } := by rw [heq]; rfl
  have howners : (t.addTask task).table.taskOwners =
      t.taskOwners.insert task.execution task.allocation := by rw [heq]; rfl
  have hnone : ∀ old, ¬ t.Holds task.allocation task.execution old := by
    intro old hold
    rw [holds_iff_of_live hlive, hnew] at hold
    cases hold
  refine ⟨.bind rfl hok hnone howners fun a e old => ?_, howners, ?_⟩
  · by_cases ha : a = task.allocation
    · rw [ha, holds_of_eq hslots, holds_iff_of_live hlive, SortedMap.get?_insert]
      by_cases he : e = task.execution
      · simp [he, hnew, eq_comm]
      · simp [he]
    · rw [holds_of_ne hslots ha]
      simp [ha]
  · rw [holds_of_eq hslots]
    exact SortedMap.get?_insert_self _ _ _

/-! ## Every change -/

variable {now : Nat} {e : TableEvent} {actions : List SlotAction} {failures : List TaskFailure}

/-- A task is unbound from the slot that it is listed with. -/
theorem TaskChange.remove {x : ExecutionId} {s s' : TaskSlot} {task : Task}
    (hlive : t.slots.get? s.allocation = some s) (howner : t.taskOwners.get? x = some s.allocation)
    (htask : s.remove? x = some (task, s')) (hs : t'.slots = t.slots.insert s.allocation s')
    (ho : t'.taskOwners = t.taskOwners.erase x) : TaskChange t (.operation (.removeTask x)) t' := by
  obtain ⟨-, rfl⟩ := TaskSlot.remove?_eq_some_iff.1 htask
  refine .unbind rfl howner ho fun a e old => ?_
  by_cases ha : a = s.allocation
  · rw [ha, holds_of_eq hs, holds_iff_of_live hlive, SortedMap.get?_erase]
    by_cases he : e = x
    · simp [he]
    · simp [he]
  · rw [holds_of_ne hs ha]
    simp [ha]

theorem Step.taskChange (h : Step now t e actions failures t') : TaskChange t e t' := by
  cases h with
  | grant hstate hfree hnext hbudget htimers hslot =>
    obtain ⟨-, -, -, -, hallocation, -, htasks⟩ := TaskSlot.new?_eq_some hslot
    rw [← hallocation] at hfree
    exact .insertSlot hfree htasks rfl rfl
  | activate _ hlive => exact .replace hlive rfl rfl rfl
  | deactivate hlive => exact .replace hlive rfl rfl rfl
  | deactivateUntimed hlive => exact .replace hlive rfl rfl rfl
  | retire hlive hempty => exact .retire hlive hempty rfl rfl
  | drain hlive => exact .replace hlive rfl (TaskSlot.close_tasks _ _ _) rfl
  | @bind s task hstate hlive hactive hjob hallocation hnew =>
    have hactive' := TaskSlot.isActive_iff.2 ⟨hactive, hjob.symm, hallocation.symm⟩
    obtain ⟨execution, job, a⟩ := task
    subst hallocation
    have heq := addTask_of_bindable hstate hlive hactive' hnew
    have hchange := (addTask_accepted (by rw [heq]; rfl)).1
    rw [heq] at hchange
    exact hchange
  | unbind hlive howner htask => exact .remove hlive howner htask rfl rfl
  | useLive hlive => exact .replace hlive rfl rfl rfl
  | start => exact .congr rfl rfl
  | notify => exact .congr rfl rfl
  | closeUnstarted => exact .congr rfl rfl
  | beginClose => exact .congr rfl rfl
  | awaitAll => exact .congr rfl rfl
  | expire => exact .congr rfl rfl
  | straggle => exact .congr rfl rfl
  | teardown => exact .congr rfl rfl
  | finish => exact .congr rfl rfl
  | useRetired => exact .congr rfl rfl
  | cancel => exact .congr rfl rfl

theorem TaskChange.then_closing {u : SlotTable} {p : TableEvent} (h : TaskChange t e u)
    (hp : p.IsOfClosing) (hclosing : TaskChange u p t') : TaskChange t e t' := by
  obtain ⟨howners, hholds⟩ : t'.taskOwners = u.taskOwners ∧
      ∀ a x task, t'.Holds a x task ↔ u.Holds a x task := by
    cases hclosing with
    | same howners hholds => exact ⟨howners, hholds⟩
    | bind hevent => rcases hp with hp | ⟨a, hp⟩ <;> rw [hevent] at hp <;> cases hp
    | unbind hevent => rcases hp with hp | ⟨a, hp⟩ <;> rw [hevent] at hp <;> cases hp
  cases h with
  | same ho hh => exact .same (howners.trans ho) fun a x task => (hholds a x task).trans (hh a x task)
  | bind hevent hok hnew ho hh =>
    exact .bind hevent hok hnew (howners.trans ho) fun a x task =>
      (hholds a x task).trans (hh a x task)
  | unbind hevent howner ho hh =>
    exact .unbind hevent howner (howners.trans ho) fun a x task =>
      (hholds a x task).trans (hh a x task)

end Changes

theorem taskChange_of_moves {r r' : TableRun} {e : TableEvent} (h : r.Moves e r') :
    TaskChange r.table e r'.table :=
  h.lift (fun _ _ => .congr rfl rfl) (fun hstep => hstep.taskChange)
    fun _ hp hu hv => hu.then_closing hp hv

/-! ## Strays -/

/-- An event binds an execution that another slot holds. -/
def Rebinds (t : SlotTable) (e : TableEvent) : Prop :=
  ∃ task a old, e = .operation (.addTask task) ∧ (t.addTask task).result = .ok true ∧
    a ≠ task.allocation ∧ t.Holds a task.execution old

section Strays

variable {t t' : SlotTable} {e : TableEvent} {a : AllocationId} {x : ExecutionId} {task : Task}

/-- A task stays where it is until its execution is unbound. -/
theorem TaskChange.holds (h : TaskChange t e t') (hholds : t.Holds a x task)
    (he : e ≠ .operation (.removeTask x)) : t'.Holds a x task := by
  cases h with
  | same _ hsame => exact (hsame a x task).2 hholds
  | bind _ _ _ _ hbind => exact (hbind a x task).2 (.inr hholds)
  | unbind hevent _ _ hunbind =>
    refine (hunbind a x task).2 ⟨hholds, ?_⟩
    rintro ⟨-, rfl⟩
    exact he hevent

/-- A stray stays one: its slot refuses the execution, and it is unbound elsewhere. -/
theorem TaskChange.stray (h : TaskChange t e t') (hstray : t.Stray a x task) :
    t'.Stray a x task := by
  obtain ⟨hholds, howner⟩ := hstray
  cases h with
  | same howners hsame =>
    refine ⟨(hsame a x task).2 hholds, ?_⟩
    rw [howners]
    exact howner
  | @bind task' _ _ hnew howners hbind =>
    refine ⟨(hbind a x task).2 (.inr hholds), ?_⟩
    rw [howners, SortedMap.get?_insert]
    split
    · rename_i hx
      intro ha
      rw [hx, ← Option.some.inj ha] at hholds
      exact hnew task hholds
    · exact howner
  | @unbind y owner _ hlisted howners hunbind =>
    refine ⟨(hunbind a x task).2 ⟨hholds, ?_⟩, ?_⟩
    · rintro ⟨rfl, rfl⟩
      exact howner hlisted
    · rw [howners, SortedMap.get?_erase]
      split
      · nofun
      · exact howner

/-- No other event than a rebinding makes a stray. -/
theorem TaskChange.stray_before (h : TaskChange t e t') (hstray : t'.Stray a x task)
    (he : ¬ t.Rebinds e) : t.Stray a x task := by
  obtain ⟨hholds, howner⟩ := hstray
  cases h with
  | same howners hsame =>
    rw [howners] at howner
    exact ⟨(hsame a x task).1 hholds, howner⟩
  | @bind task' hevent hok _ howners hbind =>
    rw [howners, SortedMap.get?_insert] at howner
    rcases (hbind a x task).1 hholds with ⟨rfl, rfl, -⟩ | hold
    · rw [if_pos rfl] at howner
      exact absurd rfl howner
    · by_cases hx : x = task'.execution
      · rw [if_pos hx] at howner
        have ha : a ≠ task'.allocation := fun ha => howner (by rw [ha])
        rw [hx] at hold
        exact absurd ⟨task', a, task, hevent, hok, ha, hold⟩ he
      · rw [if_neg hx] at howner
        exact ⟨hold, howner⟩
  | @unbind y owner _ hlisted howners hunbind =>
    obtain ⟨hold, hne⟩ := (hunbind a x task).1 hholds
    refine ⟨hold, fun ha => ?_⟩
    by_cases hx : x = y
    · rw [hx, hlisted] at ha
      exact hne ⟨(Option.some.inj ha).symm, hx⟩
    · rw [howners, SortedMap.get?_erase, if_neg hx] at howner
      exact howner ha

/-- Listed tasks are always held, so that only strays can be missing. -/
theorem TaskBooks.exact_iff (h : t.TaskBooks) : t.Exact ↔ ∀ a x task, ¬ t.Stray a x task := by
  constructor
  · rintro hexact a x task ⟨hholds, howner⟩
    exact howner ((hexact x a).2 ⟨task, hholds⟩)
  · intro hnone x a
    constructor
    · intro howner
      obtain ⟨s, task, hlive, htask⟩ := h.listed howner
      exact ⟨task, s, hlive, htask⟩
    · rintro ⟨task, hholds⟩
      by_cases howner : t.taskOwners.get? x = some a
      · exact howner
      · exact absurd ⟨hholds, howner⟩ (hnone a x task)

/-- The task that was bound first goes astray. -/
theorem stray_of_rebinding (hok : (t.addTask task).result = .ok true) {old : Task}
    (ha : a ≠ task.allocation) (hold : t.Holds a task.execution old) :
    (t.addTask task).table.Stray a task.execution old := by
  obtain ⟨hchange, howners, -⟩ := addTask_accepted hok
  refine ⟨hchange.holds hold (by simp), ?_⟩
  rw [howners, SortedMap.get?_insert_self]
  exact fun h => ha (Option.some.inj h).symm

/-! ## What can be found -/

/-- Every task that a slot holds is found and handed back, and held by no other slot. -/
def Reaches (t : SlotTable) : Prop :=
  ∀ a e task, t.Holds a e task → t.task? e = some task ∧ (t.removeTask e).result = .ok (some task) ∧
    ∀ b old, t.Holds b e old → b = a

theorem Sound.removeTask_result (h : t.Sound) (howner : t.taskOwners.get? x = some a)
    (hholds : t.Holds a x task) : (t.removeTask x).result = .ok (some task) := by
  obtain ⟨s, hlive, htask⟩ := hholds
  have hstarted : t.state.isStarted = true := decide_eq_true (h.not_created hlive)
  have hremove := TaskSlot.remove?_eq_some_iff.2 ⟨htask, rfl⟩
  unfold SlotTable.removeTask whenStarted
  rw [if_pos hstarted, howner]
  simp only [hlive, hremove]

theorem task?_of_holds (howner : t.taskOwners.get? x = some a) (hholds : t.Holds a x task) :
    t.task? x = some task := by
  obtain ⟨s, hlive, htask⟩ := hholds
  unfold task?
  rw [howner]
  dsimp only
  rw [hlive, Option.bind_some, htask]

theorem Sound.reaches (h : t.Sound) (hexact : t.Exact) : t.Reaches := by
  intro a x task hholds
  have howner := (hexact x a).2 ⟨task, hholds⟩
  refine ⟨task?_of_holds howner hholds, h.removeTask_result howner hholds, fun b old hold => ?_⟩
  have howner' := (hexact x b).2 ⟨old, hold⟩
  rw [howner] at howner'
  exact (Option.some.inj howner').symm

/-- A stray is neither found nor handed back, since every task belongs to the allocation whose slot
holds it. -/
theorem Sound.stray_lost (h : t.Sound) (hstray : t.Stray a x task) :
    t.task? x ≠ some task ∧ (t.removeTask x).result ≠ .ok (some task) := by
  obtain ⟨⟨s, hlive, htask⟩, howner⟩ := hstray
  have hown : task.allocation = a := by
    rw [(h.own hlive htask).2.2, h.keyed hlive]
  -- what is found under `x` belongs to the slot that `x` is listed with
  have hother : ∀ {b}, t.taskOwners.get? x = some b → ¬ t.Holds b x task := by
    rintro b hb ⟨s', hlive', htask'⟩
    rw [← (h.keyed hlive'), ← (h.own hlive' htask').2.2, hown] at hb
    exact howner hb
  cases hb : t.taskOwners.get? x with
  | none =>
    have hstarted : t.state.isStarted = true := decide_eq_true (h.not_created hlive)
    unfold task? SlotTable.removeTask whenStarted
    rw [if_pos hstarted, hb]
    exact ⟨nofun, nofun⟩
  | some b =>
    obtain ⟨s', old, hlive', hold⟩ := h.listed hb
    have hne : old ≠ task := fun heq => hother hb ⟨s', hlive', heq ▸ hold⟩
    rw [task?_of_holds hb ⟨s', hlive', hold⟩, h.removeTask_result hb ⟨s', hlive', hold⟩]
    simpa using hne

end Strays

/-! ## Runs -/

section Runs

variable {r : TableRun} {a : AllocationId} {x : ExecutionId} {task : Task}

theorem Sound.taskChange (h : r.table.Sound) (e : TableEvent) :
    TaskChange r.table e (r.after e).table :=
  taskChange_of_moves (TableRun.after_moves h e)

theorem Sound.stray_afterAll (h : r.table.Sound) (hstray : r.table.Stray a x task)
    (events : List TableEvent) : (r.afterAll events).table.Stray a x task :=
  (TableRun.afterAll_keeps (P := fun r => r.table.Sound ∧ r.table.Stray a x task)
    (fun _ e h => ⟨(h.1.after e).1, (h.1.taskChange e).stray h.2⟩) ⟨h, hstray⟩ events).2

/-- A task that is not unbound stays in its slot. -/
theorem Sound.holds_afterAll (h : r.table.Sound) (hholds : r.table.Holds a x task)
    {events : List TableEvent} (hkept : .operation (.removeTask x) ∉ events) :
    (r.afterAll events).table.Holds a x task := by
  induction events generalizing r with
  | nil => exact hholds
  | cons e rest ih =>
    have he : e ≠ .operation (.removeTask x) := fun he => hkept (he ▸ List.mem_cons_self)
    exact ih (h.after e).1 ((h.taskChange e).holds hholds he)
      fun hrest => hkept (List.mem_cons_of_mem _ hrest)

theorem Sound.no_stray_afterAll (h : r.table.Sound) (hnone : ∀ a x task, ¬ r.table.Stray a x task)
    {events : List TableEvent} (hevents : ∀ before e rest, events = before ++ e :: rest →
      ¬ (r.afterAll before).table.Rebinds e) (a : AllocationId) (x : ExecutionId) (task : Task) :
    ¬ (r.afterAll events).table.Stray a x task := by
  induction events generalizing r with
  | nil => exact hnone a x task
  | cons e rest ih =>
    refine ih (h.after e).1 (fun b y old hstray => ?_) fun before e' rest' heq => ?_
    · exact hnone b y old ((h.taskChange e).stray_before hstray (hevents [] e rest rfl))
    · refine hevents (e :: before) e' rest' ?_
      rw [heq, List.cons_append]

/-- After a rebinding there is a stray for good. -/
theorem Sound.stray_of_rebinding (h : r.table.Sound) {old : Task}
    (hok : (r.table.addTask task).result = .ok true) (ha : a ≠ task.allocation)
    (hold : r.table.Holds a task.execution old) (rest : List TableEvent) :
    (r.afterAll (.operation (.addTask task) :: rest)).table.Stray a task.execution old := by
  have hstray : (r.after (.operation (.addTask task))).table.Stray a task.execution old :=
    SlotTable.stray_of_rebinding hok ha hold
  exact (h.after _).1.stray_afterAll hstray rest

end Runs

variable {config : TableConfig} {timers : Timers AllocationId} {table : SlotTable}

theorem not_holds_of_new (h : new config timers = .ok table) (a : AllocationId) (x : ExecutionId)
    (task : Task) : ¬ table.Holds a x task := by
  rintro ⟨s, hlive, -⟩
  have hstate := (of_new h).1
  rw [(Sound.new h).1.fresh hstate] at hlive
  cases hlive

/-- The tasks are listed exactly iff no execution has been bound while another slot held it. As long as
they are, every task is found and handed back, from the time it is accepted until it is unbound. An
execution that is bound while another slot holds it takes the task in that slot out of reach: it is held
for good, and neither found nor handed back. -/
theorem exact_iff_of_new (hnew : new config timers = .ok table) (listening : Bool)
    (events : List TableEvent) :
    let run := (TableRun.new table listening).afterAll
    ((run events).table.Exact ↔ ∀ before e rest, events = before ++ e :: rest →
      ¬ (run before).table.Rebinds e) ∧
    ((run events).table.Exact → (run events).table.Reaches) ∧
    (∀ before task rest, events = before ++ .operation (.addTask task) :: rest →
      ((run before).table.addTask task).result = .ok true →
      ((run events).table.Exact → .operation (.removeTask task.execution) ∉ rest →
        (run events).table.task? task.execution = some task) ∧
      ∀ a old, a ≠ task.allocation → (run before).table.Holds a task.execution old →
        (run events).table.Holds a task.execution old ∧
        (run events).table.task? task.execution ≠ some old ∧
        ((run events).table.removeTask task.execution).result ≠ .ok (some old)) := by
  intro run
  have hsound : ∀ before, (run before).table.Sound := fun before =>
    (Sound.ofNew hnew listening before).1
  have hsplit : ∀ before e rest, run (before ++ e :: rest) = (run before).afterAll (e :: rest) :=
    fun before e rest => TableRun.afterAll_append _ before (e :: rest)
  have hexact := (hsound events).exact_iff
  refine ⟨⟨fun h before e rest heq => ?_, fun h => ?_⟩, (hsound events).reaches,
    fun before task rest heq hok => ⟨fun h hkept => ?_, fun a old ha hold => ?_⟩⟩
  · rintro ⟨task, a, old, rfl, hok, ha, hold⟩
    have hstray := (hsound before).stray_of_rebinding hok ha hold rest
    rw [← hsplit, ← heq] at hstray
    exact hexact.1 h _ _ _ hstray
  · exact hexact.2 ((Sound.new hnew).1.no_stray_afterAll (r := .new table listening)
      (fun a x task hstray => not_holds_of_new hnew a x task hstray.1) h)
  · have hbound := (addTask_accepted hok).2.2
    have hheld := ((hsound before).after _).1.holds_afterAll
      (r := (run before).after (.operation (.addTask task))) hbound hkept
    rw [heq, hsplit] at h ⊢
    exact task?_of_holds ((h _ _).2 ⟨task, hheld⟩) hheld
  · have hstray := (hsound before).stray_of_rebinding hok ha hold rest
    rw [← hsplit, ← heq] at hstray
    exact ⟨hstray.1, (hsound events).stray_lost hstray⟩

/-- An execution is bound in one slot and then in another, and unbound. -/
def boundTwice : List TableEvent :=
  [.operation .start, .operation (.allocate ⟨.fixed 0, ⟨0⟩, ⟨1⟩, none, 5⟩),
    .operation (.allocate ⟨.fixed 1, ⟨0⟩, ⟨2⟩, none, 5⟩), .operation (.markActive ⟨1⟩),
    .operation (.markActive ⟨2⟩), .operation (.addTask ⟨⟨7⟩, ⟨0⟩, ⟨1⟩⟩),
    .operation (.addTask ⟨⟨7⟩, ⟨0⟩, ⟨2⟩⟩), .operation (.removeTask ⟨7⟩)]

theorem exact_iff_of_new_boundTwice :
    ∃ table, new (.evenlyDivided 2 TableConfig.standardProfile) (.new 0) = .ok table ∧
      let t := ((TableRun.new table true).afterAll boundTwice).table
      ¬ t.Exact ∧ t.Holds ⟨1⟩ ⟨7⟩ ⟨⟨7⟩, ⟨0⟩, ⟨1⟩⟩ ∧ t.task? ⟨7⟩ ≠ some ⟨⟨7⟩, ⟨0⟩, ⟨1⟩⟩ := by
  refine ⟨_, rfl, ?_⟩
  have hnew : new (.evenlyDivided 2 TableConfig.standardProfile) (.new 0) = .ok _ := rfl
  obtain ⟨hexact, -, haccepted⟩ := exact_iff_of_new hnew true boundTwice
  have hheld := (haccepted (boundTwice.take 6) ⟨⟨7⟩, ⟨0⟩, ⟨2⟩⟩ [_] rfl rfl).2 ⟨1⟩
    ⟨⟨7⟩, ⟨0⟩, ⟨1⟩⟩ (by decide) ⟨_, rfl, rfl⟩
  refine ⟨fun h => ?_, hheld.1, hheld.2.1⟩
  exact hexact.1 h (boundTwice.take 6) _ [_] rfl
    ⟨⟨⟨7⟩, ⟨0⟩, ⟨2⟩⟩, ⟨1⟩, ⟨⟨7⟩, ⟨0⟩, ⟨1⟩⟩, rfl, rfl, by decide, _, rfl, rfl⟩

end SlotTable

end WorkerSlots
