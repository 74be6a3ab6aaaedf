import WorkerSlots.Proofs.Closing
import WorkerSlots.Proofs.Indices

/-!
# Freeing what was granted

* `free_of_empty`, `free_of_busy` : what freeing a live slot comes to, with or without tasks;
* `Freed` : the same to whoever frees it (`Sound.freed`);
* `withoutAllocation_insert`, `close_isClosed` : what granting a slot puts into the books is taken out again, and
  a slot that nobody has used is closed at once;
* `Restored` : a table after a slot was granted and freed again (`Books.restored_of_grant`, `Sound.restored`);
* `freed_of_new` : all of this in every run.
-/

namespace WorkerSlots

open SlotTable TableRun

/-- A slot without tasks, of whose memory nothing is used, is closed as soon as it is asked back. -/
theorem TaskSlot.close_isClosed {s : TaskSlot} (hempty : s.isEmpty = true) (hidle : s.teardown = .idle)
    (hunused : s.memory.isUnused = true) (now : Nat) (cause : String) : (s.close now cause).1.isClosed = true := by
  rw [close_eq, hempty, hidle]
  simp [tearDown, isClosed, hunused]

/-- Nobody has used a slot just granted. -/
theorem TaskSlot.unused_of_new? {grant : Nat} {index : SlotIndex} {profile : ResourceProfile}
    {pageSize graceMs : UInt64} {job : JobId} {allocation : AllocationId} {s : TaskSlot}
    (h : new? grant index profile pageSize job allocation graceMs = some s) :
    s.isEmpty = true ∧ s.teardown = .idle ∧ s.memory.isUnused = true := by
  obtain ⟨memory, hmemory, rfl⟩ := Option.map_eq_some_iff.1 h
  refine ⟨rfl, rfl, ?_⟩
  unfold ManagedMemory.new? at hmemory
  split at hmemory
  · cases hmemory
  · obtain rfl := Option.some.inj hmemory
    rfl

namespace SlotTable

variable {t t' : SlotTable} {s : TaskSlot} {a : AllocationId} {request : SlotRequest} {i : SlotIndex}

/-! ## Freeing a live slot -/

theorem free_of_empty {as : SortedMap AllocationId PUnit} {budget : ResourceBudget}
    (hstarted : t.state.isStarted = true) (hlive : t.slots.get? a = some s) (hempty : s.isEmpty = true)
    (hjob : t.jobSlots.get? s.job = some as) (hbudget : t.budget.release? s.profile = some budget)
    (now : Nat) (cause : String) :
    t.free now a cause =
      { result := .ok ⟨s.index, .released, s.grant⟩
        table :=
          { t with
            timers := t.timers.unregister s.allocation
            budget
            slots := t.slots.erase s.allocation
            indices := t.indices.erase s.index
            jobSlots := withoutAllocation t.jobSlots s.job s.allocation as
            retired := t.retired.insert s.grant (s.close now cause).1 }
        failures := (s.close now cause).2 } := by
  unfold SlotTable.free whenStarted
  rw [if_pos hstarted, release_eq_afterRetire now hlive hempty hjob hbudget]
  rfl

theorem free_of_busy (hstarted : t.state.isStarted = true) (hlive : t.slots.get? a = some s)
    (hbusy : s.isEmpty = false) (now : Nat) (cause : String) :
    t.free now a cause =
      { result := .ok ⟨s.index, .draining, s.grant⟩
        table := { t with slots := t.slots.insert s.allocation (s.close now cause).1 }
        failures := (s.close now cause).2 } := by
  unfold SlotTable.free whenStarted
  rw [if_pos hstarted, release_eq_afterDrain now hlive hbusy]
  rfl

/-- Freeing the slot of an allocation has some result: a slot without tasks has left the table. One with tasks
drains: it is there, at its index and with its job, and holds what it held. -/
structure Freed (t : SlotTable) (a : AllocationId) (s : TaskSlot) (result : Except TableError FreedSlot)
    (t' : SlotTable) : Prop where
  result : result = .ok ⟨s.index, if s.isEmpty then .released else .draining, s.grant⟩
  leaves : s.isEmpty = true → t'.slot? a = none
  stays : s.isEmpty = false → t'.slot? a = some { s with state := .releasing }
  indices : s.isEmpty = false → t'.indices = t.indices
  jobs : s.isEmpty = false → t'.jobSlots = t.jobSlots
  budget : s.isEmpty = false → t'.budget = t.budget

theorem Sound.freed (h : t.Sound) (hlive : t.slots.get? a = some s) (now : Nat) (cause : String) :
    Freed t a s (t.free now a cause).result (t.free now a cause).table := by
  have hstarted : t.state.isStarted = true := decide_eq_true (h.not_created hlive)
  have hasked := h.free_live now hlive cause
  cases hempty : s.isEmpty with
  | true =>
    obtain ⟨as, hjob⟩ := h.exists_jobSlots hlive
    obtain ⟨budget, hbudget⟩ := h.exists_release? hlive
    have heq := free_of_empty hstarted hlive hempty hjob hbudget now cause
    refine ⟨?_, fun _ => (hasked.leaves hempty).1, ?_, ?_, ?_, ?_⟩
    · rw [heq, hempty]
      rfl
    all_goals intro hbusy; rw [hempty] at hbusy; cases hbusy
  | false =>
    have heq := free_of_busy hstarted hlive hempty now cause
    refine ⟨?_, ?_, fun _ => hasked.stays hempty, fun _ => ?_, fun _ => ?_, fun _ => ?_⟩
    · rw [heq, hempty]
      rfl
    · intro hnone
      rw [hempty] at hnone
      cases hnone
    all_goals rw [heq]

/-! ## Freeing a slot just granted -/

/-- An allocation that is put into the books of a job and taken out again leaves them as they were. -/
theorem withoutAllocation_insert {jobSlots : SortedMap JobId (SortedMap AllocationId PUnit)} {job : JobId}
    (hnew : ∀ as, jobSlots.get? job = some as → as.get? a = none)
    (hoccupied : ∀ as, jobSlots.get? job = some as → as.isEmpty = false) :
    let as := ((jobSlots.get? job).getD .empty).insert a ⟨⟩
    withoutAllocation (jobSlots.insert job as) job a as = jobSlots := by
  intro as
  refine SortedMap.ext_get? fun j => ?_
  rw [get?_withoutAllocation, SortedMap.get?_insert]
  by_cases hj : j = job
  · subst hj
    rw [if_pos rfl]
    cases hjob : jobSlots.get? j with
    | none =>
      have has : as.erase a = .empty := by
        show (((jobSlots.get? j).getD .empty).insert a ⟨⟩).erase a = _
        rw [hjob]
        exact SortedMap.erase_insert_of_none rfl _
      rw [has]
      rfl
    | some as₀ =>
      have has : as.erase a = as₀ := by
        show (((jobSlots.get? j).getD .empty).insert a ⟨⟩).erase a = _
        rw [hjob]
        exact SortedMap.erase_insert_of_none (hnew as₀ hjob) _
      rw [has, hoccupied as₀ hjob]
      rfl
  · rw [if_neg hj, if_neg hj]

/-- A table is as another one was, except that a slot has been granted at an index and has left since: a dynamic
index is not granted again. -/
structure Restored (t : SlotTable) (i : SlotIndex) (t' : SlotTable) : Prop where
  state : t'.state = t.state
  slots : t'.slots = t.slots
  indices : t'.indices = t.indices
  jobs : t'.jobSlots = t.jobSlots
  tasks : t'.taskOwners = t.taskOwners
  reserved : t'.budget.reserved = t.budget.reserved
  available : t'.budget.available = t.budget.available
  registrations : t'.timers.registrations = t.timers.registrations
  static : t.isDynamicIndex i = false → t'.nextDynamic = t.nextDynamic
  dynamic : t.isDynamicIndex i = true → t'.nextDynamic.toNat = i.toNat + 1

/-- A slot that has just been granted, and has been given a timeout, is released and closed at once. -/
theorem Books.restored_of_grant (h : t.Books) {next : SlotIndex} {budget : ResourceBudget}
    {timers : Timers AllocationId} {registration : Registration} (hstate : t.state = .running)
    (hfree : t.slots.get? s.allocation = none) (hreg : t.registration? s.allocation = none)
    (hnext : t.nextDynamicAfter s.index = .ok next) (hbudget : t.budget.reserve? s.profile = some budget)
    (hregs : timers.registrations = t.timers.registrations.insert s.allocation registration)
    (hunused : s.isEmpty = true ∧ s.teardown = .idle ∧ s.memory.isUnused = true) (now : Nat) (cause : String) :
    let freed := SlotTable.free { t.insertSlot s with budget, timers, nextDynamic := next } now s.allocation cause
    freed.result = .ok ⟨s.index, .released, s.grant⟩ ∧ freed.table.isGrantClosed s.grant = true ∧
      Restored t s.index freed.table := by
  intro freed
  obtain ⟨hempty, hidle, hmemory⟩ := hunused
  obtain ⟨hfreeIndex, hcounter⟩ := nextDynamicAfter_eq_ok hnext
  have hjob : ∀ as, t.jobSlots.get? s.job = some as → as.get? s.allocation = none := by
    intro as has
    cases hmem : as.get? s.allocation with
    | none => rfl
    | some u =>
      -- the job would have a slot of the allocation
      obtain ⟨x, hx, -⟩ := h.jobs.1 (mem_jobAllocations_iff.2 ⟨as, u, has, hmem⟩)
      rw [hfree] at hx
      cases hx
  have heq : freed = _ := free_of_empty (decide_eq_true (by show t.state ≠ .created; rw [hstate]; nofun))
    (SortedMap.get?_insert_self _ _ _) hempty (SortedMap.get?_insert_self _ _ _)
    (ResourceBudget.release?_of_reserve? hbudget) now cause
  rw [heq]
  refine ⟨rfl, ?_, ⟨rfl, ?_, ?_, ?_, rfl, rfl, rfl, ?_, fun hi => ?_, fun hi => ?_⟩⟩
  · exact isGrantClosed_iff.2 ⟨_, SortedMap.get?_insert_self _ _ _,
      TaskSlot.close_isClosed hempty hidle hmemory now cause⟩
  · exact SortedMap.erase_insert_of_none hfree s
  · exact SortedMap.erase_insert_of_none hfreeIndex _
  · exact withoutAllocation_insert hjob fun as has => h.occupied has
  · show timers.registrations.erase s.allocation = _
    rw [hregs]
    exact SortedMap.erase_insert_of_none hreg _
  all_goals unfold isDynamicIndex at hi
  · obtain ⟨-, hsame⟩ | ⟨hdynamic, -⟩ := hcounter
    · exact hsame
    · simp [hdynamic] at hi
  · obtain ⟨hstatic, -⟩ | ⟨-, -, hsucc⟩ := hcounter
    · simp [UInt64.not_le.2 hstatic] at hi
    · exact hsucc

theorem Sound.restored (h : t.Sound) {now now' : Nat} (hfree : t.slots.get? request.allocation = none)
    (hreg : t.registration? request.allocation = none)
    (hok : (t.allocate now request).result = .ok i) (cause : String) :
    let freed := (t.allocate now request).table.free now' request.allocation cause
    ∃ grant, freed.result = .ok ⟨i, .released, grant⟩ ∧ freed.table.isGrantClosed grant = true ∧
      Restored t i freed.table := by
  have hcases := h.allocate_cases now request
  generalize t.allocate now request = reply at hcases hok ⊢
  cases hcases with
  | known hlive =>
    rw [hfree] at hlive
    cases hlive
  | other | unavailable | refused => cases hok
  | @granted next budget ticket timers s hstate _ hnext hbudget htimers hslot =>
    obtain rfl : s.index = i := Except.ok.inj hok
    obtain ⟨-, -, -, -, hallocation, -⟩ := TaskSlot.new?_eq_some hslot
    have hregs := congrArg Timers.registrations (Timers.register_eq_ok htimers)
    rw [← hallocation] at hfree hreg hregs ⊢
    exact ⟨s.grant, h.restored_of_grant hstate hfree hreg hnext hbudget hregs (TaskSlot.unused_of_new? hslot)
      now' cause⟩

end SlotTable

namespace TableRun

/-! ## Every run -/

/-- In every run of a table, freeing a live slot releases it if it has no task, and drains it otherwise. If the
slot has just been granted, it is released and closed at once, and the table is as it was before the grant. -/
theorem freed_of_new {config : TableConfig} {timers : Timers AllocationId} {table : SlotTable}
    (hnew : SlotTable.new config timers = .ok table)
    (hunused : timers.started = false → timers.registrations = .empty) (listening : Bool)
    (events : List TableEvent) :
    let r := (TableRun.new table listening).afterAll events
    (∀ a s cause, r.table.slot? a = some s →
      Freed r.table a s (r.perform (.free a cause)).1 (r.perform (.free a cause)).2.table) ∧
    ∀ request i ms cause, r.table.slot? request.allocation = none →
      (r.perform (.allocate request)).1 = .ok i →
        let granted := (r.perform (.allocate request)).2.after (.happening (.tick ms))
        let freed := granted.perform (.free request.allocation cause)
        ∃ grant, freed.1 = .ok ⟨i, .released, grant⟩ ∧ freed.2.table.isGrantClosed grant = true ∧
          Restored r.table i freed.2.table := by
  intro r
  have hsound : r.table.Sound := (Sound.ofNew hnew listening events).1
  refine ⟨fun a s cause hs => hsound.freed hs r.now cause, fun request i ms cause hfree hok => ?_⟩
  have hrunning : r.table.state = .running := by
    by_cases hstate : r.table.state = .running
    · exact hstate
    · have hresult : (r.table.allocate r.now request).result = .ok i := hok
      rw [allocate_of_not_running r.now hstate] at hresult
      cases hresult
  have hreg : r.table.registration? request.allocation = none := by
    cases hreg : r.table.registration? request.allocation with
    | none => rfl
    | some reg =>
      -- a registered timeout would be that of a live slot
      have hnone : ∀ a, (TableRun.new table listening).table.registration? a = none :=
        registration?_eq_none_of_running hnew hunused hrunning
      obtain ⟨s, hs, -⟩ := (standing_of_registration (Sound.new hnew).1 hnone hreg).exists_slot
      exact absurd (hfree.symm.trans hs) nofun
  exact hsound.restored hfree hreg hok cause

/-- A job has a slot with a task, and is granted another one, at a dynamic index. Freeing both, the first drains
and the second is released. -/
theorem freed_of_new_dynamic : ∃ table,
    SlotTable.new (.evenlyDivided 2 TableConfig.standardProfile) (.new 0) = .ok table ∧
    let r := (TableRun.new table true).afterAll
      [.operation .start, .operation (.allocate ⟨.fixed 0, ⟨0⟩, ⟨1⟩, none, 5⟩), .operation (.markActive ⟨1⟩),
        .operation (.addTask ⟨⟨7⟩, ⟨0⟩, ⟨1⟩⟩)]
    let request : SlotRequest := ⟨.dynamic, ⟨0⟩, ⟨2⟩, none, 5⟩
    let freed := ((r.perform (.allocate request)).2.after (.happening (.tick 3))).perform (.free ⟨2⟩ "")
    (r.perform (.free ⟨1⟩ "")).1 = .ok ⟨0, .draining, 0⟩ ∧ (r.perform (.allocate request)).1 = .ok 2 ∧
      ∃ grant, freed.1 = .ok ⟨2, .released, grant⟩ ∧ freed.2.table.isGrantClosed grant = true ∧
        Restored r.table 2 freed.2.table := by
  have hnew : SlotTable.new (.evenlyDivided 2 TableConfig.standardProfile) (.new 0) = .ok _ := rfl
  refine ⟨_, hnew, ?_⟩
  intro r request freed
  obtain ⟨hfreed, hrestored⟩ := freed_of_new hnew (fun _ => rfl) true
    [.operation .start, .operation (.allocate ⟨.fixed 0, ⟨0⟩, ⟨1⟩, none, 5⟩), .operation (.markActive ⟨1⟩),
      .operation (.addTask ⟨⟨7⟩, ⟨0⟩, ⟨1⟩⟩)]
  have hok : (r.perform (.allocate request)).1 = .ok 2 := by decide +kernel
  obtain ⟨s, hs, hstatus⟩ : ∃ s, r.table.slot? ⟨1⟩ = some s ∧
      (⟨s.index, if s.isEmpty then .released else .draining, s.grant⟩ : FreedSlot) = ⟨0, .draining, 0⟩ :=
    ⟨_, rfl, by decide⟩
  refine ⟨?_, hok, hrestored request 2 3 "" (by decide +kernel) hok⟩
  rw [← hstatus]
  exact (hfreed ⟨1⟩ s "" hs).result

end TableRun

end WorkerSlots
