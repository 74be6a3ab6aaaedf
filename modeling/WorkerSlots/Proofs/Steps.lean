import WorkerSlots.Proofs.Books
import WorkerSlots.Proofs.Events

/-!
# What can be done to a table

* `Step` : one change of a table, by the event that causes it: with its conditions, what the owner
  is asked to do, the tasks told to fail, and the table after it;
* `Steps` : changes one after the other;
* `Sound.step` : a change keeps a table sound;
* `Steps.keeps` : what one change keeps, a sequence of changes keeps.
-/

namespace WorkerSlots

namespace SlotTable

/-- One change of a table at a time `now`, by an event. -/
inductive Step (now : Nat) (t : SlotTable) :
    TableEvent → List SlotAction → List TaskFailure → SlotTable → Prop where
  | start {timers : Timers AllocationId} (hstate : t.state = .created)
      (htimers : t.timers.start = .ok timers) :
      Step now t (.operation .start) [] [] { t with timers, bound := true, state := .running }
  | grant {request : SlotRequest} {next : SlotIndex} {budget : ResourceBudget} {ticket : Ticket}
      {timers : Timers AllocationId} {s : TaskSlot} (hstate : t.state = .running)
      (hfree : t.slots.get? request.allocation = none)
      (hnext : t.nextDynamicAfter (t.requestedIndex request.index) = .ok next)
      (hbudget : t.budget.reserve? (t.requestedProfile request) = some budget)
      (htimers : t.timers.register now request.allocation request.timeoutMs = .ok (ticket, timers))
      (hslot : TaskSlot.new? t.grants (t.requestedIndex request.index) (t.requestedProfile request)
        t.config.memoryPageSize request.job request.allocation t.config.memoryReleaseGraceMs =
          some s) :
      Step now t (.operation (.allocate request)) [] []
        { t.insertSlot s with budget, timers, nextDynamic := next }
  | activate {e : TableEvent} {s : TaskSlot}
      (he : e = .operation (.markActive s.allocation) ∨
        ∃ job, e = .operation (.tryMarkActive job s.allocation))
      (hlive : t.slots.get? s.allocation = some s) (hallocated : s.state = .allocated) :
      Step now t e [] []
        { t with
          slots := t.slots.insert s.allocation { s with state := .active }
          timers := t.timers.unregister s.allocation }
  | deactivate {s : TaskSlot} {timeoutMs : UInt64} {ticket : Ticket}
      {timers : Timers AllocationId} (hlive : t.slots.get? s.allocation = some s)
      (hactive : s.state = .active)
      (htimers : t.timers.register now s.allocation timeoutMs = .ok (ticket, timers)) :
      Step now t (.operation (.markInactive s.allocation timeoutMs)) [] []
        { t with slots := t.slots.insert s.allocation { s with state := .allocated }, timers }
  | deactivateUntimed {s : TaskSlot} {timeoutMs : UInt64} {error : TimerError}
      (hlive : t.slots.get? s.allocation = some s) (hactive : s.state = .active)
      (htimers : t.timers.register now s.allocation timeoutMs = .error error) :
      Step now t (.operation (.markInactive s.allocation timeoutMs)) [] []
        { t with slots := t.slots.insert s.allocation { s with state := .allocated } }
  | retire {s : TaskSlot} {cause : String} {as : SortedMap AllocationId PUnit}
      {budget : ResourceBudget} (hlive : t.slots.get? s.allocation = some s)
      (hempty : s.isEmpty = true) (hjob : t.jobSlots.get? s.job = some as)
      (hbudget : t.budget.release? s.profile = some budget) :
      Step now t (.operation (.free s.allocation cause)) [] (s.close now cause).2
        { t with
          timers := t.timers.unregister s.allocation
          budget
          slots := t.slots.erase s.allocation
          indices := t.indices.erase s.index
          jobSlots := withoutAllocation t.jobSlots s.job s.allocation as
          retired := t.retired.insert s.grant (s.close now cause).1 }
  | drain {s : TaskSlot} {cause : String} (hlive : t.slots.get? s.allocation = some s)
      (hbusy : s.isEmpty = false) :
      Step now t (.operation (.free s.allocation cause)) [] (s.close now cause).2
        { t with slots := t.slots.insert s.allocation (s.close now cause).1 }
  | bind {s : TaskSlot} {task : Task} (hstate : t.state = .running)
      (hlive : t.slots.get? s.allocation = some s) (hactive : s.state = .active)
      (hjob : task.job = s.job) (hallocation : task.allocation = s.allocation)
      (hnew : s.tasks.get? task.execution = none) :
      Step now t (.operation (.addTask task)) [] []
        { t with
          slots := t.slots.insert s.allocation
            { s with tasks := s.tasks.insert task.execution task }
          taskOwners := t.taskOwners.insert task.execution s.allocation }
  | unbind {s s' : TaskSlot} {execution : ExecutionId} {task : Task}
      (hlive : t.slots.get? s.allocation = some s)
      (howner : t.taskOwners.get? execution = some s.allocation)
      (htask : s.remove? execution = some (task, s')) :
      Step now t (.operation (.removeTask execution))
        (if s'.isReleasing && s'.isEmpty && t.bound then [.free s.allocation] else []) []
        { t with
          slots := t.slots.insert s.allocation s'
          taskOwners := t.taskOwners.erase execution }
  | notify {a : AllocationId} {ticket : Ticket} :
      Step now t (.operation (.notifyTimeout a ticket)) (t.timeoutActions [(a, ticket)]) [] t
  | closeUnstarted (hstate : t.state = .created) :
      Step now t (.operation .close) [] [] { t with state := .closed }
  | beginClose (hstate : t.state = .running) :
      Step now t (.operation .close) [] [] { t with state := .closing }
  | awaitAll {grants : List Nat} (hstate : t.state = .closing) :
      Step now t (.operation .close) [] [] { t with awaited := grants }
  | expire {a : AllocationId} {ticket : Ticket} {timers : Timers AllocationId}
      (htimers : t.timers.deliver? now a = some (ticket, timers)) :
      Step now t (.happening (.expiry a)) (t.timeoutActions [(a, ticket)]) [] { t with timers }
  | straggle {a : AllocationId} {ticket : Ticket} (hpast : t.timers.isPast ticket = true) :
      Step now t (.happening (.straggler a ticket)) (t.timeoutActions [(a, ticket)]) [] t
  | teardown {grant : Nat} {s : TaskSlot} (hretired : t.retired.get? grant = some s) :
      Step now t (.happening (.teardown grant)) [] []
        { t with retired := t.retired.insert grant (s.settle now) }
  | finish (hstate : t.state = .closing) (hall : t.awaited.all t.isGrantClosed = true) :
      Step now t (.happening .finish) [] [] { t with state := .closed, timers := t.timers.cancel }
  | useLive {s : TaskSlot} {use : MemoryUse} (hlive : t.slots.get? s.allocation = some s) :
      Step now t (.happening (.memory s.grant use)) [] []
        { t with slots := t.slots.insert s.allocation { s with memory := use.run s.memory } }
  | useRetired {grant : Nat} {s : TaskSlot} {use : MemoryUse}
      (hretired : t.retired.get? grant = some s) :
      Step now t (.happening (.memory grant use)) [] []
        { t with retired := t.retired.insert grant { s with memory := use.run s.memory } }
  | cancel : Step now t (.happening .cancel) [] [] t.cancelTimers

/-- Changes one after the other, by the events that cause them. -/
inductive Steps (now : Nat) : SlotTable → List TableEvent → List SlotAction → List TaskFailure →
    SlotTable → Prop where
  | nil (t : SlotTable) : Steps now t [] [] [] t
  | cons {t u v : SlotTable} {e : TableEvent} {es : List TableEvent} {actions actions' : List SlotAction}
      {failures failures' : List TaskFailure} (h : Step now t e actions failures u)
      (hs : Steps now u es actions' failures' v) :
      Steps now t (e :: es) (actions ++ actions') (failures ++ failures') v

/-! ## Changes keep a table sound -/

variable {t t' : SlotTable} {now : Nat} {e : TableEvent} {actions : List SlotAction}
  {failures : List TaskFailure}

theorem free_of_nextDynamicAfter {index next : SlotIndex}
    (h : t.nextDynamicAfter index = .ok next) : t.indices.get? index = none := by
  unfold nextDynamicAfter at h
  split at h
  · cases h
  · assumption

theorem Step.config (h : Step now t e actions failures t') : t'.config = t.config := by
  cases h <;> rfl

/-- A table that has slots is not one just created. -/
theorem Sound.not_created (h : t.Sound) {a : AllocationId} {s : TaskSlot}
    (hlive : t.slots.get? a = some s) : t.state ≠ .created := by
  intro hstate
  rw [h.fresh hstate a] at hlive
  cases hlive

theorem Sound.step (h : t.Sound) (hstep : Step now t e actions failures t') : t'.Sound := by
  have hb := h.toBooks
  have hk := h.toTaskBooks
  have hfresh : ∀ {P : Prop} {a s}, t.slots.get? a = some s → t.state = .created → P :=
    fun hlive hs => absurd hs (h.not_created hlive)
  cases hstep with
  | start =>
    exact ⟨hb.congr rfl rfl rfl rfl rfl, hk.congr rfl rfl, nofun, fun _ => rfl, h.paged⟩
  | grant hstate hfree hnext hbudget htimers hslot =>
    obtain ⟨-, hindex, hprofile, -, hallocation, -, htasks⟩ := TaskSlot.new?_eq_some hslot
    rw [← hallocation] at hfree
    rw [← hprofile] at hbudget
    have hfreeIndex := free_of_nextDynamicAfter hnext
    rw [← hindex] at hfreeIndex
    exact ⟨hb.insertSlot hfree hfreeIndex hbudget rfl rfl rfl rfl rfl,
      hk.insertSlot hfree htasks rfl rfl, fun hs => absurd (hstate.symm.trans hs) nofun,
      h.bound, h.paged⟩
  | activate _ hlive =>
    exact ⟨hb.replace hlive (.state _ _) rfl rfl rfl rfl rfl,
      hk.replace hlive (.state _ _) rfl rfl rfl, hfresh hlive, h.bound, h.paged⟩
  | deactivate hlive =>
    exact ⟨hb.replace hlive (.state _ _) rfl rfl rfl rfl rfl,
      hk.replace hlive (.state _ _) rfl rfl rfl, hfresh hlive, h.bound, h.paged⟩
  | deactivateUntimed hlive =>
    exact ⟨hb.replace hlive (.state _ _) rfl rfl rfl rfl rfl,
      hk.replace hlive (.state _ _) rfl rfl rfl, hfresh hlive, h.bound, h.paged⟩
  | retire hlive hempty hjob hbudget =>
    exact ⟨hb.retire hlive hjob hbudget rfl rfl rfl rfl rfl,
      hk.retire hlive hempty rfl rfl, hfresh hlive, h.bound, h.paged⟩
  | drain hlive =>
    exact ⟨hb.replace hlive (.close _ _ _) rfl rfl rfl rfl rfl,
      hk.replace hlive (.close _ _ _) rfl (TaskSlot.close_tasks _ _ _) rfl, hfresh hlive,
      h.bound, h.paged⟩
  | bind hstate hlive hactive hjob hallocation hnew =>
    exact ⟨hb.replace hlive (.tasks _ _) rfl rfl rfl rfl rfl,
      hk.bind hlive hjob hallocation rfl rfl, hfresh hlive, h.bound, h.paged⟩
  | unbind hlive howner htask =>
    obtain ⟨-, rfl⟩ := TaskSlot.remove?_eq_some_iff.1 htask
    exact ⟨hb.replace hlive (.tasks _ _) rfl rfl rfl rfl rfl,
      hk.unbind hlive rfl rfl, hfresh hlive, h.bound, h.paged⟩
  | notify => exact h
  | closeUnstarted =>
    exact ⟨hb.congr rfl rfl rfl rfl rfl, hk.congr rfl rfl, nofun, nofun, h.paged⟩
  | beginClose =>
    exact ⟨hb.congr rfl rfl rfl rfl rfl, hk.congr rfl rfl, nofun, nofun, h.paged⟩
  | awaitAll =>
    exact ⟨hb.congr rfl rfl rfl rfl rfl, hk.congr rfl rfl, h.fresh, h.bound, h.paged⟩
  | expire =>
    exact ⟨hb.congr rfl rfl rfl rfl rfl, hk.congr rfl rfl, h.fresh, h.bound, h.paged⟩
  | straggle => exact h
  | teardown =>
    exact ⟨hb.congr rfl rfl rfl rfl rfl, hk.congr rfl rfl, h.fresh, h.bound, h.paged⟩
  | finish =>
    exact ⟨hb.congr rfl rfl rfl rfl rfl, hk.congr rfl rfl, nofun, nofun, h.paged⟩
  | useLive hlive =>
    exact ⟨hb.replace hlive (.memory _ _) rfl rfl rfl rfl rfl,
      hk.replace hlive (.memory _ _) rfl rfl rfl, hfresh hlive, h.bound, h.paged⟩
  | useRetired =>
    exact ⟨hb.congr rfl rfl rfl rfl rfl, hk.congr rfl rfl, h.fresh, h.bound, h.paged⟩
  | cancel =>
    exact ⟨hb.congr rfl rfl rfl rfl rfl, hk.congr rfl rfl, h.fresh, h.bound, h.paged⟩

/-! ## Sequences of changes -/

variable {es : List TableEvent}

theorem Steps.single (h : Step now t e actions failures t') : Steps now t [e] actions failures t' := by
  have := Steps.cons h (.nil t')
  simpa using this

theorem Steps.append {u : SlotTable} {es' : List TableEvent} {actions' : List SlotAction}
    {failures' : List TaskFailure} (h : Steps now t es actions failures t')
    (h' : Steps now t' es' actions' failures' u) :
    Steps now t (es ++ es') (actions ++ actions') (failures ++ failures') u := by
  induction h with
  | nil t => exact h'
  | cons hstep _ ih =>
    rw [List.append_assoc, List.append_assoc]
    exact .cons hstep (ih h')

/-- What one change keeps, a sequence of changes keeps. -/
theorem Steps.keeps {P : SlotTable → Prop} (h : Steps now t es actions failures t')
    (hstep : ∀ {t u e actions failures}, e ∈ es → Step now t e actions failures u → P t → P u)
    (hP : P t) : P t' := by
  induction h with
  | nil => exact hP
  | cons h _ ih =>
    exact ih (fun he => hstep (List.mem_cons_of_mem _ he)) (hstep List.mem_cons_self h hP)

end SlotTable

end WorkerSlots
