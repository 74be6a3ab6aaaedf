import WorkerSlots.Proofs.Steps

/-!
# Operations as changes

Whatever is done to a sound table comes to the changes of `SlotTable.Step`, and breaks no rule of the
table's books.

* `TableEvent.Parts` : what an event consists of. Closing a table frees its slots; every other event
  is one change at most;
* `Reply.Follows` : a reply to an event is a sequence of its parts, and no fault;
* `grant_of_exhausted`, ..., `Sound.allocate_of_next` : what a request for a slot comes to, case by case;
* `Sound.allocate`, ..., `Sound.closeInOrder` : one lemma for each operation;
* `Sound.run` : all of them.
-/

namespace WorkerSlots

open SlotTable

/-- One part of closing a table. -/
def TableEvent.IsOfClosing (e : TableEvent) : Prop :=
  e = .operation .close ∨ ∃ allocation, e = .operation (.free allocation closeCause)

/-- The events that close a table. -/
def TableEvent.Closes (e : TableEvent) : Prop :=
  e = .operation .close ∨ ∃ order, e = .closing order

/-- What an event may consist of. -/
inductive TableEvent.Parts : TableEvent → List TableEvent → Prop where
  | none (e : TableEvent) : Parts e []
  | self (e : TableEvent) : Parts e [e]
  | close {parts : List TableEvent} (h : ∀ p ∈ parts, p.IsOfClosing) :
      Parts (.operation .close) parts
  | closing {order : List AllocationId} {parts : List TableEvent} (h : ∀ p ∈ parts, p.IsOfClosing) :
      Parts (.closing order) parts

/-- The reply to an event is a sequence of its parts, and no fault. -/
structure Reply.Follows {α : Type} (reply : Reply α) (now : Nat) (t : SlotTable) (e : TableEvent) :
    Prop where
  changes : ∃ parts, e.Parts parts ∧ Steps now t parts reply.actions reply.failures reply.table
  intact : ∀ fault, reply.result ≠ .error (.broken fault)

/-- What every change does and closing can do step by step, every event does. -/
theorem SlotTable.Steps.lift {R : SlotTable → TableEvent → List SlotAction → SlotTable → Prop}
    {now : Nat} {t t' : SlotTable} {e : TableEvent} {parts : List TableEvent}
    {actions : List SlotAction} {failures : List TaskFailure}
    (h : Steps now t parts actions failures t') (hparts : e.Parts parts)
    (hnone : ∀ t e, R t e [] t)
    (hstep : ∀ {t e actions failures t'}, Step now t e actions failures t' → R t e actions t')
    (hclosing : ∀ {t u v e p as bs}, e.Closes → p.IsOfClosing → R t e as u → R u p bs v →
      R t e (as ++ bs) v) : R t e actions t' := by
  have hclose : e.Closes → (∀ p ∈ parts, p.IsOfClosing) → R t e actions t' := by
    intro he hall
    clear hparts
    suffices hsuff : ∀ {t₀ as}, R t₀ e as t → R t₀ e (as ++ actions) t' by
      exact hsuff (hnone t e)
    induction h with
    | nil t =>
      intro t₀ as h₀
      rw [List.append_nil]
      exact h₀
    | cons hfirst _ ih =>
      intro t₀ as h₀
      rw [← List.append_assoc]
      refine ih (fun p hp => hall p (List.mem_cons_of_mem _ hp)) ?_
      exact hclosing he (hall _ List.mem_cons_self) h₀ (hstep hfirst)
  cases hparts with
  | none =>
    cases h
    exact hnone t e
  | self =>
    cases h with
    | cons hfirst hrest =>
      cases hrest
      rw [List.append_nil]
      exact hstep hfirst
  | close hparts => exact hclose (.inl rfl) hparts
  | closing hparts => exact hclose (.inr ⟨_, rfl⟩) hparts

namespace Reply.Follows

variable {α : Type} {reply : Reply α} {now : Nat} {t : SlotTable} {e : TableEvent}

theorem answer (a : α) : (Reply.answer t a).Follows now t e :=
  ⟨⟨[], .none e, .nil t⟩, nofun⟩

theorem refuse {error : TableError} (h : ∀ fault, error ≠ .broken fault) :
    (Reply.refuse (α := α) t error).Follows now t e :=
  ⟨⟨[], .none e, .nil t⟩, fun fault hf => h fault (Except.error.inj hf)⟩

theorem step (hstep : Step now t e reply.actions reply.failures reply.table)
    (h : ∀ fault, reply.result ≠ .error (.broken fault)) : reply.Follows now t e :=
  ⟨⟨[e], .self e, .single hstep⟩, h⟩

theorem whenRunning (h : t.state = .running → reply.Follows now t e) :
    (t.whenRunning reply).Follows now t e := by
  unfold SlotTable.whenRunning
  split
  · rename_i hstate
    exact h hstate
  · exact refuse nofun

theorem whenStarted (h : t.state.isStarted = true → reply.Follows now t e) :
    (t.whenStarted reply).Follows now t e := by
  unfold SlotTable.whenStarted
  split
  · rename_i hstate
    exact h hstate
  · exact refuse nofun

end Reply.Follows

namespace SlotTable

variable {t : SlotTable} (now : Nat)

/-! ## One lemma for each operation -/

theorem start_follows (t : SlotTable) : t.start.Follows now t (.operation .start) := by
  unfold start
  by_cases hstate : t.state = .created
  · rw [if_neg (not_not_intro hstate)]
    cases htimers : t.timers.start with
    | error e => exact .refuse nofun
    | ok timers => exact .step (.start hstate htimers) nofun
  · rw [if_pos hstate]
    exact .refuse nofun

section Requests

variable {request : SlotRequest} {index next : SlotIndex} {budget : ResourceBudget}

theorem grant_of_exhausted (hbudget : t.budget.reserve? (t.requestedProfile request) = none) :
    t.grant now request index next = .refuse t
      (.resourceExhausted (t.requestedProfile request) t.budget.available t.budget.total) := by
  unfold SlotTable.grant
  simp only [hbudget]

/-- What was reserved is given back, and the table is the same again. -/
theorem grant_of_untimed {e : TimerError}
    (hbudget : t.budget.reserve? (t.requestedProfile request) = some budget)
    (htimers : t.timers.register now request.allocation request.timeoutMs = .error e) :
    t.grant now request index next = .refuse t (.timer e) := by
  unfold SlotTable.grant
  simp only [hbudget, htimers, ResourceBudget.release?_of_reserve? hbudget]

/-- There is always a page size. -/
theorem Sound.exists_grant (h : t.Sound) {ticket : Ticket} {timers : Timers AllocationId}
    (hbudget : t.budget.reserve? (t.requestedProfile request) = some budget)
    (htimers : t.timers.register now request.allocation request.timeoutMs = .ok (ticket, timers)) :
    ∃ s, TaskSlot.new? t.grants index (t.requestedProfile request) t.config.memoryPageSize request.job
        request.allocation t.config.memoryReleaseGraceMs = some s ∧
      t.grant now request index next =
        .answer { t.insertSlot s with budget, timers, nextDynamic := next } index := by
  obtain ⟨s, hslot⟩ := TaskSlot.exists_new? t.grants index (t.requestedProfile request) request.job
    request.allocation t.config.memoryReleaseGraceMs h.paged
  refine ⟨s, hslot, ?_⟩
  unfold SlotTable.grant
  simp only [hbudget, htimers, hslot]

theorem Sound.grant (h : t.Sound) (hstate : t.state = .running)
    (hfree : t.slots.get? request.allocation = none)
    (hnext : t.nextDynamicAfter (t.requestedIndex request.index) = .ok next) :
    (t.grant now request (t.requestedIndex request.index) next).Follows now t
      (.operation (.allocate request)) := by
  cases hbudget : t.budget.reserve? (t.requestedProfile request) with
  | none =>
    rw [grant_of_exhausted now hbudget]
    exact .refuse nofun
  | some budget =>
    cases htimers : t.timers.register now request.allocation request.timeoutMs with
    | error e =>
      rw [grant_of_untimed now hbudget htimers]
      exact .refuse nofun
    | ok registered =>
      obtain ⟨s, hslot, heq⟩ := h.exists_grant now hbudget htimers
      rw [heq]
      exact .step (.grant hstate hfree hnext hbudget htimers hslot) nofun

theorem allocate_of_not_running (hstate : t.state ≠ .running) :
    t.allocate now request = .refuse t (.illegalState (.notRunning t.state)) := by
  unfold SlotTable.allocate whenRunning
  rw [if_neg hstate]

theorem Sound.allocate_of_live (h : t.Sound) (hstate : t.state = .running) {s : TaskSlot}
    (hlive : t.slots.get? request.allocation = some s) :
    t.allocate now request =
      if t.isAsRequested s request then .answer t s.index
      else .refuse t (.allocationConflict
        (.grantedOtherwise s.allocation s.profile s.job s.index)) := by
  unfold SlotTable.allocate whenRunning
  simp only [hstate, h.bound hstate, hlive, Bool.not_true, Bool.false_eq_true, ↓reduceIte]

theorem Sound.allocate_of_conflict (h : t.Sound) (hstate : t.state = .running)
    (hfree : t.slots.get? request.allocation = none) {conflict : Conflict}
    (hnext : t.nextDynamicAfter (t.requestedIndex request.index) = .error conflict) :
    t.allocate now request = .refuse t (.allocationConflict conflict) := by
  unfold SlotTable.allocate whenRunning
  simp only [hstate, h.bound hstate, hfree, hnext, Bool.not_true, Bool.false_eq_true, ↓reduceIte]

/-- An allocation that has no slot is granted one, if there is no conflict at the index. -/
theorem Sound.allocate_of_next (h : t.Sound) (hstate : t.state = .running)
    (hfree : t.slots.get? request.allocation = none)
    (hnext : t.nextDynamicAfter (t.requestedIndex request.index) = .ok next) :
    t.allocate now request = t.grant now request (t.requestedIndex request.index) next := by
  unfold SlotTable.allocate whenRunning
  simp only [hstate, h.bound hstate, hfree, hnext, Bool.not_true, Bool.false_eq_true, ↓reduceIte]

end Requests

theorem Sound.allocate (h : t.Sound) (request : SlotRequest) :
    (t.allocate now request).Follows now t (.operation (.allocate request)) := by
  by_cases hstate : t.state = .running
  · cases hfree : t.slots.get? request.allocation with
    | some s =>
      rw [h.allocate_of_live now hstate hfree]
      split
      · exact .answer _
      · exact .refuse nofun
    | none =>
      cases hnext : t.nextDynamicAfter (t.requestedIndex request.index) with
      | error conflict =>
        rw [h.allocate_of_conflict now hstate hfree hnext]
        exact .refuse nofun
      | ok next =>
        rw [h.allocate_of_next now hstate hfree hnext]
        exact h.grant now hstate hfree hnext
  · rw [allocate_of_not_running now hstate]
    exact .refuse nofun

theorem Books.activate (h : t.Books) {a : AllocationId} {s : TaskSlot} {e : TableEvent}
    (hlive : t.slots.get? a = some s)
    (he : e = .operation (.markActive a) ∨ ∃ job, e = .operation (.tryMarkActive job a)) :
    (t.activate s).Follows now t e := by
  obtain rfl := h.keyed hlive
  unfold SlotTable.activate TaskSlot.activate?
  by_cases hallocated : s.state = .allocated
  · rw [if_pos hallocated]
    exact .step (.activate he hlive hallocated) nofun
  · rw [if_neg hallocated]
    exact .answer _

theorem Sound.markActive (h : t.Sound) (a : AllocationId) :
    (t.markActive a).Follows now t (.operation (.markActive a)) := by
  unfold SlotTable.markActive
  refine .whenRunning fun _ => ?_
  cases hlive : t.slots.get? a with
  | none => exact .refuse nofun
  | some s => exact h.activate now hlive (.inl rfl)

theorem Sound.tryMarkActive (h : t.Sound) (job : JobId) (a : AllocationId) :
    (t.tryMarkActive job a).Follows now t (.operation (.tryMarkActive job a)) := by
  unfold SlotTable.tryMarkActive
  cases hlive : t.slots.get? a with
  | none => exact .answer _
  | some s =>
    by_cases howned : s.isAllocated job a = true
    · simp only [howned, ↓reduceIte]
      exact h.activate now hlive (.inr ⟨job, rfl⟩)
    · simp only [howned]
      exact .answer _

theorem Sound.markInactive (h : t.Sound) (a : AllocationId) (timeoutMs : UInt64) :
    (t.markInactive now a timeoutMs).Follows now t (.operation (.markInactive a timeoutMs)) := by
  unfold SlotTable.markInactive
  refine .whenStarted fun _ => ?_
  cases hlive : t.slots.get? a with
  | none => exact .refuse nofun
  | some s =>
    obtain rfl := h.keyed hlive
    by_cases hactive : s.state = .active
    · have hinactive : s.deactivate? = some { s with state := .allocated } := if_pos hactive
      simp only [hinactive]
      cases htimers : t.timers.register now s.allocation timeoutMs with
      | error error =>
        exact .step (.deactivateUntimed hlive hactive htimers) fun _ h => by cases h
      | ok registered =>
        obtain ⟨ticket, timers⟩ := registered
        exact .step (.deactivate hlive hactive htimers) fun _ h => by cases h
    · have hnone : s.deactivate? = none := if_neg hactive
      simp only [hnone]
      exact .answer _

/-- The slot of an allocation is asked back. Its tasks are told to fail unless it was to be given back before;
without tasks it leaves the table. Every other slot is left alone. -/
structure AskedBack (t : SlotTable) (a : AllocationId) (s : TaskSlot) (cause : String)
    (failures : List TaskFailure) (t' : SlotTable) : Prop where
  failures : failures = if s.state = .releasing then [] else s.tasks.values.map (⟨·, cause⟩)
  leaves : s.isEmpty = true →
    t'.slots.get? a = none ∧ ∃ s', t'.retired.get? s.grant = some s' ∧ s.SameGrant s'
  stays : s.isEmpty = false → t'.slots.get? a = some { s with state := .releasing }
  others : ∀ b ≠ a, t'.slots.get? b = t.slots.get? b

/-- A slot that is left after it was asked back is to be given back, and has tasks. -/
theorem AskedBack.of_live {a : AllocationId} {s s' : TaskSlot} {cause : String}
    {failures : List TaskFailure} (h : AskedBack t a s cause failures t') (hs : t'.slots.get? a = some s') :
    s'.state = .releasing ∧ s'.isEmpty = false := by
  cases hempty : s.isEmpty with
  | true =>
    rw [(h.leaves hempty).1] at hs
    cases hs
  | false =>
    rw [h.stays hempty] at hs
    obtain rfl := Option.some.inj hs
    exact ⟨rfl, hempty⟩

/-- The table that a slot without tasks has left. -/
def afterRetire (t : SlotTable) (now : Nat) (s : TaskSlot) (cause : String) (budget : ResourceBudget)
    (as : SortedMap AllocationId PUnit) : SlotTable :=
  { t with
    timers := t.timers.unregister s.allocation
    budget
    slots := t.slots.erase s.allocation
    indices := t.indices.erase s.index
    jobSlots := withoutAllocation t.jobSlots s.job s.allocation as
    retired := t.retired.insert s.grant (s.close now cause).1 }

/-- The table in which a slot with tasks has been asked back. -/
def afterDrain (t : SlotTable) (now : Nat) (s : TaskSlot) (cause : String) : SlotTable :=
  { t with slots := t.slots.insert s.allocation (s.close now cause).1 }

theorem release_of_none {a : AllocationId} (hnone : t.slots.get? a = none) (cause : String) :
    t.release now a cause = .refuse t (.allocationNotFound a) := by
  unfold SlotTable.release
  rw [hnone]

theorem release_eq_afterRetire {a : AllocationId} {s : TaskSlot} {budget : ResourceBudget}
    {as : SortedMap AllocationId PUnit} (hlive : t.slots.get? a = some s) (hempty : s.isEmpty = true)
    (hjob : t.jobSlots.get? s.job = some as) (hbudget : t.budget.release? s.profile = some budget)
    (cause : String) :
    t.release now a cause = ⟨.ok ⟨s.index, .released, s.grant⟩, t.afterRetire now s cause budget as, [],
      (s.close now cause).2⟩ := by
  unfold SlotTable.release retire
  simp only [hlive, hempty, hjob, hbudget, ↓reduceIte]
  rfl

theorem release_eq_afterDrain {a : AllocationId} {s : TaskSlot} (hlive : t.slots.get? a = some s)
    (hbusy : s.isEmpty = false) (cause : String) :
    t.release now a cause = ⟨.ok ⟨s.index, .draining, s.grant⟩, t.afterDrain now s cause, [],
      (s.close now cause).2⟩ := by
  unfold SlotTable.release drain
  simp only [hlive, hbusy, Bool.false_eq_true, ↓reduceIte]
  rfl

/-- A live slot can be freed. -/
theorem Sound.release_live (h : t.Sound) {a : AllocationId} {s : TaskSlot}
    (hlive : t.slots.get? a = some s) (cause : String) :
    ∃ freed failures t', t.release now a cause = ⟨.ok freed, t', [], failures⟩ ∧
      Step now t (.operation (.free a cause)) [] failures t' ∧ freed.grant = s.grant ∧
      AskedBack t a s cause failures t' := by
  obtain rfl := h.keyed hlive
  cases hempty : s.isEmpty with
  | true =>
    obtain ⟨as, hjob⟩ := h.exists_jobSlots hlive
    obtain ⟨budget, hbudget⟩ := h.exists_release? hlive
    refine ⟨_, _, _, release_eq_afterRetire now hlive hempty hjob hbudget cause,
      .retire hlive hempty hjob hbudget, rfl, TaskSlot.close_failures s now cause,
      fun _ => ⟨?_, _, ?_, .close s now cause⟩, fun hbusy => ?_, fun b hb => ?_⟩
    · exact SortedMap.get?_erase_self _ _
    · exact SortedMap.get?_insert_self _ _ _
    · rw [hempty] at hbusy
      cases hbusy
    · unfold afterRetire
      rw [SortedMap.get?_erase, if_neg hb]
  | false =>
    refine ⟨_, _, _, release_eq_afterDrain now hlive hempty cause, .drain hlive hempty, rfl,
      TaskSlot.close_failures s now cause, fun h => ?_, fun _ => ?_, fun b hb => ?_⟩
    · rw [hempty] at h
      cases h
    · unfold afterDrain
      rw [SortedMap.get?_insert_self, TaskSlot.close_eq, hempty]
      rfl
    · unfold afterDrain
      rw [SortedMap.get?_insert, if_neg hb]

theorem Sound.release (h : t.Sound) (a : AllocationId) (cause : String) :
    (t.release now a cause).Follows now t (.operation (.free a cause)) := by
  cases hlive : t.slots.get? a with
  | none =>
    rw [release_of_none now hlive]
    exact .refuse nofun
  | some s =>
    obtain ⟨freed, failures, t', heq, hstep, -, -⟩ := h.release_live now hlive cause
    rw [heq]
    exact .step hstep nofun

theorem Sound.free (h : t.Sound) (a : AllocationId) (cause : String) :
    (t.free now a cause).Follows now t (.operation (.free a cause)) :=
  .whenStarted fun _ => h.release now a cause

/-- Only what is in a started table can be freed. -/
theorem Sound.free_live (h : t.Sound) {a : AllocationId} {s : TaskSlot}
    (hlive : t.slots.get? a = some s) (cause : String) :
    AskedBack t a s cause (t.free now a cause).failures (t.free now a cause).table := by
  obtain ⟨freed, failures, t', heq, -, -, hasked⟩ := h.release_live now hlive cause
  have hstarted : t.state.isStarted = true := decide_eq_true (h.not_created hlive)
  unfold SlotTable.free SlotTable.whenStarted
  rw [if_pos hstarted, heq]
  exact hasked

theorem free_none {a : AllocationId} (hnone : t.slots.get? a = none) (cause : String) :
    (t.free now a cause).table = t ∧ (t.free now a cause).failures = [] := by
  unfold SlotTable.free SlotTable.whenStarted
  rw [release_of_none now hnone]
  split <;> exact ⟨rfl, rfl⟩

/-- A slot that is left after it was freed is to be given back, and has tasks. -/
theorem Sound.free_state (h : t.Sound) {a : AllocationId} {cause : String} {s : TaskSlot}
    (hs : (t.free now a cause).table.slots.get? a = some s) :
    s.state = .releasing ∧ s.isEmpty = false := by
  cases hlive : t.slots.get? a with
  | none =>
    rw [(free_none now hlive cause).1, hlive] at hs
    cases hs
  | some s₀ => exact (h.free_live now hlive cause).of_live hs

theorem addTask_follows (t : SlotTable) (task : Task) :
    (t.addTask task).Follows now t (.operation (.addTask task)) := by
  unfold addTask
  refine .whenRunning fun hstate => ?_
  cases hlive : t.slots.get? task.allocation with
  | none => exact .refuse nofun
  | some s =>
    by_cases hactive : s.isActive task.job task.allocation = true
    · obtain ⟨hstate', hjob, hallocation⟩ := TaskSlot.isActive_iff.1 hactive
      simp only [hactive, ↓reduceIte, TaskSlot.add_eq_of_isActive hactive]
      by_cases hknown : s.tasks.contains task.execution = true
      · simp only [hknown, ↓reduceIte]
        exact .answer _
      · have hnew : s.tasks.get? task.execution = none := by
          simpa [SortedMap.contains] using hknown
        simp only [hknown, ← hallocation]
        rw [← hallocation] at hlive
        exact .step (.bind hstate hlive hstate' hjob.symm hallocation.symm hnew) fun _ h => by cases h
    · simp only [hactive]
      exact .refuse fun _ h => by cases h

theorem Sound.removeTask (h : t.Sound) (execution : ExecutionId) :
    (t.removeTask execution).Follows now t (.operation (.removeTask execution)) := by
  unfold SlotTable.removeTask
  refine .whenStarted fun _ => ?_
  cases howner : t.taskOwners.get? execution with
  | none => exact .answer _
  | some a =>
    obtain ⟨s, task, hlive, htask⟩ := h.listed howner
    obtain rfl := h.keyed hlive
    have hremove := TaskSlot.remove?_eq_some_iff.2 ⟨htask, rfl⟩
    simp only [hlive, hremove]
    exact .step (.unbind hlive howner hremove) fun _ h => by cases h

theorem notifyTimeout_follows (t : SlotTable) (a : AllocationId) (ticket : Ticket) :
    (t.notifyTimeout a ticket).Follows now t (.operation (.notifyTimeout a ticket)) :=
  .whenStarted fun _ => .step .notify nofun

/-! ## Closing -/

/-- Freeing a slot leaves the state of the table as it is. -/
theorem Step.state_of_free {t' : SlotTable} {a : AllocationId} {cause : String}
    {actions : List SlotAction} {failures : List TaskFailure}
    (h : Step now t (.operation (.free a cause)) actions failures t') : t'.state = t.state := by
  cases h with
  | activate he => rcases he with he | ⟨_, he⟩ <;> cases he
  | retire => rfl
  | drain => rfl

/-- The first slot is freed, and then the others. -/
theorem releaseAll_cons {a : AllocationId} {freed : FreedSlot} {u : SlotTable} {failures : List TaskFailure}
    (h : t.release now a closeCause = ⟨.ok freed, u, [], failures⟩) (rest : List AllocationId) :
    releaseAll now (a :: rest) t =
      { SlotTable.releaseAll now rest u with
        result := (SlotTable.releaseAll now rest u).result.map (freed :: ·)
        failures := failures ++ (SlotTable.releaseAll now rest u).failures } := by
  show ((t.release now a closeCause).andThen fun freed t =>
    (SlotTable.releaseAll now rest t).map (freed :: ·)) = _
  rw [h]
  rfl

/-- Live slots can all be freed, one after the other: each leaves the table or is marked, its grant is
named, and no other slot changes. -/
theorem Sound.releaseAll {order : List AllocationId} (h : t.Sound) (hnodup : order.Nodup)
    (hlive : ∀ a ∈ order, ∃ s, t.slots.get? a = some s) :
    ∃ freed failures t', releaseAll now order t = ⟨.ok freed, t', [], failures⟩ ∧
      Steps now t (order.map fun a => .operation (.free a closeCause)) [] failures t' ∧
      (∀ a ∈ order, ∀ s, t.slots.get? a = some s → s.grant ∈ freed.map (·.grant)) ∧
      (∀ a ∈ order, ∀ s', t'.slots.get? a = some s' → s'.state = .releasing) ∧
      ∀ b ∉ order, t'.slots.get? b = t.slots.get? b := by
  induction order generalizing t with
  | nil => exact ⟨[], [], t, rfl, .nil t, nofun, nofun, fun _ _ => rfl⟩
  | cons a rest ih =>
    obtain ⟨ha, hrest⟩ := List.nodup_cons.1 hnodup
    obtain ⟨s, hs⟩ := hlive a List.mem_cons_self
    obtain ⟨freed, failures, u, hfreed, hstep, hgrant, hasked⟩ := h.release_live now hs closeCause
    have hsame : ∀ b ∈ rest, u.slots.get? b = t.slots.get? b := fun b hb =>
      hasked.others b (ne_of_mem_of_not_mem hb ha)
    have hlive' : ∀ b ∈ rest, ∃ s, u.slots.get? b = some s := fun b hb => by
      rw [hsame b hb]
      exact hlive b (List.mem_cons_of_mem _ hb)
    obtain ⟨freed', failures', t', heq, hsteps, hnamed, hmarked', hothers'⟩ :=
      ih (h.step hstep) hrest hlive'
    refine ⟨freed :: freed', failures ++ failures', t', ?_, .cons hstep hsteps, fun b hb x hx => ?_,
      fun b hb x hx => ?_, fun b hb => ?_⟩
    · rw [releaseAll_cons now hfreed, heq]
      rfl
    · rw [List.map_cons, List.mem_cons]
      obtain rfl | hb := List.mem_cons.1 hb
      · rw [hs] at hx
        obtain rfl := Option.some.inj hx
        exact .inl hgrant.symm
      · exact .inr (hnamed b hb x ((hsame b hb).trans hx))
    · obtain rfl | hb := List.mem_cons.1 hb
      · rw [hothers' b ha] at hx
        exact (hasked.of_live hx).1
      · exact hmarked' b hb x hx
    · rw [List.mem_cons, not_or] at hb
      rw [hothers' b hb.2, hasked.others b hb.1]

/-- A running table closes: all slots that are left are marked, and all that were there are awaited. -/
theorem Sound.closeInOrder_running {order : List AllocationId} (h : t.Sound)
    (horder : order.Perm t.slots.keys) (hstate : t.state = .running) :
    ∃ grants failures u, t.closeInOrder now order = ⟨.ok ⟨⟩, { u with awaited := grants }, [], failures⟩ ∧
      Steps now { t with state := .closing } (order.map fun a => .operation (.free a closeCause)) []
        failures u ∧ u.state = .closing ∧
      (∀ a s, t.slots.get? a = some s → s.grant ∈ grants) ∧
      ∀ a s', u.slots.get? a = some s' → s'.state = .releasing := by
  have hbegin : Step now t (.operation .close) [] [] { t with state := .closing } := .beginClose hstate
  have hnodup : order.Nodup := horder.nodup_iff.2 (SortedMap.nodup_keys _)
  have hmem : ∀ {a s}, t.slots.get? a = some s → a ∈ order := fun hs =>
    horder.mem_iff.2 (SortedMap.mem_keys_iff.2 ⟨_, hs⟩)
  have hlive : ∀ a ∈ order, ∃ s, t.slots.get? a = some s := fun a ha =>
    SortedMap.mem_keys_iff.1 (horder.mem_iff.1 ha)
  obtain ⟨freed, failures, u, heq, hsteps, hnamed, hmarked, hothers⟩ :=
    (h.step hbegin).releaseAll now hnodup hlive
  have hclosing : u.state = .closing := by
    refine hsteps.keeps (P := fun u => u.state = .closing) (fun {t u e _ _} he hstep hs => ?_) rfl
    obtain ⟨a, -, rfl⟩ := List.mem_map.1 he
    rw [hstep.state_of_free, hs]
  refine ⟨freed.map (·.grant), failures, u, ?_, hsteps, hclosing, fun a s hs => hnamed a (hmem hs) s hs,
    fun a s' hs' => ?_⟩
  · have hbound : ¬ (!t.bound) = true := by
      rw [h.bound hstate]
      nofun
    unfold SlotTable.closeInOrder Reply.andThen
    rw [hstate]
    dsimp only
    rw [if_neg hbound, heq]
    simp only [Reply.answer, List.append_nil]
  · by_cases ha : a ∈ order
    · exact hmarked a ha s' hs'
    · rw [hothers a ha] at hs'
      exact absurd (hmem hs') ha

theorem Sound.closeInOrder {order : List AllocationId} {e : TableEvent} (h : t.Sound)
    (horder : order.Perm t.slots.keys) (he : ∀ parts, (∀ p ∈ parts, p.IsOfClosing) → e.Parts parts) :
    (t.closeInOrder now order).Follows now t e := by
  cases hstate : t.state with
  | created =>
    unfold SlotTable.closeInOrder
    rw [hstate]
    refine ⟨⟨[_], he _ fun p hp => ?_, .single (.closeUnstarted hstate)⟩, nofun⟩
    exact .inl (List.mem_singleton.1 hp)
  | running =>
    have hbegin : Step now t (.operation .close) [] [] { t with state := .closing } := .beginClose hstate
    obtain ⟨grants, failures, u, heq, hsteps, hclosing, -⟩ := h.closeInOrder_running now horder hstate
    rw [heq]
    have hend : Step now u (.operation .close) [] [] { u with awaited := grants } := .awaitAll hclosing
    have hall := (Steps.cons hbegin hsteps).append (.single hend)
    simp only [List.append_nil, List.nil_append] at hall
    refine ⟨⟨_, he _ fun p hp => ?_, hall⟩, nofun⟩
    rw [List.cons_append, List.mem_cons, List.mem_append, List.mem_singleton] at hp
    rcases hp with hp | hp | hp
    · exact .inl hp
    · obtain ⟨a, -, hp⟩ := List.mem_map.1 hp
      exact .inr ⟨a, hp.symm⟩
    · exact .inl hp
  | closing | closed =>
    unfold SlotTable.closeInOrder
    rw [hstate]
    exact .answer _

theorem Sound.run (h : t.Sound) (op : TableOperation) :
    (op.run now t).Follows now t (.operation op) := by
  cases op with
  | start => exact t.start_follows now
  | allocate request => exact h.allocate now request
  | markActive a => exact h.markActive now a
  | tryMarkActive job a => exact h.tryMarkActive now job a
  | markInactive a timeoutMs => exact h.markInactive now a timeoutMs
  | free a cause => exact h.free now a cause
  | addTask task => exact t.addTask_follows now task
  | removeTask execution => exact h.removeTask now execution
  | notifyTimeout a ticket => exact t.notifyTimeout_follows now a ticket
  | close => exact h.closeInOrder now (.refl _) fun _ hparts => .close hparts

end SlotTable

end WorkerSlots
