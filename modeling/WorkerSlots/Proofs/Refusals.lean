import WorkerSlots.Proofs.Registrations

/-!
# Operations that come to nothing

* `Reply.Leaves` : a reply with which nothing has changed, and of which nobody is told anything;
* `Clocked` : a table that is running or has slots has had its timers started;
* `Refusal` : why a request for a slot is refused. A request is refused for one of these reasons
  (`Sound.refusal_of_error`), and whenever there is one (`Refusal.allocate_eq`);
* `TableOperation.InVain` : the results which say that nothing was done;
* `LetGoUntimed` : the one operation that does something in vain. A slot is let go while no timeout can
  be armed, and stays let go;
* `refused_of_new`, `unchanged_iff_of_new` : in every run of a table, what is refused or in vain leaves the
  run as it was, but for that one operation.
-/

namespace WorkerSlots

open SlotTable

/-! ## Replies -/

/-- Nothing has changed, and nobody is told anything. -/
structure Reply.Leaves {α : Type} (reply : Reply α) (t : SlotTable) : Prop where
  table : reply.table = t
  actions : reply.actions = []
  failures : reply.failures = []

/-- If the result says that nothing was done, nothing has changed. -/
def Reply.Honest {α : Type} (reply : Reply α) (t : SlotTable)
    (inVain : Except TableError α → Prop) : Prop :=
  inVain reply.result → reply.Leaves t

namespace Reply

variable {α : Type} {reply : Reply α} {t : SlotTable} {inVain : Except TableError α → Prop}

theorem Leaves.absorb {r : TableRun} (h : reply.Leaves r.table) : r.absorb reply = r := by
  unfold TableRun.absorb
  simp [h.table, h.actions, h.failures]

theorem Honest.answer (a : α) : (Reply.answer t a).Honest t inVain := fun _ => ⟨rfl, rfl, rfl⟩

theorem Honest.refuse (e : TableError) : (Reply.refuse (α := α) t e).Honest t inVain :=
  fun _ => ⟨rfl, rfl, rfl⟩

theorem Honest.done (h : ¬ inVain reply.result) : reply.Honest t inVain :=
  fun hvain => absurd hvain h

theorem Honest.whenRunning (h : t.state = .running → reply.Honest t inVain) :
    (t.whenRunning reply).Honest t inVain := by
  unfold SlotTable.whenRunning
  split
  · rename_i hstate
    exact h hstate
  · exact .refuse _

theorem Honest.whenStarted (h : t.state.isStarted = true → reply.Honest t inVain) :
    (t.whenStarted reply).Honest t inVain := by
  unfold SlotTable.whenStarted
  split
  · rename_i hstate
    exact h hstate
  · exact .refuse _

end Reply

namespace SlotTable

variable {t t' : SlotTable} {now : Nat} {e : TableEvent} {actions : List SlotAction}
  {failures : List TaskFailure} {request : SlotRequest}

/-! ## Tables whose timers were started -/

/-- A table that is running or has slots has had its timers started. -/
structure Clocked (t : SlotTable) : Prop where
  running : t.state = .running → t.timers.started = true
  live : ∀ {a s}, t.slots.get? a = some s → t.timers.started = true

theorem Clocked.step (h : t.Clocked) (hstep : Step now t e actions failures t') : t'.Clocked := by
  cases hstep with
  | start hstate htimers =>
    obtain ⟨-, -, rfl⟩ := Timers.start_eq_ok htimers
    exact ⟨fun _ => rfl, fun _ => rfl⟩
  | grant hstate hfree hnext hbudget htimers =>
    obtain rfl := Timers.register_eq_ok htimers
    exact ⟨fun _ => h.running hstate, fun _ => h.running hstate⟩
  | deactivate hlive hactive htimers =>
    obtain rfl := Timers.register_eq_ok htimers
    exact ⟨fun _ => h.live hlive, fun _ => h.live hlive⟩
  | expire htimers =>
    obtain ⟨-, -, -, -, rfl⟩ := Timers.deliver?_eq_some htimers
    exact ⟨h.running, h.live⟩
  | activate _ hlive | deactivateUntimed hlive | retire hlive | drain hlive | bind _ hlive | unbind hlive
  | useLive hlive => exact ⟨fun _ => h.live hlive, fun _ => h.live hlive⟩
  | closeUnstarted | beginClose | finish => exact ⟨nofun, h.live⟩
  | notify | straggle | awaitAll | teardown | useRetired | cancel => exact ⟨h.running, h.live⟩

theorem Clocked.ofNew {config : TableConfig} {timers : Timers AllocationId} {table : SlotTable}
    (hnew : SlotTable.new config timers = .ok table) (listening : Bool) (events : List TableEvent) :
    ((TableRun.new table listening).afterAll events).table.Clocked := by
  obtain ⟨hcreated, -⟩ := of_new hnew
  have hsound := (Sound.new hnew).1
  have hbegin : table.Clocked := by
    refine ⟨fun hs => ?_, fun hlive => ?_⟩
    · rw [hcreated] at hs
      cases hs
    · exact absurd hcreated (hsound.not_created hlive)
  have hkept := TableRun.afterAll_keeps (P := fun r => r.table.Sound ∧ r.table.Clocked)
    (fun r e h => ⟨(h.1.after e).1, (TableRun.after_moves h.1 e).keeps
      (fun hstep ht => ht.step hstep) h.2⟩)
    (r := TableRun.new table listening) ⟨hsound, hbegin⟩ events
  exact hkept.2

/-! ## Requests that are refused -/

/-- Why no slot can be granted at an index. -/
inductive IndexConflict (t : SlotTable) (index : SlotIndex) : Conflict → Prop where
  | taken {owner : AllocationId} (howner : t.currentAllocation? index = some owner) :
      IndexConflict t index (.indexTaken index owner)
  /-- It has been granted before, and is not granted again. -/
  | spent (hfree : t.currentAllocation? index = none) (hdynamic : t.config.numberSlots ≤ index)
      (hspent : index < t.nextDynamic) : IndexConflict t index (.indexSpent index)
  | last (hfree : t.currentAllocation? index = none) (hdynamic : t.config.numberSlots ≤ index)
      (hnext : t.nextDynamic ≤ index) (hlast : index.toNat = 2 ^ 64 - 1) :
      IndexConflict t index (.lastIndex index)

theorem nextDynamicAfter_eq_error_iff {index : SlotIndex} {conflict : Conflict} :
    t.nextDynamicAfter index = .error conflict ↔ IndexConflict t index conflict := by
  unfold nextDynamicAfter isDynamicIndex
  constructor
  · intro h
    cases howner : t.indices.get? index with
    | some owner =>
      rw [howner] at h
      obtain rfl := Except.error.inj h
      exact .taken howner
    | none =>
      rw [howner] at h
      by_cases hdynamic : t.config.numberSlots ≤ index
      · by_cases hspent : index < t.nextDynamic
        · simp only [hdynamic, hspent, decide_true, Bool.not_true, Bool.false_eq_true, ↓reduceIte,
            Except.error.injEq] at h
          subst h
          exact .spent howner hdynamic hspent
        · cases hadd : Word.add? index 1 with
          | some next => simp [hdynamic, hspent, hadd] at h
          | none =>
            simp only [hdynamic, hspent, hadd, decide_true, Bool.not_true, Bool.false_eq_true,
              ↓reduceIte, Except.error.injEq] at h
            subst h
            exact .last howner hdynamic (UInt64.not_lt.1 hspent) (Word.add?_one_eq_none_iff.1 hadd)
      · simp [hdynamic] at h
  · intro h
    cases h with
    | taken howner =>
      have howner : t.indices.get? index = some _ := howner
      rw [howner]
    | spent hfree hdynamic hspent =>
      have hfree : t.indices.get? index = none := hfree
      simp [hfree, hdynamic, hspent]
    | last hfree hdynamic hnext hlast =>
      have hfree : t.indices.get? index = none := hfree
      simp [hfree, hdynamic, UInt64.not_lt.2 hnext, Word.add?_one_eq_none_iff.2 hlast]

/-- Why a request for a slot is refused: the first reason counts. -/
inductive Refusal (t : SlotTable) (request : SlotRequest) : TableError → Prop where
  | notRunning (hstate : t.state ≠ .running) :
      Refusal t request (.illegalState (.notRunning t.state))
  /-- The allocation has a slot, which is not the one that is requested. -/
  | grantedOtherwise {s : TaskSlot} (hstate : t.state = .running)
      (hlive : t.slot? request.allocation = some s) (hother : t.isAsRequested s request = false) :
      Refusal t request (.allocationConflict
        (.grantedOtherwise s.allocation s.profile s.job s.index))
  | conflict {conflict : Conflict} (hstate : t.state = .running)
      (hnew : t.slot? request.allocation = none)
      (hindex : IndexConflict t (t.requestedIndex request.index) conflict) :
      Refusal t request (.allocationConflict conflict)
  /-- Less is left of a resource than is requested. -/
  | exhausted {d : Dimension} (hstate : t.state = .running)
      (hnew : t.slot? request.allocation = none)
      (hindex : ∀ conflict, ¬ IndexConflict t (t.requestedIndex request.index) conflict)
      (hover : t.budget.total.units d <
        t.budget.reserved.units d + (t.requestedProfile request).units d) :
      Refusal t request
        (.resourceExhausted (t.requestedProfile request) t.budget.available t.budget.total)
  /-- The resources are there, but no timeout can be armed for the slot. -/
  | untimed (hstate : t.state = .running) (hnew : t.slot? request.allocation = none)
      (hindex : ∀ conflict, ¬ IndexConflict t (t.requestedIndex request.index) conflict)
      (hfit : ∀ d, t.budget.reserved.units d + (t.requestedProfile request).units d ≤
        t.budget.total.units d)
      (hcancelled : t.timers.cancelled = true) : Refusal t request (.timer .stopped)

theorem exists_next {index : SlotIndex} (h : ∀ conflict, ¬ IndexConflict t index conflict) :
    ∃ next, t.nextDynamicAfter index = .ok next := by
  cases hnext : t.nextDynamicAfter index with
  | ok next => exact ⟨next, rfl⟩
  | error conflict => exact absurd (nextDynamicAfter_eq_error_iff.1 hnext) (h conflict)

/-- What there is a reason to refuse is refused, and leaves the table as it is. -/
theorem Refusal.allocate_eq {error : TableError} (h : Refusal t request error) (hsound : t.Sound) :
    t.allocate now request = .refuse t error := by
  cases h with
  | notRunning hstate => exact allocate_of_not_running now hstate
  | grantedOtherwise hstate hlive hother =>
    rw [hsound.allocate_of_live now hstate hlive, hother]
    rfl
  | conflict hstate hnew hindex =>
    exact hsound.allocate_of_conflict now hstate hnew (nextDynamicAfter_eq_error_iff.2 hindex)
  | exhausted hstate hnew hindex hover =>
    obtain ⟨next, hnext⟩ := exists_next hindex
    rw [hsound.allocate_of_next now hstate hnew hnext]
    exact grant_of_exhausted now (ResourceBudget.reserve?_eq_none_iff.2 ⟨_, hover⟩)
  | untimed hstate hnew hindex hfit hcancelled =>
    obtain ⟨next, hnext⟩ := exists_next hindex
    obtain ⟨budget, hbudget⟩ := ResourceBudget.exists_reserve?_iff.2 hfit
    rw [hsound.allocate_of_next now hstate hnew hnext]
    exact grant_of_untimed now hbudget (Timers.register_of_cancelled hcancelled)

/-- Where there is no conflict, a grant is refused only for what is left of the resources, or for the
timers. -/
theorem Sound.refusal_of_grant_error (h : t.Sound) (hclocked : t.Clocked) (hstate : t.state = .running)
    (hnew : t.slot? request.allocation = none)
    (hindex : ∀ conflict, ¬ IndexConflict t (t.requestedIndex request.index) conflict)
    {next : SlotIndex} {error : TableError}
    (herror : (t.grant now request (t.requestedIndex request.index) next).result = .error error) :
    Refusal t request error := by
  cases hbudget : t.budget.reserve? (t.requestedProfile request) with
  | none =>
    rw [grant_of_exhausted now hbudget] at herror
    obtain rfl := Except.error.inj herror
    obtain ⟨d, hover⟩ := ResourceBudget.reserve?_eq_none_iff.1 hbudget
    exact .exhausted hstate hnew hindex hover
  | some budget =>
    cases htimers : t.timers.register now request.allocation request.timeoutMs with
    | error e =>
      rw [grant_of_untimed now hbudget htimers] at herror
      obtain rfl := Except.error.inj herror
      obtain ⟨hcancelled, rfl⟩ | ⟨-, hunstarted, -⟩ := Timers.register_eq_error_iff.1 htimers
      · have hfit := ResourceBudget.exists_reserve?_iff.1 ⟨budget, hbudget⟩
        exact .untimed hstate hnew hindex hfit hcancelled
      · rw [hclocked.running hstate] at hunstarted
        cases hunstarted
    | ok registered =>
      obtain ⟨s, -, heq⟩ := h.exists_grant now hbudget htimers
      rw [heq] at herror
      cases herror

/-- Whatever is refused is refused for a reason. -/
theorem Sound.refusal_of_error (h : t.Sound) (hclocked : t.Clocked) {error : TableError}
    (herror : (t.allocate now request).result = .error error) : Refusal t request error := by
  by_cases hstate : t.state = .running
  · cases hlive : t.slot? request.allocation with
    | some s =>
      rw [h.allocate_of_live now hstate hlive] at herror
      cases hasked : t.isAsRequested s request with
      | true =>
        rw [hasked] at herror
        cases herror
      | false =>
        rw [hasked] at herror
        obtain rfl := Except.error.inj herror
        exact .grantedOtherwise hstate hlive hasked
    | none =>
      cases hnext : t.nextDynamicAfter (t.requestedIndex request.index) with
      | error conflict =>
        rw [h.allocate_of_conflict now hstate hlive hnext] at herror
        obtain rfl := Except.error.inj herror
        exact .conflict hstate hlive (nextDynamicAfter_eq_error_iff.1 hnext)
      | ok next =>
        have hindex : ∀ conflict, ¬ IndexConflict t (t.requestedIndex request.index) conflict := by
          intro conflict hconflict
          rw [nextDynamicAfter_eq_error_iff.2 hconflict] at hnext
          cases hnext
        rw [h.allocate_of_next now hstate hlive hnext] at herror
        exact h.refusal_of_grant_error hclocked hstate hlive hindex herror
  · rw [allocate_of_not_running now hstate] at herror
    obtain rfl := Except.error.inj herror
    exact .notRunning hstate

end SlotTable

/-! ## Operations in vain -/

/-- Whether the answer of an operation says that nothing was done. -/
def TableOperation.declines : (op : TableOperation) → op.Answer → Bool
  | markActive _, done | tryMarkActive .., done | markInactive .., done | addTask _, done => !done
  | removeTask _, task => task.isNone
  | start, _ | allocate _, _ | free .., _ | notifyTimeout .., _ | close, _ => false

/-- The results which say that nothing was done. -/
def TableOperation.InVain (op : TableOperation) : Except TableError op.Answer → Prop
  | .error _ => True
  | .ok answer => op.declines answer = true

namespace SlotTable

variable {t : SlotTable} (now : Nat)

/-- An active slot is let go, and its timeout cannot be armed as the timers are stopped. -/
structure LetGoUntimed (t : SlotTable) (op : TableOperation) (s : TaskSlot) : Prop where
  asked : ∃ timeoutMs, op = .markInactive s.allocation timeoutMs
  live : t.slot? s.allocation = some s
  active : s.state = .active
  cancelled : t.timers.cancelled = true

theorem start_honest (t : SlotTable) : t.start.Honest t (TableOperation.InVain .start) := by
  unfold start
  by_cases hstate : t.state = .created
  · rw [if_neg (not_not_intro hstate)]
    cases t.timers.start with
    | error e => exact .refuse _
    | ok timers => exact .done Bool.false_ne_true
  · rw [if_pos hstate]
    exact .refuse _

theorem Sound.allocate_honest (h : t.Sound) (hclocked : t.Clocked) (request : SlotRequest) :
    (t.allocate now request).Honest t (TableOperation.InVain (.allocate request)) := by
  cases hresult : (t.allocate now request).result with
  | error error =>
    rw [(h.refusal_of_error hclocked hresult).allocate_eq h]
    exact .refuse error
  | ok index =>
    refine .done fun hvain => ?_
    rw [hresult] at hvain
    cases hvain

/-- Whether an allocated slot becomes active depends on nothing but its state. -/
theorem activate_honest (t : SlotTable) (s : TaskSlot) {inVain : Except TableError Bool → Prop}
    (h : ¬ inVain (.ok true)) : (t.activate s).Honest t inVain := by
  unfold activate
  cases s.activate? with
  | none => exact .answer false
  | some active => exact .done h

theorem markActive_honest (t : SlotTable) (a : AllocationId) :
    (t.markActive a).Honest t (TableOperation.InVain (.markActive a)) := by
  unfold markActive
  refine .whenRunning fun _ => ?_
  cases t.slots.get? a with
  | none => exact .refuse _
  | some s => exact t.activate_honest s Bool.false_ne_true

theorem tryMarkActive_honest (t : SlotTable) (job : JobId) (a : AllocationId) :
    (t.tryMarkActive job a).Honest t (TableOperation.InVain (.tryMarkActive job a)) := by
  unfold tryMarkActive
  cases t.slots.get? a with
  | none => exact .answer false
  | some s =>
    cases howned : s.isAllocated job a with
    | true =>
      simp only [howned, ↓reduceIte]
      exact t.activate_honest s Bool.false_ne_true
    | false =>
      simp only [howned]
      exact .answer false

/-- The slot is let go before its timeout is armed: while the timers can arm it, all is done or nothing. -/
theorem Sound.markInactive_honest (h : t.Sound) (hclocked : t.Clocked) (a : AllocationId)
    (timeoutMs : UInt64) (htimed : ∀ s, ¬ LetGoUntimed t (.markInactive a timeoutMs) s) :
    (t.markInactive now a timeoutMs).Honest t (TableOperation.InVain (.markInactive a timeoutMs)) := by
  unfold SlotTable.markInactive
  refine .whenStarted fun _ => ?_
  cases hlive : t.slots.get? a with
  | none => exact .refuse _
  | some s =>
    obtain rfl := h.keyed hlive
    by_cases hactive : s.state = .active
    · have hinactive : s.deactivate? = some { s with state := .allocated } := if_pos hactive
      simp only [hinactive]
      cases htimers : t.timers.register now s.allocation timeoutMs with
      | ok registered => exact .done Bool.false_ne_true
      | error error =>
        obtain ⟨hcancelled, -⟩ | ⟨-, hunstarted, -⟩ := Timers.register_eq_error_iff.1 htimers
        · exact absurd ⟨⟨timeoutMs, rfl⟩, hlive, hactive, hcancelled⟩ (htimed s)
        · rw [hclocked.live hlive] at hunstarted
          cases hunstarted
    · have hnone : s.deactivate? = none := if_neg hactive
      simp only [hnone]
      exact .answer false

theorem LetGoUntimed.run_eq {op : TableOperation} {s : TaskSlot} (h : LetGoUntimed t op s)
    (hsound : t.Sound) : op.run now t =
      .refuse { t with slots := t.slots.insert s.allocation { s with state := .allocated } }
        (.timer .stopped) := by
  obtain ⟨timeoutMs, rfl⟩ := h.asked
  have hlive : t.slots.get? s.allocation = some s := h.live
  have hstarted : t.state.isStarted = true := decide_eq_true (hsound.not_created hlive)
  have hinactive : s.deactivate? = some { s with state := .allocated } := if_pos h.active
  unfold TableOperation.run SlotTable.markInactive whenStarted
  simp only [hstarted, hlive, hinactive, Timers.register_of_cancelled h.cancelled, ↓reduceIte]

theorem Sound.free_honest (h : t.Sound) (a : AllocationId) (cause : String) :
    (t.free now a cause).Honest t (TableOperation.InVain (.free a cause)) := by
  unfold SlotTable.free
  refine .whenStarted fun _ => ?_
  cases hlive : t.slots.get? a with
  | none =>
    unfold SlotTable.release
    rw [hlive]
    exact .refuse _
  | some s =>
    obtain ⟨freed, failures, t', heq, -⟩ := h.release_live now hlive cause
    rw [heq]
    exact .done Bool.false_ne_true

theorem addTask_honest (t : SlotTable) (task : Task) :
    (t.addTask task).Honest t (TableOperation.InVain (.addTask task)) := by
  unfold addTask
  refine .whenRunning fun _ => ?_
  cases t.slots.get? task.allocation with
  | none => exact .refuse _
  | some s =>
    cases hactive : s.isActive task.job task.allocation with
    | false =>
      simp only [hactive]
      exact .refuse _
    | true =>
      simp only [hactive, ↓reduceIte, TaskSlot.add_eq_of_isActive hactive]
      cases hknown : s.tasks.contains task.execution with
      | true =>
        simp only [↓reduceIte]
        exact .answer false
      | false => exact .done Bool.false_ne_true

/-- A task that is listed is bound to a slot, so that it is unbound. -/
theorem Sound.removeTask_honest (h : t.Sound) (execution : ExecutionId) :
    (t.removeTask execution).Honest t (TableOperation.InVain (.removeTask execution)) := by
  unfold SlotTable.removeTask
  refine .whenStarted fun _ => ?_
  cases howner : t.taskOwners.get? execution with
  | none => exact .answer none
  | some a =>
    obtain ⟨s, task, hlive, htask⟩ := h.listed howner
    have hremove := TaskSlot.remove?_eq_some_iff.2 ⟨htask, rfl⟩
    simp only [hlive, hremove]
    exact .done Bool.false_ne_true

theorem notifyTimeout_honest (t : SlotTable) (a : AllocationId) (ticket : Ticket) :
    (t.notifyTimeout a ticket).Honest t (TableOperation.InVain (.notifyTimeout a ticket)) :=
  .whenStarted fun _ => .done Bool.false_ne_true

theorem Sound.close_honest (h : t.Sound) :
    (t.close now).Honest t (TableOperation.InVain .close) := by
  unfold SlotTable.close
  cases hstate : t.state with
  | created =>
    unfold SlotTable.closeInOrder
    rw [hstate]
    exact .done Bool.false_ne_true
  | running =>
    obtain ⟨grants, failures, u, heq, -⟩ := h.closeInOrder_running now (.refl _) hstate
    rw [heq]
    exact .done Bool.false_ne_true
  | closing | closed =>
    unfold SlotTable.closeInOrder
    rw [hstate]
    exact .answer _

theorem Sound.run_honest (h : t.Sound) (hclocked : t.Clocked) (op : TableOperation)
    (htimed : ∀ s, ¬ LetGoUntimed t op s) : (op.run now t).Honest t op.InVain := by
  cases op with
  | start => exact t.start_honest
  | allocate request => exact h.allocate_honest now hclocked request
  | markActive a => exact t.markActive_honest a
  | tryMarkActive job a => exact t.tryMarkActive_honest job a
  | markInactive a timeoutMs => exact h.markInactive_honest now hclocked a timeoutMs htimed
  | free a cause => exact h.free_honest now a cause
  | addTask task => exact t.addTask_honest task
  | removeTask execution => exact h.removeTask_honest execution
  | notifyTimeout a ticket => exact t.notifyTimeout_honest a ticket
  | close => exact h.close_honest now

/-! ## In every run -/

section Runs

variable {config : TableConfig} {timers : Timers AllocationId} {table : SlotTable}

/-- In every run of a table, a request for a slot is refused exactly when there is a reason for it. Then
table, channel and tasks are as if it had not been made. -/
theorem refused_of_new (hnew : SlotTable.new config timers = .ok table) (listening : Bool)
    (events : List TableEvent) (request : SlotRequest) (error : TableError) :
    let r := (TableRun.new table listening).afterAll events
    ((r.perform (.allocate request)).1 = .error error ↔ Refusal r.table request error) ∧
      ((r.perform (.allocate request)).1 = .error error →
        (r.perform (.allocate request)).2 = r) := by
  intro r
  have hsound : r.table.Sound := (Sound.ofNew hnew listening events).1
  have hclocked : r.table.Clocked := Clocked.ofNew hnew listening events
  have hrefusal : (r.perform (.allocate request)).1 = .error error → Refusal r.table request error :=
    hsound.refusal_of_error hclocked
  have hrefused : ∀ {error}, Refusal r.table request error →
      r.perform (.allocate request) = (.error error, r) := by
    intro error hreason
    have heq : TableOperation.run r.now r.table (.allocate request) = .refuse r.table error :=
      hreason.allocate_eq hsound
    unfold TableRun.perform
    rw [heq]
    exact Prod.ext rfl (r.absorb_refuse error)
  refine ⟨⟨hrefusal, fun hreason => ?_⟩, fun herror => ?_⟩
  · rw [hrefused hreason]
  · rw [hrefused (hrefusal herror)]

/-- The timers are stopped from outside. What was reserved for the second slot is given back. -/
theorem refused_of_new_stopped : ∃ table,
    SlotTable.new (.evenlyDivided 2 TableConfig.standardProfile) (.new 0) = .ok table ∧
      let r := (TableRun.new table true).afterAll [.operation .start,
        .operation (.allocate ⟨.fixed 0, ⟨0⟩, ⟨1⟩, none, 5⟩), .happening .cancel]
      let request : SlotRequest := ⟨.dynamic, ⟨0⟩, ⟨2⟩, none, 5⟩
      (r.perform (.allocate request)).1 = .error (.timer .stopped) ∧
        Refusal r.table request (.timer .stopped) ∧ (r.perform (.allocate request)).2 = r := by
  refine ⟨_, rfl, ?_⟩
  intro r request
  obtain ⟨hiff, hsame⟩ := @refused_of_new (.evenlyDivided 2 TableConfig.standardProfile) (.new 0) _ rfl
    true [.operation .start, .operation (.allocate ⟨.fixed 0, ⟨0⟩, ⟨1⟩, none, 5⟩), .happening .cancel]
    request (.timer .stopped)
  have hnext : r.table.nextDynamicAfter (r.table.requestedIndex request.index) = .ok 3 := rfl
  have hfits : (r.table.budget.reserve? (r.table.requestedProfile request)).isSome = true := by
    decide +kernel
  have hreason : Refusal r.table request (.timer .stopped) := by
    refine .untimed rfl rfl (fun conflict hconflict => ?_)
      (ResourceBudget.exists_reserve?_iff.1 (Option.isSome_iff_exists.1 hfits)) rfl
    rw [nextDynamicAfter_eq_error_iff.2 hconflict] at hnext
    cases hnext
  have herror := hiff.2 hreason
  exact ⟨herror, hreason, hsame herror⟩

/-- In every run of a table, an operation whose result says that nothing was done has done nothing, with one
exception: a slot that is let go while its timeout cannot be armed stays let go, without a timeout. -/
theorem unchanged_iff_of_new (hnew : SlotTable.new config timers = .ok table) (listening : Bool)
    (events : List TableEvent) (op : TableOperation) :
    let r := (TableRun.new table listening).afterAll events
    (op.InVain (r.perform op).1 → ((r.perform op).2 = r ↔ ∀ s, ¬ LetGoUntimed r.table op s)) ∧
      ∀ s, LetGoUntimed r.table op s →
        (r.perform op).1 = .error (.timer .stopped) ∧
        (r.perform op).2 = { r with table := { r.table with
          slots := r.table.slots.insert s.allocation { s with state := .allocated } } } := by
  intro r
  have hsound : r.table.Sound := (Sound.ofNew hnew listening events).1
  have hclocked : r.table.Clocked := Clocked.ofNew hnew listening events
  have huntimed : ∀ s, LetGoUntimed r.table op s →
      (r.perform op).1 = .error (.timer .stopped) ∧
      (r.perform op).2 = { r with table := { r.table with
        slots := r.table.slots.insert s.allocation { s with state := .allocated } } } := by
    intro s hs
    unfold TableRun.perform
    rw [hs.run_eq r.now hsound]
    exact ⟨rfl, r.absorb_silent _ _⟩
  refine ⟨fun hvain => ⟨fun hsame s hs => ?_, fun htimed => ?_⟩, huntimed⟩
  · -- the slot was active, and is not any more
    have hslot := congrArg (fun r => r.table.slots.get? s.allocation) (hsame.symm.trans (huntimed s hs).2)
    have hlive : r.table.slots.get? s.allocation = some s := hs.live
    dsimp only at hslot
    rw [hlive, SortedMap.get?_insert_self] at hslot
    have hstate := congrArg TaskSlot.state (Option.some.inj hslot)
    rw [hs.active] at hstate
    cases hstate
  · exact (hsound.run_honest r.now hclocked op htimed hvain).absorb

/-- The timers are stopped from outside while a slot is active. The slot cannot be given a timeout, and is
not active any more. -/
theorem unchanged_iff_of_new_letGo : ∃ table,
    SlotTable.new (.evenlyDivided 2 TableConfig.standardProfile) (.new 0) = .ok table ∧
      let r := (TableRun.new table true).afterAll [.operation .start,
        .operation (.allocate ⟨.fixed 0, ⟨0⟩, ⟨1⟩, none, 5⟩), .operation (.markActive ⟨1⟩),
        .happening .cancel]
      ∃ s, LetGoUntimed r.table (.markInactive ⟨1⟩ 5) s ∧
        (r.perform (.markInactive ⟨1⟩ 5)).1 = .error (.timer .stopped) ∧
        (r.perform (.markInactive ⟨1⟩ 5)).2 ≠ r := by
  refine ⟨_, rfl, ?_⟩
  intro r
  obtain ⟨hiff, huntimed⟩ := @unchanged_iff_of_new
    (.evenlyDivided 2 TableConfig.standardProfile) (.new 0) _ rfl true
    [.operation .start, .operation (.allocate ⟨.fixed 0, ⟨0⟩, ⟨1⟩, none, 5⟩), .operation (.markActive ⟨1⟩),
      .happening .cancel] (.markInactive ⟨1⟩ 5)
  obtain ⟨s, hlive, hallocation, hactive⟩ : ∃ s, r.table.slot? ⟨1⟩ = some s ∧ s.allocation = ⟨1⟩ ∧
      s.state = .active := ⟨_, rfl, rfl, rfl⟩
  rw [← hallocation] at hlive
  have hletGo : LetGoUntimed r.table (.markInactive ⟨1⟩ 5) s :=
    ⟨⟨5, by rw [hallocation]⟩, hlive, hactive, rfl⟩
  have hresult := (huntimed _ hletGo).1
  have hvain : TableOperation.InVain (.markInactive ⟨1⟩ 5) (r.perform (.markInactive ⟨1⟩ 5)).1 := by
    rw [hresult]
    trivial
  exact ⟨_, hletGo, hresult, fun hsame => (hiff hvain).1 hsame _ hletGo⟩

end Runs

end SlotTable

end WorkerSlots
