import WorkerSlots.Proofs.FreeOrders

/-!
# The order in which a table closes its slots

* `run_awaiting` : no operation but a close looks at what is awaited;
* `SlotTable.SameButOrder`, `TableRun.SameButOrder` : two tables that differ in nothing but the order in which
  slots are awaited (and tasks are told to fail). What is looked at is whether all of them are closed, so that
  nothing that happens later makes another difference (`TableRun.SameButOrder.after`), nor does time
  (`TableRun.SameButOrder.advance`);
* `Sound.closeInOrder_perm` : closing in two orders makes no other difference either;
* `close_orders_of_new` : all of this in every run.
-/

namespace WorkerSlots

open SlotTable

variable {t t' : SlotTable} {now : Nat} {a : AllocationId} {s : TaskSlot} {cause : String}
  {grants : List Nat}

namespace SlotTable

/-- A table that awaits other slots, and is the same otherwise. -/
def awaiting (t : SlotTable) (grants : List Nat) : SlotTable := { t with awaited := grants }

@[simp] theorem awaiting_state : (t.awaiting grants).state = t.state := rfl

@[simp] theorem awaiting_bound : (t.awaiting grants).bound = t.bound := rfl

@[simp] theorem awaiting_slots : (t.awaiting grants).slots = t.slots := rfl

@[simp] theorem awaiting_jobSlots : (t.awaiting grants).jobSlots = t.jobSlots := rfl

@[simp] theorem awaiting_taskOwners : (t.awaiting grants).taskOwners = t.taskOwners := rfl

@[simp] theorem awaiting_budget : (t.awaiting grants).budget = t.budget := rfl

@[simp] theorem awaiting_timers : (t.awaiting grants).timers = t.timers := rfl

@[simp] theorem awaiting_retired : (t.awaiting grants).retired = t.retired := rfl

end SlotTable

/-- The reply of a table that awaits other slots. -/
def Reply.awaiting {α : Type} (reply : Reply α) (grants : List Nat) : Reply α :=
  { reply with table := reply.table.awaiting grants }

namespace SlotTable

/-! ## What is awaited -/

theorem whenRunning_awaiting {α : Type} {reply reply' : Reply α} (h : reply' = reply.awaiting grants) :
    (t.awaiting grants).whenRunning reply' = (t.whenRunning reply).awaiting grants := by
  subst h
  unfold whenRunning
  rw [awaiting_state]
  split <;> rfl

theorem whenStarted_awaiting {α : Type} {reply reply' : Reply α} (h : reply' = reply.awaiting grants) :
    (t.awaiting grants).whenStarted reply' = (t.whenStarted reply).awaiting grants := by
  subst h
  unfold whenStarted
  rw [awaiting_state]
  split <;> rfl

theorem start_awaiting : (t.awaiting grants).start = t.start.awaiting grants := by
  unfold start
  rw [awaiting_state, awaiting_timers]
  split
  · rfl
  · cases t.timers.start <;> rfl

theorem grant_awaiting (request : SlotRequest) (i next : SlotIndex) :
    (t.awaiting grants).grant now request i next = (t.grant now request i next).awaiting grants := by
  unfold SlotTable.grant awaiting requestedProfile
  dsimp only
  cases t.budget.reserve? (request.profile.getD t.config.defaultSlotProfile) with
  | none => rfl
  | some budget =>
    dsimp only
    cases t.timers.register now request.allocation request.timeoutMs with
    | error e =>
      dsimp only
      cases budget.release? (request.profile.getD t.config.defaultSlotProfile) <;> rfl
    | ok registered =>
      dsimp only
      cases TaskSlot.new? t.grants i (request.profile.getD t.config.defaultSlotProfile)
        t.config.memoryPageSize request.job request.allocation t.config.memoryReleaseGraceMs <;> rfl

theorem allocate_awaiting (request : SlotRequest) :
    (t.awaiting grants).allocate now request = (t.allocate now request).awaiting grants := by
  unfold SlotTable.allocate
  refine whenRunning_awaiting ?_
  rw [awaiting_bound]
  split
  · rfl
  · rw [awaiting_slots]
    cases t.slots.get? request.allocation with
    | some s =>
      show (if t.isAsRequested s request then _ else _) = Reply.awaiting (if _ then _ else _) _
      split <;> rfl
    | none =>
      have hnext : (t.awaiting grants).nextDynamicAfter ((t.awaiting grants).requestedIndex request.index) =
          t.nextDynamicAfter (t.requestedIndex request.index) := rfl
      dsimp only
      rw [hnext]
      cases t.nextDynamicAfter (t.requestedIndex request.index) with
      | error conflict => rfl
      | ok next => exact grant_awaiting request _ next

theorem activate_awaiting : (t.awaiting grants).activate s = (t.activate s).awaiting grants := by
  unfold SlotTable.activate
  cases s.activate? <;> rfl

theorem release_awaiting : (t.awaiting grants).release now a cause = (t.release now a cause).awaiting grants := by
  unfold SlotTable.release
  rw [awaiting_slots]
  cases t.slots.get? a with
  | none => rfl
  | some s =>
    dsimp only
    split
    · unfold retire
      rw [awaiting_jobSlots]
      cases t.jobSlots.get? s.job with
      | none => rfl
      | some as =>
        rw [awaiting_budget]
        cases t.budget.release? s.profile <;> rfl
    · rfl

/-- No operation but a close looks at what is awaited, or changes it. -/
theorem run_awaiting (now : Nat) (t : SlotTable) (grants : List Nat) (op : TableOperation) (hop : op ≠ .close) :
    op.run now (t.awaiting grants) = (op.run now t).awaiting grants := by
  cases op with
  | start => exact start_awaiting
  | allocate request => exact allocate_awaiting request
  | markActive a =>
    refine whenRunning_awaiting ?_
    rw [awaiting_slots]
    cases t.slots.get? a with
    | none => rfl
    | some s => exact activate_awaiting
  | tryMarkActive job a =>
    show SlotTable.tryMarkActive (t.awaiting grants) job a = (SlotTable.tryMarkActive t job a).awaiting grants
    unfold SlotTable.tryMarkActive
    rw [awaiting_slots]
    cases t.slots.get? a with
    | none => rfl
    | some s =>
      dsimp only
      split
      · exact activate_awaiting
      · rfl
  | markInactive a timeoutMs =>
    refine whenStarted_awaiting ?_
    rw [awaiting_slots]
    cases t.slots.get? a with
    | none => rfl
    | some s =>
      dsimp only
      cases s.deactivate? with
      | none => rfl
      | some inactive =>
        rw [awaiting_timers]
        cases t.timers.register now a timeoutMs <;> rfl
  | free a cause => exact whenStarted_awaiting release_awaiting
  | addTask task =>
    refine whenRunning_awaiting ?_
    rw [awaiting_slots]
    cases t.slots.get? task.allocation with
    | none => rfl
    | some s =>
      dsimp only
      split
      · cases s.add task with
        | error fault => rfl
        | ok added =>
          obtain ⟨isNew, s'⟩ := added
          cases isNew <;> rfl
      · rfl
  | removeTask execution =>
    refine whenStarted_awaiting ?_
    rw [awaiting_taskOwners]
    cases t.taskOwners.get? execution with
    | none => rfl
    | some a =>
      dsimp only
      rw [awaiting_slots]
      cases t.slots.get? a with
      | none => rfl
      | some s =>
        dsimp only
        cases s.remove? execution <;> rfl
  | notifyTimeout a ticket => exact whenStarted_awaiting rfl
  | close => exact absurd rfl hop

theorem andThen_awaiting {α β : Type} {next : α → SlotTable → Reply β}
    (h : ∀ a u, next a (u.awaiting grants) = (next a u).awaiting grants) (reply : Reply α) :
    (reply.awaiting grants).andThen next = (reply.andThen next).awaiting grants := by
  obtain ⟨result, table, actions, failures⟩ := reply
  cases result with
  | error e => rfl
  | ok a =>
    unfold Reply.andThen Reply.awaiting
    dsimp only
    rw [h]
    rfl

theorem releaseAll_awaiting (now : Nat) (order : List AllocationId) :
    releaseAll now order (t.awaiting grants) = (releaseAll now order t).awaiting grants := by
  induction order generalizing t with
  | nil => rfl
  | cons a rest ih =>
    show ((t.awaiting grants).release now a closeCause).andThen _ = _
    rw [release_awaiting]
    refine andThen_awaiting (fun freed u => ?_) _
    rw [ih]
    rfl

/-! ## Two tables -/

/-- Two tables that differ in nothing but the order in which slots are awaited. -/
def SameButOrder (t t' : SlotTable) : Prop := ∃ grants, grants.Perm t.awaited ∧ t' = t.awaiting grants

theorem SameButOrder.refl (t : SlotTable) : t.SameButOrder t := ⟨t.awaited, .refl _, rfl⟩

/-- What leaves alone what is awaited makes no other difference. -/
theorem SameButOrder.map {f : SlotTable → SlotTable} (h : t.SameButOrder t')
    (hf : ∀ grants, f (t.awaiting grants) = (f t).awaiting grants) : (f t).SameButOrder (f t') := by
  obtain ⟨grants, hperm, rfl⟩ := h
  have hself : f t = (f t).awaiting t.awaited := hf t.awaited
  refine ⟨grants, ?_, hf grants⟩
  rw [hself]
  exact hperm

/-- It is looked at whether all that is awaited is closed, and not in which order. -/
theorem SameButOrder.finishClose (h : t.SameButOrder t') : t.finishClose.SameButOrder t'.finishClose := by
  have hkept := h
  obtain ⟨grants, hperm, rfl⟩ := hkept
  have hall : grants.all t.isGrantClosed = t.awaited.all t.isGrantClosed := hperm.all_eq
  unfold SlotTable.finishClose
  show SameButOrder _ (if t.state = .closing ∧ grants.all t.isGrantClosed then _ else _)
  rw [hall]
  split
  · exact h.map (f := fun t => { t with state := .closed, timers := t.timers.cancel }) fun _ => rfl
  · exact h

end SlotTable

/-- Two replies that differ in the order in which slots are awaited and tasks are told to fail. -/
structure Reply.SameButOrder {α : Type} (reply reply' : Reply α) : Prop where
  result : reply'.result = reply.result
  table : reply.table.SameButOrder reply'.table
  actions : reply'.actions = reply.actions
  failures : reply'.failures.Perm reply.failures

theorem Reply.SameButOrder.refl {α : Type} (reply : Reply α) : reply.SameButOrder reply :=
  ⟨rfl, .refl _, rfl, .refl _⟩

namespace SlotTable

theorem SameButOrder.reply {α : Type} {f : SlotTable → Reply α} (h : t.SameButOrder t')
    (hf : ∀ grants, f (t.awaiting grants) = (f t).awaiting grants) : (f t).SameButOrder (f t') := by
  have htable := h.map (f := fun t => (f t).table) fun grants => congrArg Reply.table (hf grants)
  obtain ⟨grants, -, rfl⟩ := h
  rw [hf] at htable ⊢
  exact ⟨rfl, htable, rfl, .refl _⟩

/-- All slots that were freed are awaited, in the order in which they were. -/
def awaitAll (released : Reply (List FreedSlot)) : Reply PUnit :=
  released.andThen fun freed t => .answer { t with awaited := freed.map (·.grant) } ⟨⟩

theorem sameButOrder_awaitAll {first second : Reply (List FreedSlot)}
    (hresult : (∃ e, first.result = .error e ∧ second.result = .error e) ∨
      ∃ freed freed', first.result = .ok freed ∧ second.result = .ok freed' ∧ freed'.Perm freed)
    (htable : first.table.SameButOrder second.table) (hactions : second.actions = first.actions)
    (hfailures : second.failures.Perm first.failures) :
    (awaitAll first).SameButOrder (awaitAll second) := by
  obtain ⟨result, table, actions, failures⟩ := first
  obtain ⟨result', table', actions', failures'⟩ := second
  obtain ⟨e, rfl, rfl⟩ | ⟨freed, freed', rfl, rfl, hperm⟩ := hresult
  · exact ⟨rfl, htable, hactions, hfailures⟩
  · obtain ⟨grants, -, rfl⟩ := htable
    exact ⟨rfl, ⟨_, hperm.map _, rfl⟩, congrArg (· ++ []) hactions, hfailures.append_right []⟩

/-- Closing a table replaces all that was awaited before. -/
theorem SameButOrder.closeInOrder (h : t.SameButOrder t') (now : Nat) (order : List AllocationId) :
    (t.closeInOrder now order).SameButOrder (t'.closeInOrder now order) := by
  have hreleased := h.reply (f := fun t => releaseAll now order { t with state := .closing }) fun grants =>
    @releaseAll_awaiting { t with state := .closing } grants now order
  have hkept := h
  obtain ⟨grants, -, rfl⟩ := hkept
  unfold SlotTable.closeInOrder
  rw [awaiting_state, awaiting_bound]
  cases t.state with
  | created => exact h.reply (f := fun t => .answer { t with state := .closed } PUnit.unit) fun _ => rfl
  | running =>
    dsimp only
    split
    · exact h.reply (f := fun t => .refuse t _) fun _ => rfl
    · refine sameButOrder_awaitAll ?_ hreleased.table hreleased.actions hreleased.failures
      have hresult := hreleased.result
      cases hfreed : (releaseAll now order { t with state := .closing }).result with
      | error e => exact .inl ⟨e, rfl, hresult.trans hfreed⟩
      | ok freed => exact .inr ⟨freed, freed, rfl, hresult.trans hfreed, .refl _⟩
  | closing | closed => exact h.reply (f := fun t => .answer t PUnit.unit) fun _ => rfl

/-- No operation makes another difference between two tables. -/
theorem SameButOrder.run (h : t.SameButOrder t') (now : Nat) (op : TableOperation) :
    (op.run now t).SameButOrder (op.run now t') := by
  by_cases hop : op = .close
  · subst hop
    have hclosed := h.closeInOrder now t.slots.keys
    obtain ⟨grants, -, rfl⟩ := h
    exact hclosed
  · exact h.reply (f := fun t => op.run now t) fun grants => run_awaiting now t grants op hop

theorem expireOne_awaiting : (t.awaiting grants).expireOne now a = (t.expireOne now a).awaiting grants := by
  unfold expireOne
  rw [awaiting_timers]
  cases t.timers.deliver? now a <;> rfl

theorem expireLate_awaiting {ticket : Ticket} :
    (t.awaiting grants).expireLate a ticket = (t.expireLate a ticket).awaiting grants := by
  unfold expireLate
  rw [awaiting_timers]
  split <;> rfl

theorem settleOne_awaiting {grant : Nat} :
    (t.awaiting grants).settleOne now grant = (t.settleOne now grant).awaiting grants := by
  unfold settleOne
  rw [awaiting_retired]
  cases t.retired.get? grant <;> rfl

/-! ## Closing in two orders -/

/-- A table closes in two orders: the tasks are told to fail in two orders, and slots are awaited in two. -/
theorem Sound.closeInOrder_perm (h : t.Sound) (hgranted : t.Granted) {order order' : List AllocationId}
    (horder : order.Perm t.slots.keys) (horder' : order'.Perm t.slots.keys) (now : Nat) :
    (t.closeInOrder now order).SameButOrder (t.closeInOrder now order') := by
  unfold SlotTable.closeInOrder
  split
  · exact .refl _
  · rename_i hstate
    have hbegin : Step now t (.operation .close) [] [] { t with state := .closing } := .beginClose hstate
    split
    · exact .refl _
    · obtain ⟨hresult, htable, hactions, hfailures⟩ := (h.step hbegin).releaseAll_perm
        (hgranted.of_passage h (hbegin.passage hgranted)) (horder.trans horder'.symm)
        (horder.nodup_iff.2 (SortedMap.nodup_keys _))
        (fun a ha => SortedMap.mem_keys_iff.1 (horder.mem_iff.1 ha)) now
      refine sameButOrder_awaitAll (.inr hresult) ?_ hactions hfailures
      rw [htable]
      exact .refl _
  · exact .refl _
  · exact .refl _

end SlotTable

/-! ## In time -/

namespace TableRun

/-- Two runs that differ in nothing but the order in which slots are awaited, and that in which tasks have been
told to fail. -/
def SameButOrder (r r' : TableRun) : Prop :=
  ∃ grants failures, grants.Perm r.table.awaited ∧ failures.Perm r.failures ∧
    r' = { r with table := r.table.awaiting grants, failures }

variable {r r' : TableRun}

theorem SameButOrder.refl (r : TableRun) : r.SameButOrder r := ⟨_, _, .refl _, .refl _, rfl⟩

theorem SameButOrder.table (h : r.SameButOrder r') : r.table.SameButOrder r'.table := by
  obtain ⟨grants, failures, hperm, -, rfl⟩ := h
  exact ⟨grants, hperm, rfl⟩

theorem SameButOrder.absorb {α : Type} {reply reply' : Reply α} (h : r.SameButOrder r')
    (hreply : reply.SameButOrder reply') : (r.absorb reply).SameButOrder (r'.absorb reply') := by
  obtain ⟨-, ⟨grants, hperm, htable⟩, hactions, hfailures⟩ := hreply
  obtain ⟨_, failures, -, hfailed, rfl⟩ := h
  refine ⟨grants, _, hperm, hfailed.append hfailures, ?_⟩
  unfold TableRun.absorb
  rw [hactions, htable]

theorem SameButOrder.withTable {u u' : SlotTable} (h : r.SameButOrder r') (hu : u.SameButOrder u') :
    SameButOrder { r with table := u } { r' with table := u' } := by
  obtain ⟨grants, hperm, rfl⟩ := hu
  obtain ⟨_, failures, -, hfailed, rfl⟩ := h
  exact ⟨grants, failures, hperm, hfailed, rfl⟩

theorem SameButOrder.onMemory (h : r.SameButOrder r') (grant : Nat) (f : ManagedMemory → Unit × ManagedMemory) :
    ((r.onMemory grant f).elim r (·.2)).SameButOrder ((r'.onMemory grant f).elim r' (·.2)) := by
  have hkept := h
  obtain ⟨grants, failures, -, -, rfl⟩ := hkept
  unfold TableRun.onMemory SlotTable.onMemory awaiting
  dsimp only
  cases r.table.retired.get? grant with
  | some s =>
    exact h.withTable (h.table.map (f := fun t =>
      { t with retired := t.retired.insert grant { s with memory := (f s.memory).2 } }) fun _ => rfl)
  | none =>
    cases r.table.slots.values.find? (·.grant = grant) with
    | none => exact h
    | some s =>
      exact h.withTable (h.table.map (f := fun t =>
        { t with slots := t.slots.insert s.allocation { s with memory := (f s.memory).2 } }) fun _ => rfl)

/-- Whatever happens later makes no other difference. -/
theorem SameButOrder.undergo (h : r.SameButOrder r') (happening : Happening) :
    (r.undergo happening).SameButOrder (r'.undergo happening) := by
  have hkept := h
  obtain ⟨grants, failures, hperm, hfailed, rfl⟩ := hkept
  cases happening with
  | tick ms => exact ⟨grants, failures, hperm, hfailed, rfl⟩
  | expiry a =>
    exact h.absorb (h.table.reply (f := fun t => t.expireOne r.now a) fun _ => expireOne_awaiting)
  | straggler a ticket =>
    exact h.absorb (h.table.reply (f := fun t => t.expireLate a ticket) fun _ => expireLate_awaiting)
  | teardown grant =>
    exact h.withTable (h.table.map (f := fun t => t.settleOne r.now grant) fun _ => settleOne_awaiting)
  | finish => exact h.withTable h.table.finishClose
  | memory grant use => exact h.onMemory grant _
  | cancel => exact h.withTable (h.table.map (f := SlotTable.cancelTimers) fun _ => rfl)

theorem SameButOrder.after (h : r.SameButOrder r') (e : TableEvent) : (r.after e).SameButOrder (r'.after e) := by
  have hkept := h
  obtain ⟨grants, failures, hperm, hfailed, rfl⟩ := hkept
  cases e with
  | operation op => exact h.absorb (h.table.run r.now op)
  | closing order =>
    show SameButOrder (if order.isPerm r.table.slots.keys then _ else _)
      (if order.isPerm r.table.slots.keys then _ else _)
    split
    · exact h.absorb (h.table.closeInOrder r.now order)
    · exact h
  | happening happening => exact h.undergo happening
  | take => exact ⟨grants, failures, hperm, hfailed, rfl⟩
  | leave => exact ⟨grants, failures, hperm, hfailed, rfl⟩

theorem SameButOrder.afterAll (h : r.SameButOrder r') (events : List TableEvent) :
    (r.afterAll events).SameButOrder (r'.afterAll events) := by
  induction events generalizing r r' with
  | nil => exact h
  | cons e rest ih => exact ih (h.after e)

theorem SameButOrder.background (h : r.SameButOrder r') : r.background.SameButOrder r'.background := by
  have hkept := h
  obtain ⟨grants, failures, -, -, rfl⟩ := hkept
  have hexpired := h.absorb (h.table.reply (f := fun t => t.expire r.now) fun _ => rfl)
  have hsettled := hexpired.table.map (f := fun t => { t with retired := t.retired.map (·.settle r.now) })
    fun _ => rfl
  exact hexpired.withTable hsettled.finishClose

theorem SameButOrder.wake (h : r.SameButOrder r') (time : Nat) :
    (Timed.wake time r).SameButOrder (Timed.wake time r') := by
  refine SameButOrder.background ?_
  obtain ⟨grants, failures, hperm, hfailed, rfl⟩ := h
  exact ⟨grants, failures, hperm, hfailed, rfl⟩

/-- As time passes, both tables stop at the same times, and do the same there. -/
theorem SameButOrder.advanceTo (h : r.SameButOrder r') (limit fuel : Nat) :
    (Timed.advanceTo limit fuel r).SameButOrder (Timed.advanceTo limit fuel r') := by
  induction fuel generalizing r r' with
  | zero => exact h.wake limit
  | succ fuel ih =>
    have hnext : Timed.next? r' = Timed.next? r := by
      obtain ⟨grants, failures, -, -, rfl⟩ := h
      rfl
    unfold Timed.advanceTo
    rw [hnext]
    cases Timed.next? r with
    | none => exact h.wake limit
    | some time =>
      dsimp only
      split
      · exact ih (h.wake time)
      · exact h.wake limit

theorem SameButOrder.advance (h : r.SameButOrder r') (ms : UInt64) :
    (Timed.advance ms r).SameButOrder (Timed.advance ms r') := by
  have hadvanced := h.advanceTo (Timed.now r + ms.toNat) (Timed.pending r)
  obtain ⟨grants, failures, -, -, rfl⟩ := h
  exact hadvanced

/-! ## Every run -/

/-- Two slots are freed, one after the other, with the same outcome in either order. -/
structure FreedInEitherOrder (r : TableRun) (a b : AllocationId) (cause cause' : String) : Prop where
  table : ((r.perform (.free b cause')).2.perform (.free a cause)).2.table =
    ((r.perform (.free a cause)).2.perform (.free b cause')).2.table
  run : ((r.perform (.free a cause)).2.perform (.free b cause')).2.SameButOrder
    ((r.perform (.free b cause')).2.perform (.free a cause)).2
  /-- What is told of a slot is the same, whichever is freed first. -/
  first : ((r.perform (.free b cause')).2.perform (.free a cause)).1 = (r.perform (.free a cause)).1
  second : ((r.perform (.free a cause)).2.perform (.free b cause')).1 = (r.perform (.free b cause')).1

/-- Freeing a slot asks nothing of the owner. -/
theorem perform_free (r : TableRun) (a : AllocationId) (cause : String) :
    (r.perform (.free a cause)).2 =
      { r with
        table := (r.table.free r.now a cause).table
        failures := r.failures ++ (r.table.free r.now a cause).failures } := by
  show r.absorb (r.table.free r.now a cause) = _
  unfold TableRun.absorb
  rw [free_actions]
  simp

theorem freedInEitherOrder (h : r.table.Sound) (hgranted : r.table.Granted) {a b : AllocationId} (hne : a ≠ b)
    (cause cause' : String) : r.FreedInEitherOrder a b cause cause' := by
  obtain ⟨htable, hfirst, hfailures⟩ := h.free_comm hgranted hne r.now cause cause'
  obtain ⟨-, hsecond, hfailures'⟩ := h.free_comm hgranted (Ne.symm hne) r.now cause' cause
  refine ⟨htable.symm, ?_, hfirst, hsecond⟩
  rw [perform_free, perform_free, perform_free, perform_free]
  dsimp only
  rw [htable, hfailures, hfailures']
  refine ⟨_, _, .refl _, ?_, rfl⟩
  dsimp only
  rw [List.append_assoc, List.append_assoc]
  exact List.perm_append_comm.append_left _

end TableRun

open TableRun

/-- In every run of a table, closing it in any two orders makes no difference but the order in which tasks are
told to fail and slots are awaited, whatever happens later: it is closed by the same events and at the same
time. And two slots are freed in either order. -/
theorem close_orders_of_new {config : TableConfig} {timers : Timers AllocationId} {table : SlotTable}
    (hnew : SlotTable.new config timers = .ok table) (listening : Bool) (history : List TableEvent) :
    let r := (TableRun.new table listening).afterAll history
    (∀ order order' later, order.Perm r.table.slots.keys → order'.Perm r.table.slots.keys →
      let closed := (r.after (.closing order)).afterAll later
      let closed' := (r.after (.closing order')).afterAll later
      closed.SameButOrder closed' ∧ (∀ ms, (Timed.advance ms closed).SameButOrder (Timed.advance ms closed')) ∧
        closed'.table.isClosed = closed.table.isClosed ∧ closed'.now = closed.now) ∧
    ∀ a b cause cause', a ≠ b → r.FreedInEitherOrder a b cause cause' := by
  intro r
  have hsound : r.table.Sound := (Sound.ofNew hnew listening history).1
  have hgranted : r.table.Granted :=
    (Granted.new hnew).afterAll (r := .new table listening) (Sound.new hnew).1 history
  refine ⟨fun order order' later horder horder' => ?_,
    fun a b cause cause' hne => freedInEitherOrder hsound hgranted hne cause cause'⟩
  have hclosing : (r.after (.closing order)).SameButOrder (r.after (.closing order')) := by
    unfold TableRun.after
    simp only [List.isPerm_iff.2 horder, List.isPerm_iff.2 horder', ↓reduceIte]
    exact (SameButOrder.refl r).absorb (hsound.closeInOrder_perm hgranted horder horder' r.now)
  have hlater := hclosing.afterAll later
  refine ⟨hlater, hlater.advance, ?_, ?_⟩
  · obtain ⟨grants, -, hsame⟩ := hlater.table
    rw [hsame]
    rfl
  · obtain ⟨grants, failures, -, -, hsame⟩ := hlater
    rw [hsame]

/-- A job has a slot without tasks and one with a task. Whichever is asked back first, the table is closed when
the task is gone. -/
theorem close_orders_of_new_shared : ∃ table,
    SlotTable.new (.evenlyDivided 2 TableConfig.standardProfile) (.new 0) = .ok table ∧
    let r := (TableRun.new table true).afterAll
      [.operation .start, .operation (.allocate ⟨.fixed 0, ⟨0⟩, ⟨1⟩, none, 5⟩),
        .operation (.allocate ⟨.fixed 1, ⟨0⟩, ⟨2⟩, none, 5⟩), .operation (.markActive ⟨2⟩),
        .operation (.addTask ⟨⟨7⟩, ⟨0⟩, ⟨2⟩⟩)]
    let later : List TableEvent := [.operation (.removeTask ⟨7⟩), .take, .operation (.free ⟨2⟩ ""),
      .happening .finish]
    let closed := (r.after (.closing [⟨1⟩, ⟨2⟩])).afterAll later
    let closed' := (r.after (.closing [⟨2⟩, ⟨1⟩])).afterAll later
    closed.table.awaited = [0, 1] ∧ closed'.table.awaited = [1, 0] ∧ closed'.table.isClosed = true ∧
      closed.SameButOrder closed' ∧ closed'.table.isClosed = closed.table.isClosed ∧
      r.FreedInEitherOrder ⟨1⟩ ⟨2⟩ "" "" := by
  have hnew : SlotTable.new (.evenlyDivided 2 TableConfig.standardProfile) (.new 0) = .ok _ := rfl
  refine ⟨_, hnew, ?_⟩
  intro r later closed closed'
  obtain ⟨hclose, hfree⟩ := close_orders_of_new hnew true
    [.operation .start, .operation (.allocate ⟨.fixed 0, ⟨0⟩, ⟨1⟩, none, 5⟩),
      .operation (.allocate ⟨.fixed 1, ⟨0⟩, ⟨2⟩, none, 5⟩), .operation (.markActive ⟨2⟩),
      .operation (.addTask ⟨⟨7⟩, ⟨0⟩, ⟨2⟩⟩)]
  obtain ⟨hsame, -, hclosed, -⟩ := hclose [⟨1⟩, ⟨2⟩] [⟨2⟩, ⟨1⟩] later
    (List.isPerm_iff.1 (by decide +kernel)) (List.isPerm_iff.1 (by decide +kernel))
  exact ⟨by decide +kernel, by decide +kernel, by decide +kernel, hsame, hclosed,
    hfree ⟨1⟩ ⟨2⟩ "" "" (by decide)⟩

end WorkerSlots
