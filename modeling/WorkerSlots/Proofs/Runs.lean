import WorkerSlots.Proofs.Operations

/-!
# Every run of a table

* `TableRun.Moves` : what an event comes to in time;
* `TableRun.after_moves` : no event comes to anything else, as long as the table is sound;
* `Sound.new` : a table is sound at first, so that it stays sound in every run (`Sound.afterAll`);
* `no_fault_reached` : in no run is a rule of the table's books broken.
-/

namespace WorkerSlots

open SlotTable

namespace TableRun

/-- What an event comes to in time: the time passes, the owner turns to the channel, or the table
changes. -/
inductive Moves (r : TableRun) : TableEvent → TableRun → Prop where
  | tick (ms : Nat) : Moves r (.happening (.tick ms)) { r with now := r.now + ms }
  | take : Moves r .take { r with queue := r.queue.tail }
  | leave : Moves r .leave { r with listening := false, queue := [] }
  | change {e : TableEvent} {parts : List TableEvent} {actions : List SlotAction}
      {failures : List TaskFailure} {table : SlotTable} (hparts : e.Parts parts)
      (hsteps : Steps r.now r.table parts actions failures table) :
      Moves r e (r.absorb ⟨.ok PUnit.unit, table, actions, failures⟩)

/-- A silent change of the table is seen by nobody. -/
theorem absorb_silent {α : Type} (r : TableRun) (result : Except TableError α) (table : SlotTable) :
    r.absorb ⟨result, table, [], []⟩ = { r with table } := by
  simp [absorb]

theorem Moves.of_follows {α : Type} {r : TableRun} {e : TableEvent} {reply : Reply α}
    (h : reply.Follows r.now r.table e) : r.Moves e (r.absorb reply) := by
  obtain ⟨parts, hparts, hsteps⟩ := h.changes
  have heq : r.absorb reply =
      r.absorb ⟨.ok PUnit.unit, reply.table, reply.actions, reply.failures⟩ := rfl
  rw [heq]
  exact .change hparts hsteps

/-- What happens silently, if it happens. -/
theorem Moves.silent {r : TableRun} {e : TableEvent} {table : SlotTable}
    (h : Step r.now r.table e [] [] table) : r.Moves e { r with table } := by
  rw [← r.absorb_silent (.ok PUnit.unit)]
  exact .change (.self e) (.single h)

theorem Moves.nothing (r : TableRun) (e : TableEvent) : r.Moves e r := by
  have h : r.Moves e (r.absorb ⟨.ok PUnit.unit, r.table, [], []⟩) := .change (.none e) (.nil _)
  rw [r.absorb_silent] at h
  exact h

/-! ## What happens without the owner -/

theorem expireOne_follows (t : SlotTable) (now : Nat) (a : AllocationId) :
    (t.expireOne now a).Follows now t (.happening (.expiry a)) := by
  unfold expireOne
  cases htimers : t.timers.deliver? now a with
  | none => exact .answer _
  | some delivered => exact .step (.expire htimers) nofun

theorem expireLate_follows (t : SlotTable) (now : Nat) (a : AllocationId) (ticket : Ticket) :
    (t.expireLate a ticket).Follows now t (.happening (.straggler a ticket)) := by
  unfold expireLate
  by_cases hpast : t.timers.isPast ticket = true
  · rw [if_pos hpast]
    exact .step (.straggle hpast) nofun
  · rw [if_neg hpast]
    exact .answer _

/-- Memory is used of a slot that has left the table, or of a live one. -/
theorem onMemory_moves {r : TableRun} (h : r.table.Books) (grant : Nat) (use : MemoryUse) :
    r.Moves (.happening (.memory grant use)) (r.undergo (.memory grant use)) := by
  unfold undergo TableRun.onMemory SlotTable.onMemory
  dsimp only
  cases hretired : r.table.retired.get? grant with
  | some s => exact .silent (.useRetired hretired)
  | none =>
    cases hfind : r.table.slots.values.find? (·.grant = grant) with
    | none => exact .nothing r _
    | some s =>
      have hgrant : s.grant = grant := by
        have := List.find?_some hfind
        exact of_decide_eq_true this
      obtain ⟨a, hlive⟩ := SortedMap.mem_values_iff.1 (List.mem_of_find?_eq_some hfind)
      obtain rfl := h.keyed hlive
      subst hgrant
      exact .silent (.useLive hlive)

theorem undergo_moves {r : TableRun} (h : r.table.Books) (happening : Happening) :
    r.Moves (.happening happening) (r.undergo happening) := by
  cases happening with
  | tick ms => exact .tick ms
  | expiry a => exact .of_follows (expireOne_follows ..)
  | straggler a ticket => exact .of_follows (expireLate_follows ..)
  | teardown grant =>
    unfold undergo settleOne
    dsimp only
    cases hretired : r.table.retired.get? grant with
    | none => exact .nothing r _
    | some s => exact .silent (.teardown hretired)
  | finish =>
    unfold undergo finishClose
    dsimp only
    by_cases hend : r.table.state = .closing ∧ r.table.awaited.all r.table.isGrantClosed = true
    · rw [if_pos hend]
      exact .silent (.finish hend.1 hend.2)
    · rw [if_neg hend]
      exact .nothing r _
  | memory grant use => exact onMemory_moves h grant use
  | cancel => exact .silent .cancel

/-! ## Every event -/

/-- A sound table undergoes the changes of the event and no others. -/
theorem after_moves {r : TableRun} (h : r.table.Sound) (e : TableEvent) : r.Moves e (r.after e) := by
  cases e with
  | operation op => exact .of_follows (h.run r.now op)
  | closing order =>
    unfold after
    by_cases horder : order.isPerm r.table.slots.keys = true
    · simp only [horder, ↓reduceIte]
      exact .of_follows (h.closeInOrder r.now (List.isPerm_iff.1 horder) fun _ hp => .closing hp)
    · simp only [horder]
      exact .nothing r _
  | happening happening => exact undergo_moves h.toBooks happening
  | take => exact .take
  | leave => exact .leave

variable {r r' : TableRun} {e : TableEvent}

/-- What every change of a table does, an event in time does. -/
theorem Moves.lift {R : SlotTable → TableEvent → SlotTable → Prop} (h : r.Moves e r')
    (hnone : ∀ t e, R t e t)
    (hstep : ∀ {t e actions failures t'}, Step r.now t e actions failures t' → R t e t')
    (hclosing : ∀ {t u v e p}, e.Closes → p.IsOfClosing → R t e u → R u p v → R t e v) :
    R r.table e r'.table := by
  cases h with
  | tick => exact hnone _ _
  | take => exact hnone _ _
  | leave => exact hnone _ _
  | change hparts hsteps =>
    exact hsteps.lift (R := fun t e _ t' => R t e t') hparts hnone hstep hclosing

/-- What every change of a table keeps, every event keeps. -/
theorem Moves.keeps {P : SlotTable → Prop} (h : r.Moves e r')
    (hstep : ∀ {now t u e actions failures}, Step now t e actions failures u → P t → P u)
    (hP : P r.table) : P r'.table :=
  h.lift (R := fun t _ t' => P t → P t') (fun _ _ => id) (fun hs => hstep hs)
    (fun _ _ hu hv ht => hv (hu ht)) hP

end TableRun

namespace SlotTable

open TableRun

theorem Sound.after {r : TableRun} (h : r.table.Sound) (e : TableEvent) :
    (r.after e).table.Sound ∧ (r.after e).table.config = r.table.config := by
  refine (after_moves h e).keeps (P := fun t => t.Sound ∧ t.config = r.table.config)
    (fun hstep ht => ?_) ⟨h, rfl⟩
  exact ⟨ht.1.step hstep, hstep.config.trans ht.2⟩

/-- A sound table stays sound, and keeps its configuration. -/
theorem Sound.afterAll {r : TableRun} (h : r.table.Sound) (events : List TableEvent) :
    (r.afterAll events).table.Sound ∧ (r.afterAll events).table.config = r.table.config := by
  refine afterAll_keeps (P := fun r' => r'.table.Sound ∧ r'.table.config = r.table.config)
    (fun r' e hr' => ?_) ⟨h, rfl⟩ events
  obtain ⟨hsound, hconfig⟩ := hr'.1.after e
  exact ⟨hsound, hconfig.trans hr'.2⟩

/-! ## The beginning -/

variable {config : TableConfig} {timers : Timers AllocationId} {table : SlotTable}

theorem problem?_eq_none_of_new (h : new config timers = .ok table) : config.problem? = none := by
  unfold new at h
  cases hproblem : config.problem? with
  | none => rfl
  | some problem =>
    rw [hproblem] at h
    cases h

/-- There are pages if the configuration has no problem. -/
theorem pageSize_ne_zero (h : config.problem? = none) : config.memoryPageSize ≠ 0 := by
  intro hzero
  unfold TableConfig.problem? at h
  rw [hzero] at h
  split at h
  · cases h
  · cases h

/-- A table just created has no slots, and nothing in its books. -/
theorem eq_of_new (h : SlotTable.new config timers = .ok table) : table = {
    config
    state := .created
    bound := false
    timers
    budget := .new config.totalResources
    slots := .empty
    indices := .empty
    taskOwners := .empty
    jobSlots := .empty
    nextDynamic := config.numberSlots
    grants := 0
    retired := .empty
    awaited := [] } := by
  unfold SlotTable.new at h
  rw [problem?_eq_none_of_new h] at h
  dsimp only at h
  split at h
  · cases h
  · exact (Except.ok.inj h).symm

/-- There is a table by every configuration without a problem, if there can be room for its slots. -/
theorem exists_new (hvalid : config.problem? = none) (hroom : config.numberSlots.toNat ≤ maxSlots)
    (timers : Timers AllocationId) : ∃ table, SlotTable.new config timers = .ok table := by
  unfold SlotTable.new
  rw [hvalid]
  dsimp only
  rw [if_neg (Nat.not_lt.2 hroom)]
  exact ⟨_, rfl⟩

theorem of_new (h : SlotTable.new config timers = .ok table) :
    table.state = .created ∧ table.timers = timers := by
  obtain rfl := eq_of_new h
  exact ⟨rfl, rfl⟩

theorem Sound.new (h : SlotTable.new config timers = .ok table) :
    table.Sound ∧ table.config = config := by
  have hproblem := problem?_eq_none_of_new h
  obtain rfl := eq_of_new h
  refine ⟨⟨⟨nofun, ?_, ?_, nofun, fun d => ?_, fun d => ?_, rfl⟩, ⟨nofun, nofun⟩,
    fun _ _ => rfl, nofun, pageSize_ne_zero hproblem⟩, rfl⟩
  · intro i a
    constructor
    · nofun
    · rintro ⟨s, hs, -⟩
      cases hs
  · intro j a
    constructor
    · nofun
    · rintro ⟨s, hs, -⟩
      cases hs
  · exact ResourceProfile.units_zero d
  · unfold ResourceBudget.new
    rw [ResourceProfile.units_zero]
    exact Nat.zero_le _

theorem Sound.ofNew (h : SlotTable.new config timers = .ok table) (listening : Bool)
    (events : List TableEvent) :
    ((TableRun.new table listening).afterAll events).table.Sound ∧
      ((TableRun.new table listening).afterAll events).table.config = config := by
  obtain ⟨hsound, hconfig⟩ := Sound.new h
  rw [← hconfig]
  exact Sound.afterAll (r := .new table listening) hsound events

/-! ## Faults -/

/-- A valid configuration gives a table, unless it asks for more slots than there can be room for. In no
run of the table does an operation, or a close in any order, come to a fault. -/
theorem no_fault_reached (hvalid : config.problem? = none) (timers : Timers AllocationId) :
    (∀ error, SlotTable.new config timers = .error error →
      error = .broken .tooManySlots ∧ maxSlots < config.numberSlots.toNat) ∧
    ∀ table, SlotTable.new config timers = .ok table →
      ∀ (listening : Bool) (events : List TableEvent) (fault : Fault),
        let r := (TableRun.new table listening).afterAll events
        (∀ op, (TableOperation.run r.now r.table op).result ≠ .error (.broken fault)) ∧
        ∀ order : List AllocationId, order.Perm r.table.slots.keys →
          (r.table.closeInOrder r.now order).result ≠ .error (.broken fault) := by
  refine ⟨fun error herror => ?_, fun table hnew listening events fault => ?_⟩
  · unfold SlotTable.new at herror
    rw [hvalid] at herror
    dsimp only at herror
    split at herror
    · rename_i hroom
      exact ⟨(Except.error.inj herror).symm, hroom⟩
    · cases herror
  · intro r
    have hsound : r.table.Sound := (Sound.ofNew hnew listening events).1
    refine ⟨fun op => (hsound.run r.now op).intact fault, fun order horder => ?_⟩
    exact (hsound.closeInOrder (e := .closing order) r.now horder fun _ hparts =>
      .closing hparts).intact fault

/-- An execution is bound to a second slot, unbound from there, and its first slot is freed. -/
theorem no_fault_reached_rebound : (TableConfig.evenlyDivided 2 TableConfig.standardProfile).problem? = none ∧
    ∃ table, SlotTable.new (.evenlyDivided 2 TableConfig.standardProfile) (.new 0) = .ok table ∧ ∀ fault,
      let r := (TableRun.new table true).afterAll
        [.operation .start, .operation (.allocate ⟨.fixed 0, ⟨0⟩, ⟨1⟩, none, 5⟩),
          .operation (.allocate ⟨.fixed 1, ⟨0⟩, ⟨2⟩, none, 5⟩), .operation (.markActive ⟨1⟩),
          .operation (.markActive ⟨2⟩), .operation (.addTask ⟨⟨7⟩, ⟨0⟩, ⟨1⟩⟩),
          .operation (.addTask ⟨⟨7⟩, ⟨0⟩, ⟨2⟩⟩), .operation (.removeTask ⟨7⟩)]
      (TableOperation.run r.now r.table (.free ⟨1⟩ "")).result ≠ .error (.broken fault) := by
  have hvalid : (TableConfig.evenlyDivided 2 TableConfig.standardProfile).problem? = none := by decide
  refine ⟨hvalid, _, rfl, fun fault => ?_⟩
  exact ((no_fault_reached hvalid (.new 0)).2 _ rfl true _ fault).1 _

end SlotTable

end WorkerSlots
