import WorkerSlots.Proofs.Runs

/-!
# Where a registered timeout comes from

* `TableOperation.armed?` : the timeout that an operation registers, if it succeeds;
* `Carried` : a registration that was there before, for the slot that was there before;
* `Armed` : a registration that an event has made, for a slot that is not claimed;
* `Step.registration`, `registers_of_moves` : every registration is one or the other;
* `Ticketed` : tickets are numbered in the order of their registrations, and no two are equal;
* `Idle` : a table whose timers cannot be started any more is never used.
-/

namespace WorkerSlots

/-- The timeout that an operation registers if it succeeds. -/
def TableOperation.armed? : TableOperation → Option (AllocationId × UInt64)
  | allocate request => some (request.allocation, request.timeoutMs)
  | markInactive allocation timeoutMs => some (allocation, timeoutMs)
  | _ => none

namespace Timers

variable {K : Type} [Ord K] [Std.TransOrd K] [Std.LawfulEqOrd K]
  {t t' : Timers K} {now : Nat} {key : K} {ticket : Ticket}

omit [Std.TransOrd K] [Std.LawfulEqOrd K] in
theorem start_eq_ok (h : t.start = .ok t') :
    t.cancelled = false ∧ t.started = false ∧ t' = { t with started := true } := by
  unfold start at h
  split at h
  · cases h
  · rename_i hcancelled
    split at h
    · cases h
    · rename_i hstarted
      exact ⟨by simpa using hcancelled, by simpa using hstarted, (Except.ok.inj h).symm⟩

theorem register_eq_ok {delay : UInt64} (h : t.register now key delay = .ok (ticket, t')) :
    t' = { t with
      registrations := t.registrations.insert key ⟨⟨t.service, t.issued⟩, now + delay.toNat, false⟩
      issued := t.issued + 1 } := by
  unfold register at h
  split at h
  · cases h
  · split at h
    · cases h
    · exact (Prod.mk.inj (Except.ok.inj h)).2.symm

/-- A registration is refused once the service is stopped, and before it is started. -/
theorem register_eq_error_iff {delay : UInt64} {error : TimerError} :
    t.register now key delay = .error error ↔
      t.cancelled = true ∧ error = .stopped ∨
        t.cancelled = false ∧ t.started = false ∧ error = .notStarted := by
  unfold register
  cases t.cancelled <;> cases t.started <;> simp [eq_comm]

theorem register_of_cancelled {delay : UInt64} (h : t.cancelled = true) :
    t.register now key delay = .error .stopped :=
  register_eq_error_iff.2 (.inl ⟨h, rfl⟩)

theorem deliver?_eq_some [DecidableEq K] (h : t.deliver? now key = some (ticket, t')) :
    ∃ reg, t.registrations.get? key = some reg ∧ reg.ticket = ticket ∧ reg.deadline ≤ now ∧
      t' = { t with registrations := t.registrations.insert key { reg with expired := true } } := by
  unfold deliver? at h
  split at h
  · rename_i reg hreg
    split at h
    · rename_i hdue
      obtain ⟨rfl, rfl⟩ := Prod.mk.inj (Option.some.inj h)
      exact ⟨reg, hreg, rfl, hdue.2.2, rfl⟩
    · cases h
  · cases h

end Timers

namespace SlotTable

/-- The registered timeout of an allocation. -/
def registration? (t : SlotTable) (a : AllocationId) : Option Registration :=
  t.timers.registrations.get? a

/-- A registration that was there before. If its slot was not active before, it is the same slot, and is
not active. -/
def Carried (t t' : SlotTable) (a : AllocationId) (reg' : Registration) : Prop :=
  ∃ reg, t.registration? a = some reg ∧ reg'.ticket = reg.ticket ∧ reg'.deadline = reg.deadline ∧
    (reg.expired = true → reg'.expired = true) ∧
    ∀ s, t.slots.get? a = some s → s.state ≠ .active →
      ∃ s', t'.slots.get? a = some s' ∧ s'.grant = s.grant ∧ s'.state ≠ .active

/-- A registration that an operation has made, with the next ticket, for an allocated slot. -/
def Armed (now : Nat) (t : SlotTable) (e : TableEvent) (t' : SlotTable) (a : AllocationId)
    (reg' : Registration) : Prop :=
  ∃ op ms, e = .operation op ∧ op.armed? = some (a, ms) ∧
    reg' = ⟨⟨t.timers.service, t.timers.issued⟩, now + ms.toNat, false⟩ ∧
    t'.timers.issued = t.timers.issued + 1 ∧
    ∃ s', t'.slots.get? a = some s' ∧ s'.state = .allocated

variable {t t' u : SlotTable} {now : Nat} {e : TableEvent} {actions : List SlotAction}
  {failures : List TaskFailure} {a : AllocationId} {reg reg' : Registration}

theorem Carried.refl (h : t.registration? a = some reg) : Carried t t a reg :=
  ⟨reg, h, rfl, rfl, id, fun s hs hstate => ⟨s, hs, rfl, hstate⟩⟩

theorem Carried.trans (h : Carried t u a reg) (hu : u.registration? a = some reg)
    (h' : Carried u t' a reg') : Carried t t' a reg' := by
  obtain ⟨reg₁, hreg₁, hticket₁, hdeadline₁, hexpired₁, hslot₁⟩ := h
  obtain ⟨reg₂, hreg₂, hticket₂, hdeadline₂, hexpired₂, hslot₂⟩ := h'
  rw [hu] at hreg₂
  obtain rfl := Option.some.inj hreg₂
  refine ⟨reg₁, hreg₁, hticket₂.trans hticket₁, hdeadline₂.trans hdeadline₁,
    fun hx => hexpired₂ (hexpired₁ hx), fun s hs hstate => ?_⟩
  obtain ⟨s₁, hs₁, hgrant₁, hstate₁⟩ := hslot₁ s hs hstate
  obtain ⟨s₂, hs₂, hgrant₂, hstate₂⟩ := hslot₂ s₁ hs₁ hstate₁
  exact ⟨s₂, hs₂, hgrant₂.trans hgrant₁, hstate₂⟩

theorem Carried.same (hreg : t'.registration? a = t.registration? a)
    (hs : t'.slots.get? a = t.slots.get? a) (h : t'.registration? a = some reg') :
    Carried t t' a reg' := by
  rw [hreg] at h
  refine ⟨reg', h, rfl, rfl, id, fun s hlive hstate => ⟨s, ?_, rfl, hstate⟩⟩
  rw [hs]
  exact hlive

/-- A slot is replaced by another version of itself, which is active only if the slot was. -/
theorem Carried.replaced {b : AllocationId} {s s' : TaskSlot} (hlive : t.slots.get? b = some s)
    (hs : t'.slots = t.slots.insert b s') (hgrant : s'.grant = s.grant)
    (hstate : s.state ≠ .active → s'.state ≠ .active) (hreg : t'.timers = t.timers)
    (h : t'.registration? a = some reg') : Carried t t' a reg' := by
  have hreg' : t'.registration? a = t.registration? a := by
    unfold registration?
    rw [hreg]
  by_cases ha : a = b
  · subst ha
    rw [hreg'] at h
    refine ⟨reg', h, rfl, rfl, id, fun x hx hinactive => ?_⟩
    rw [hlive] at hx
    obtain rfl := Option.some.inj hx
    exact ⟨s', by rw [hs, SortedMap.get?_insert_self], hgrant, hstate hinactive⟩
  · refine .same hreg' ?_ h
    rw [hs, SortedMap.get?_insert, if_neg ha]

/-- The timeout of an allocation is taken back, and all others stay. -/
theorem Carried.unregistered {b : AllocationId} (ht : t'.timers = t.timers.unregister b)
    (hs : ∀ c ≠ b, t'.slots.get? c = t.slots.get? c) (h : t'.registration? a = some reg') :
    Carried t t' a reg' := by
  have hregs : t'.registration? a = if a = b then none else t.registration? a := by
    unfold registration?
    rw [ht]
    exact SortedMap.get?_erase _ _ _
  by_cases ha : a = b
  · rw [hregs, if_pos ha] at h
    cases h
  · rw [if_neg ha] at hregs
    exact .same hregs (hs a ha) h

/-- A timeout is registered for an allocation, and all others stay. -/
theorem carried_or_registered {b : AllocationId} {new : Registration}
    (h : t'.registration? a = some reg')
    (ht : t'.timers.registrations = t.timers.registrations.insert b new)
    (hs : ∀ c ≠ b, t'.slots.get? c = t.slots.get? c) :
    Carried t t' a reg' ∨ a = b ∧ reg' = new := by
  have hregs : t'.registration? a = if a = b then some new else t.registration? a := by
    unfold registration?
    rw [ht, SortedMap.get?_insert]
  by_cases ha : a = b
  · rw [hregs, if_pos ha] at h
    exact .inr ⟨ha, (Option.some.inj h).symm⟩
  · rw [if_neg ha] at hregs
    exact .inl (.same hregs (hs a ha) h)

theorem Step.registration (h : Step now t e actions failures t')
    (hreg : t'.registration? a = some reg') : Carried t t' a reg' ∨ Armed now t e t' a reg' := by
  cases h with
  | start hstate htimers =>
    obtain ⟨-, -, rfl⟩ := Timers.start_eq_ok htimers
    exact .inl (.same rfl rfl hreg)
  | @grant request next budget ticket timers s hstate hfree hnext hbudget htimers hslot =>
    obtain ⟨-, -, -, -, hallocation, hallocated, -⟩ := TaskSlot.new?_eq_some hslot
    have hslots : ∀ c, (t.insertSlot s).slots.get? c =
        if c = request.allocation then some s else t.slots.get? c := by
      intro c
      rw [← hallocation]
      exact SortedMap.get?_insert _ _ _ _
    obtain rfl := Timers.register_eq_ok htimers
    have hothers : ∀ c ≠ request.allocation, (t.insertSlot s).slots.get? c = t.slots.get? c :=
      fun c hc => by rw [hslots, if_neg hc]
    obtain hcarried | ⟨rfl, rfl⟩ := carried_or_registered hreg rfl hothers
    · exact .inl hcarried
    · refine .inr ⟨_, request.timeoutMs, rfl, rfl, rfl, rfl, s, ?_, hallocated⟩
      exact (hslots _).trans (if_pos rfl)
  | @activate _ s he hlive hallocated =>
    refine .inl (.unregistered rfl (fun c hc => ?_) hreg)
    rw [SortedMap.get?_insert, if_neg hc]
  | @deactivate s timeoutMs ticket timers hlive hactive htimers =>
    obtain rfl := Timers.register_eq_ok htimers
    have hothers : ∀ c ≠ s.allocation,
        (t.slots.insert s.allocation { s with state := .allocated }).get? c = t.slots.get? c :=
      fun c hc => by rw [SortedMap.get?_insert, if_neg hc]
    obtain hcarried | ⟨rfl, rfl⟩ := carried_or_registered hreg rfl hothers
    · exact .inl hcarried
    · exact .inr ⟨_, timeoutMs, rfl, rfl, rfl, rfl, _, SortedMap.get?_insert_self _ _ _, rfl⟩
  | deactivateUntimed hlive hactive =>
    exact .inl (.replaced hlive rfl rfl (fun hne => absurd hactive hne) rfl hreg)
  | @retire s cause as budget hlive =>
    refine .inl (.unregistered rfl (fun c hc => ?_) hreg)
    rw [SortedMap.get?_erase, if_neg hc]
  | @drain s cause hlive =>
    refine .inl (.replaced hlive rfl (TaskSlot.SameGrant.close s now cause).grant (fun _ => ?_) rfl hreg)
    rw [TaskSlot.close_state]
    nofun
  | bind hstate hlive => exact .inl (.replaced hlive rfl rfl id rfl hreg)
  | unbind hlive howner htask =>
    obtain ⟨-, rfl⟩ := TaskSlot.remove?_eq_some_iff.1 htask
    exact .inl (.replaced hlive rfl rfl id rfl hreg)
  | @expire b ticket timers htimers =>
    obtain ⟨reg, hold, -, -, rfl⟩ := Timers.deliver?_eq_some htimers
    unfold registration? at hreg
    dsimp only at hreg
    rw [SortedMap.get?_insert] at hreg
    split at hreg
    · rename_i ha
      subst ha
      obtain rfl := Option.some.inj hreg
      exact .inl ⟨reg, hold, rfl, rfl, fun _ => rfl, fun s hs hstate => ⟨s, hs, rfl, hstate⟩⟩
    · exact .inl ⟨reg', hreg, rfl, rfl, id, fun s hs hstate => ⟨s, hs, rfl, hstate⟩⟩
  | useLive hlive => exact .inl (.replaced hlive rfl rfl id rfl hreg)
  | notify => exact .inl (.refl hreg)
  | straggle => exact .inl (.refl hreg)
  | closeUnstarted => exact .inl (.same rfl rfl hreg)
  | beginClose => exact .inl (.same rfl rfl hreg)
  | awaitAll => exact .inl (.same rfl rfl hreg)
  | teardown => exact .inl (.same rfl rfl hreg)
  | finish => exact .inl (.same rfl rfl hreg)
  | useRetired => exact .inl (.same rfl rfl hreg)
  | cancel => exact .inl (.same rfl rfl hreg)

theorem Step.timers_le (h : Step now t e actions failures t') :
    t'.timers.service = t.timers.service ∧ t.timers.issued ≤ t'.timers.issued ∧
      (t.timers.cancelled = true → t'.timers.cancelled = true) := by
  cases h with
  | start hstate htimers =>
    obtain ⟨-, -, rfl⟩ := Timers.start_eq_ok htimers
    exact ⟨rfl, Nat.le_refl _, id⟩
  | grant hstate hfree hnext hbudget htimers =>
    obtain rfl := Timers.register_eq_ok htimers
    exact ⟨rfl, Nat.le_succ _, id⟩
  | deactivate hlive hactive htimers =>
    obtain rfl := Timers.register_eq_ok htimers
    exact ⟨rfl, Nat.le_succ _, id⟩
  | expire htimers =>
    obtain ⟨_, -, -, -, rfl⟩ := Timers.deliver?_eq_some htimers
    exact ⟨rfl, Nat.le_refl _, id⟩
  | finish => exact ⟨rfl, Nat.le_refl _, fun _ => rfl⟩
  | cancel => exact ⟨rfl, Nat.le_refl _, fun _ => rfl⟩
  | activate | deactivateUntimed | retire | drain | bind | unbind | notify | closeUnstarted | beginClose
  | awaitAll | straggle | teardown | useLive | useRetired =>
    exact ⟨rfl, Nat.le_refl _, id⟩

/-! ## What an event does to the registrations -/

/-- An event leaves a registration as it was, or has made it with the next ticket. -/
structure Registers (now : Nat) (t : SlotTable) (e : TableEvent) (t' : SlotTable) : Prop where
  service : t'.timers.service = t.timers.service
  issued : t.timers.issued ≤ t'.timers.issued
  cancelled : t.timers.cancelled = true → t'.timers.cancelled = true
  origin : ∀ {a reg'}, t'.registration? a = some reg' →
    Carried t t' a reg' ∨ Armed now t e t' a reg'

theorem Registers.same (h : t'.timers = t.timers) (hs : t'.slots = t.slots) : Registers now t e t' := by
  refine ⟨?_, ?_, ?_, fun {a reg'} hreg => .inl (.same ?_ ?_ hreg)⟩
  · rw [h]
  · exact Nat.le_of_eq (congrArg Timers.issued h.symm)
  · rw [h]
    exact id
  · unfold registration?
    rw [h]
  · rw [hs]

theorem Step.registers (h : Step now t e actions failures t') : Registers now t e t' :=
  ⟨h.timers_le.1, h.timers_le.2.1, h.timers_le.2.2, h.registration⟩

theorem Registers.then_closing {p : TableEvent} (h : Registers now t e u) (he : e.Closes)
    (hp : p.IsOfClosing) (hclosing : Registers now u p t') : Registers now t e t' := by
  refine ⟨hclosing.service.trans h.service, Nat.le_trans h.issued hclosing.issued,
    fun hc => hclosing.cancelled (h.cancelled hc), fun {a reg'} hreg' => ?_⟩
  obtain hcarried | ⟨op, ms, rfl, harmed, -⟩ := hclosing.origin hreg'
  · obtain ⟨reg, hreg, -⟩ := id hcarried
    obtain hcarried₀ | ⟨op, ms, rfl, harmed, -⟩ := h.origin hreg
    · exact .inl (hcarried₀.trans hreg hcarried)
    · rcases he with he | ⟨order, he⟩ <;> cases he
      cases harmed
  · rcases hp with hp | ⟨b, hp⟩ <;> cases hp <;> cases harmed

theorem registers_of_moves {r r' : TableRun} (h : r.Moves e r') :
    Registers r.now r.table e r'.table :=
  h.lift (fun _ _ => .same rfl rfl) (fun hstep => hstep.registers)
    fun he hp hu hv => hu.then_closing he hp hv

/-! ## Tickets -/

/-- Tickets are those issued so far, and no two registrations have the same. -/
structure Ticketed (t : SlotTable) : Prop where
  issued : ∀ {a reg}, t.registration? a = some reg →
    reg.ticket.service = t.timers.service ∧ reg.ticket.number < t.timers.issued
  unique : ∀ {a b reg reg'}, t.registration? a = some reg → t.registration? b = some reg' →
    reg.ticket = reg'.ticket → a = b

theorem Ticketed.after (h : t.Ticketed) (hchange : Registers now t e t') : t'.Ticketed := by
  have hold : ∀ {a reg}, Carried t t' a reg →
      reg.ticket.service = t.timers.service ∧ reg.ticket.number < t.timers.issued := by
    rintro a reg ⟨reg₀, hreg₀, hticket, -, -⟩
    rw [hticket]
    exact h.issued hreg₀
  -- a ticket just issued is none of the earlier ones
  have hnew : ∀ {a b reg reg'}, Armed now t e t' a reg → Carried t t' b reg' →
      reg.ticket ≠ reg'.ticket := by
    rintro a b reg reg' ⟨_, _, -, -, rfl, -⟩ hcarried hticket
    have := (hold hcarried).2
    rw [← hticket] at this
    exact absurd this (Nat.lt_irrefl _)
  refine ⟨fun {a reg} hreg => ?_, fun {a b reg reg'} ha hb hticket => ?_⟩
  · rw [hchange.service]
    obtain hcarried | ⟨_, _, -, -, rfl, hissued, -⟩ := hchange.origin hreg
    · have := hold hcarried
      exact ⟨this.1, Nat.lt_of_lt_of_le this.2 hchange.issued⟩
    · refine ⟨rfl, ?_⟩
      dsimp only
      omega
  · obtain hca | haa := hchange.origin ha <;> obtain hcb | hab := hchange.origin hb
    · obtain ⟨reg₁, hreg₁, hticket₁, -⟩ := hca
      obtain ⟨reg₂, hreg₂, hticket₂, -⟩ := hcb
      exact h.unique hreg₁ hreg₂ (hticket₁.symm.trans (hticket.trans hticket₂))
    · exact absurd hticket.symm (hnew hab hca)
    · exact absurd hticket (hnew haa hcb)
    · obtain ⟨op, ms, rfl, harmed, -⟩ := haa
      obtain ⟨op', ms', heq, harmed', -⟩ := hab
      obtain rfl := TableEvent.operation.inj heq
      rw [harmed] at harmed'
      exact (Prod.mk.inj (Option.some.inj harmed')).1

/-! ## Tables that cannot be started -/

/-- A table that is not in use, and whose timers cannot be started. -/
structure Idle (t : SlotTable) : Prop where
  state : t.state = .created ∨ t.state = .closed
  timers : t.timers.started = true ∨ t.timers.cancelled = true
  slots : ∀ a, t.slots.get? a = none

theorem Idle.not_running (h : t.Idle) : t.state ≠ .running := by
  rcases h.state with hs | hs <;> rw [hs] <;> nofun

theorem Idle.not_closing (h : t.Idle) : t.state ≠ .closing := by
  rcases h.state with hs | hs <;> rw [hs] <;> nofun

theorem Idle.not_live (h : t.Idle) {a : AllocationId} {s : TaskSlot} : t.slots.get? a ≠ some s := by
  rw [h.slots a]
  nofun

theorem Idle.step (h : t.Idle) (hstep : Step now t e actions failures t') : t'.Idle := by
  cases hstep with
  | start hstate htimers =>
    obtain ⟨hcancelled, hstarted, -⟩ := Timers.start_eq_ok htimers
    rcases h.timers with hx | hx
    · rw [hstarted] at hx
      cases hx
    · rw [hcancelled] at hx
      cases hx
  | grant hstate | bind hstate | beginClose hstate => exact absurd hstate h.not_running
  | awaitAll hstate | finish hstate => exact absurd hstate h.not_closing
  | activate _ hlive | deactivate hlive | deactivateUntimed hlive | retire hlive | drain hlive
  | unbind hlive | useLive hlive => exact absurd hlive h.not_live
  | expire htimers =>
    obtain ⟨reg, -, -, -, rfl⟩ := Timers.deliver?_eq_some htimers
    exact ⟨h.state, h.timers, h.slots⟩
  | closeUnstarted => exact ⟨.inr rfl, h.timers, h.slots⟩
  | cancel => exact ⟨h.state, .inr rfl, h.slots⟩
  | notify | straggle | teardown | useRetired => exact ⟨h.state, h.timers, h.slots⟩

section Beginning

variable {config : TableConfig} {timers : Timers AllocationId} {table : SlotTable}

/-- A table over timers that have been used before is never running. -/
theorem Idle.ofNew (hnew : new config timers = .ok table)
    (hused : timers.started = true ∨ timers.cancelled = true) (listening : Bool)
    (events : List TableEvent) : ((TableRun.new table listening).afterAll events).table.Idle := by
  have hsound := (Sound.new hnew).1
  have hidle : table.Idle := by
    refine ⟨.inl (of_new hnew).1, ?_, hsound.fresh (of_new hnew).1⟩
    rw [(of_new hnew).2]
    exact hused
  have hkept := TableRun.afterAll_keeps (P := fun r => r.table.Sound ∧ r.table.Idle)
    (fun r e h => ⟨(h.1.after e).1, (TableRun.after_moves h.1 e).keeps
      (fun hstep ht => ht.step hstep) h.2⟩)
    (r := TableRun.new table listening) ⟨hsound, hidle⟩ events
  exact hkept.2

/-- A table that has been running at some time had no registrations at first, if there are none in timers
that were never started. -/
theorem registration?_eq_none_of_running (hnew : new config timers = .ok table)
    (hunused : timers.started = false → timers.registrations = .empty) {listening : Bool}
    {events : List TableEvent}
    (hrunning : ((TableRun.new table listening).afterAll events).table.state = .running)
    (a : AllocationId) : table.registration? a = none := by
  have hstarted : timers.started = false := by
    cases hused : timers.started with
    | false => rfl
    | true => exact absurd hrunning (Idle.ofNew hnew (.inl hused) listening events).not_running
  unfold registration?
  rw [(of_new hnew).2, hunused hstarted]
  rfl

end Beginning

end SlotTable

end WorkerSlots
