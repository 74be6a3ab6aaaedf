import WorkerSlots.Proofs.Timeouts

/-!
# No slot stays unclaimed

* `Covered` : while a table runs, every slot that is not claimed has a timeout, and if the timeout has
  expired, its owner will hear of it;
* `Step.covered`, `Attended.after` : what happens to a table keeps this, as long as nobody stops the
  timers;
* `Attended.heed` : a supervisor keeps it, although it takes up what the table asks for: it frees the slot
  whose timeout it takes up, or another timeout is the current one.
-/

namespace WorkerSlots

open SlotTable

namespace SlotTable

/-! ## Covered tables -/

/-- While the table runs, its timers run, and every slot that is not claimed has a registered timeout; of an
expired one, the owner has heard or is about to hear. -/
def Covered (t : SlotTable) (heard : AllocationId → Ticket → Prop) : Prop :=
  t.state = .running → t.timers.started = true ∧ t.timers.cancelled = false ∧
    ∀ a s, t.slots.get? a = some s → s.state = .allocated →
      ∃ reg, t.registration? a = some reg ∧ (reg.expired = true → heard a reg.ticket)

variable {t t' : SlotTable} {now : Nat} {e : TableEvent} {actions : List SlotAction}
  {failures : List TaskFailure} {heard heard' : AllocationId → Ticket → Prop}

theorem Covered.mono (h : t.Covered heard) (himp : ∀ a k, heard a k → heard' a k) :
    t.Covered heard' := by
  intro hstate
  obtain ⟨hstarted, hrunning, hslots⟩ := h hstate
  refine ⟨hstarted, hrunning, fun a s hs hallocated => ?_⟩
  obtain ⟨reg, hreg, hexpired⟩ := hslots a s hs hallocated
  exact ⟨reg, hreg, fun hx => himp _ _ (hexpired hx)⟩

theorem Covered.of_not_running (h : t.state ≠ .running) : t.Covered heard :=
  fun hstate => absurd hstate h

/-- A change that adds no slot to those which are not claimed and keeps the timeouts of these. -/
theorem Covered.keep (h : t.Covered heard) (hstate : t'.state = .running → t.state = .running)
    (hstarted : t'.timers.started = t.timers.started)
    (hcancelled : t'.timers.cancelled = t.timers.cancelled)
    (hslots : ∀ a s', t'.slots.get? a = some s' → s'.state = .allocated →
      t'.registration? a = t.registration? a ∧ ∃ s, t.slots.get? a = some s ∧ s.state = .allocated) :
    t'.Covered heard := by
  intro hstate'
  obtain ⟨hs, hc, hcovered⟩ := h (hstate hstate')
  refine ⟨hstarted.trans hs, hcancelled.trans hc, fun a s' hs' hallocated => ?_⟩
  obtain ⟨hreg, s, hlive, hallocated'⟩ := hslots a s' hs' hallocated
  rw [hreg]
  exact hcovered a s hlive hallocated'

/-- A slot is replaced by another version, which is not claimed only if the slot was not. -/
theorem Covered.replace (h : t.Covered heard) {b : AllocationId} {s s' : TaskSlot}
    (hlive : t.slots.get? b = some s) (hs : t'.slots = t.slots.insert b s')
    (hstate : t'.state = t.state) (htimers : t'.timers = t.timers)
    (hallocated : s'.state = .allocated → s.state = .allocated) : t'.Covered heard := by
  refine h.keep (fun hr => hstate ▸ hr) (by rw [htimers]) (by rw [htimers]) fun a x hx hxa => ?_
  refine ⟨by unfold registration?; rw [htimers], ?_⟩
  rw [hs, SortedMap.get?_insert] at hx
  split at hx
  · rename_i ha
    obtain rfl := Option.some.inj hx
    rw [ha]
    exact ⟨s, hlive, hallocated hxa⟩
  · exact ⟨x, hx, hxa⟩

/-- A slot that is not claimed gets a new timeout. -/
theorem Covered.register (h : t.Covered heard) {b : AllocationId} {s : TaskSlot}
    {registration : Registration} (hslots : t'.slots = t.slots.insert b s)
    (hstate : t'.state = t.state) (hstarted : t'.timers.started = t.timers.started)
    (hcancelled : t'.timers.cancelled = t.timers.cancelled)
    (hregs : t'.timers.registrations = t.timers.registrations.insert b registration)
    (hnew : registration.expired = false) : t'.Covered heard := by
  intro hrunning
  obtain ⟨hs, hc, hcovered⟩ := h (hstate ▸ hrunning)
  refine ⟨hstarted.trans hs, hcancelled.trans hc, fun a x hx hallocated => ?_⟩
  unfold registration?
  rw [hregs, SortedMap.get?_insert]
  rw [hslots, SortedMap.get?_insert] at hx
  by_cases ha : a = b
  · rw [if_pos ha]
    refine ⟨registration, rfl, fun hexpired => ?_⟩
    rw [hnew] at hexpired
    cases hexpired
  · rw [if_neg ha] at hx ⊢
    exact hcovered a x hx hallocated

/-- A slot leaves those which are not claimed, and its timeout is taken back. -/
theorem Covered.unregister (h : t.Covered heard) {b : AllocationId}
    (hslots : ∀ a ≠ b, t'.slots.get? a = t.slots.get? a)
    (hb : ∀ s, t'.slots.get? b = some s → s.state ≠ .allocated) (hstate : t'.state = t.state)
    (htimers : t'.timers = t.timers.unregister b) : t'.Covered heard := by
  refine h.keep (fun hr => hstate ▸ hr) (by rw [htimers]; rfl) (by rw [htimers]; rfl)
    fun a s hs hallocated => ?_
  have ha : a ≠ b := by
    rintro rfl
    exact hb s hs hallocated
  refine ⟨?_, s, ?_, hallocated⟩
  · unfold registration?
    rw [htimers]
    exact (SortedMap.get?_erase _ _ _).trans (if_neg ha)
  · rw [← hslots a ha]
    exact hs

/-- Nobody is left out by a change, if the owner hears what the table asks for. -/
theorem Step.covered (h : Step now t e actions failures t') (hsound : t.Sound)
    (hcancel : e ≠ .happening .cancel) (hcovered : t.Covered heard) :
    t'.Covered fun a k => heard a k ∨ .timeout a k ∈ actions := by
  have hc : t.Covered fun a k => heard a k ∨ .timeout a k ∈ actions := hcovered.mono fun _ _ => .inl
  cases h with
  | start hstate htimers =>
    obtain ⟨hcancelled, -, rfl⟩ := Timers.start_eq_ok htimers
    refine fun _ => ⟨rfl, hcancelled, fun a s hs => ?_⟩
    rw [hsound.fresh hstate] at hs
    cases hs
  | @grant request _ _ _ _ s hstate hfree hnext hbudget htimers hslot =>
    obtain ⟨-, -, -, -, hallocation, -⟩ := TaskSlot.new?_eq_some hslot
    obtain rfl := Timers.register_eq_ok htimers
    have hslots : (t.insertSlot s).slots = t.slots.insert request.allocation s := by
      unfold insertSlot
      rw [hallocation]
    exact hc.register hslots rfl rfl rfl rfl rfl
  | @activate _ s he hlive hallocated =>
    refine hc.unregister (fun a ha => ?_) (fun x hx => ?_) rfl rfl
    · rw [SortedMap.get?_insert, if_neg ha]
    · rw [SortedMap.get?_insert_self] at hx
      obtain rfl := Option.some.inj hx
      nofun
  | deactivate hlive hactive htimers =>
    obtain rfl := Timers.register_eq_ok htimers
    exact hc.register rfl rfl rfl rfl rfl rfl
  | deactivateUntimed hlive hactive htimers =>
    -- while the table runs, so do its timers
    refine Covered.of_not_running fun hstate => ?_
    obtain ⟨hstarted, hrunning, -⟩ := hcovered hstate
    rcases Timers.register_eq_error_iff.1 htimers with ⟨hx, -⟩ | ⟨-, hx, -⟩
    · rw [hrunning] at hx
      cases hx
    · rw [hstarted] at hx
      cases hx
  | retire hlive =>
    refine hc.unregister (fun a ha => ?_) (fun x hx => ?_) rfl rfl
    · rw [SortedMap.get?_erase, if_neg ha]
    · rw [SortedMap.get?_erase_self] at hx
      cases hx
  | drain hlive =>
    refine hc.replace hlive rfl rfl rfl fun hx => ?_
    rw [TaskSlot.close_state] at hx
    cases hx
  | bind hstate hlive => exact hc.replace hlive rfl rfl rfl id
  | unbind hlive howner htask =>
    obtain ⟨-, rfl⟩ := TaskSlot.remove?_eq_some_iff.1 htask
    refine Covered.replace ?_ hlive rfl rfl rfl id
    exact hc
  | @expire b ticket timers htimers =>
    obtain ⟨reg, hreg, rfl, -, rfl⟩ := Timers.deliver?_eq_some htimers
    intro hstate
    obtain ⟨hstarted, hrunning, hslots⟩ := hcovered hstate
    refine ⟨hstarted, hrunning, fun a s hs hallocated => ?_⟩
    unfold registration?
    rw [SortedMap.get?_insert]
    by_cases ha : a = b
    · -- the owner is being told
      rw [if_pos ha]
      refine ⟨_, rfl, fun _ => .inr ?_⟩
      unfold timeoutActions
      rw [if_pos (hsound.bound hstate), ha]
      exact List.mem_singleton.2 rfl
    · rw [if_neg ha]
      obtain ⟨reg', hreg', hexpired⟩ := hslots a s hs hallocated
      exact ⟨reg', hreg', fun hx => .inl (hexpired hx)⟩
  | useLive hlive => exact hc.replace hlive rfl rfl rfl id
  | closeUnstarted => exact .of_not_running nofun
  | beginClose => exact .of_not_running nofun
  | awaitAll hstate => exact .of_not_running (by rw [hstate]; nofun)
  | finish => exact .of_not_running nofun
  | cancel => exact absurd rfl hcancel
  | notify => exact hc
  | straggle => exact hc
  | teardown => exact hc
  | useRetired => exact hc

theorem Step.closed (h : Step now t e actions failures t') (hclosed : t.state = .closed) :
    t'.state = .closed := by
  cases h with
  | start hstate | grant hstate | bind hstate | beginClose hstate =>
    rw [hclosed] at hstate
    cases hstate
  | closeUnstarted | finish => rfl
  | activate | deactivate | deactivateUntimed | retire | drain | unbind | notify | awaitAll | expire
  | straggle | teardown | useLive | useRetired | cancel => exact hclosed

theorem Steps.covered {parts : List TableEvent} (h : Steps now t parts actions failures t')
    (hparts : e.Parts parts) (hsound : t.Sound) (hcancel : e ≠ .happening .cancel)
    (hcovered : t.Covered heard) : t'.Covered fun a k => heard a k ∨ .timeout a k ∈ actions := by
  have hall := h.lift (R := fun t e actions t' => e ≠ .happening .cancel → t.Sound → t'.Sound ∧
      ∀ {heard}, t.Covered heard → t'.Covered fun a k => heard a k ∨ .timeout a k ∈ actions) hparts
    (fun t e _ hs => ⟨hs, fun hc => hc.mono fun _ _ => .inl⟩)
    (fun hstep he hs => ⟨hs.step hstep, hstep.covered hs he⟩)
    (fun {t u v e p as bs} _ hp hu hv he hs => by
      obtain ⟨hus, huc⟩ := hu he hs
      have hpcancel : p ≠ .happening .cancel := by
        rcases hp with rfl | ⟨a, rfl⟩ <;> nofun
      obtain ⟨hvs, hvc⟩ := hv hpcancel hus
      refine ⟨hvs, fun hc => (hvc (huc hc)).mono fun a k hx => ?_⟩
      rw [List.mem_append, ← or_assoc]
      exact hx)
  exact (hall hcancel hsound).2 hcovered

end SlotTable

/-! ## Attended tables -/

/-- The owner of a table listens until the table is closed, and the table is covered by what waits for the
owner and what it has taken up. -/
structure TableRun.Attended (r : TableRun) (taken : List SlotAction) : Prop where
  listening : r.listening = false → r.table.state = .closed
  covered : r.table.Covered fun a k => .timeout a k ∈ taken ++ r.queue

namespace TableRun

variable {r r' : TableRun} {e : TableEvent} {taken : List SlotAction}

theorem Attended.of_closed (h : r.table.state = .closed) : r.Attended taken :=
  ⟨fun _ => h, .of_not_running (by rw [h]; nofun)⟩

theorem Attended.after (h : r.Attended taken) (hsound : r.table.Sound)
    (hchannel : e.isChannel = false) (hcancel : e ≠ .happening .cancel) :
    (r.after e).Attended taken := by
  have hmoves := after_moves hsound e
  generalize r.after e = r' at hmoves
  cases hmoves with
  | tick => exact ⟨h.listening, h.covered⟩
  | take => cases hchannel
  | leave => cases hchannel
  | @change _ parts actions failures table hparts hsteps =>
    cases hlistening : r.listening with
    | false =>
      have hmoves : r.Moves e (r.absorb ⟨.ok PUnit.unit, table, actions, failures⟩) :=
        .change hparts hsteps
      exact .of_closed (hmoves.keeps (P := fun t => t.state = .closed) Step.closed
        (h.listening hlistening))
    | true =>
      refine ⟨fun hl => ?_, (hsteps.covered hparts hsound hcancel h.covered).mono fun a k hx => ?_⟩
      · change r.listening = false at hl
        rw [hlistening] at hl
        cases hl
      · unfold absorb
        dsimp only
        rw [if_pos hlistening, ← List.append_assoc, List.mem_append]
        exact hx

theorem Attended.afterAll (h : r.Attended taken) (hsound : r.table.Sound) {events : List TableEvent}
    (hchannel : ∀ e ∈ events, e.isChannel = false) (hcancel : .happening .cancel ∉ events) :
    (r.afterAll events).Attended taken := by
  induction events generalizing r with
  | nil => exact h
  | cons e rest ih =>
    have he : e ≠ .happening .cancel := fun he => hcancel (he ▸ List.mem_cons_self)
    exact ih (h.after hsound (hchannel e List.mem_cons_self) he) (hsound.after e).1
      (fun e' he' => hchannel e' (List.mem_cons_of_mem _ he'))
      fun hrest => hcancel (List.mem_cons_of_mem _ hrest)

theorem Attended.take {x : SlotAction} {queue : List SlotAction} (h : r.Attended [])
    (hqueue : r.queue = x :: queue) : (r.after .take).Attended [x] := by
  refine ⟨h.listening, h.covered.mono fun a k hx => ?_⟩
  unfold TableRun.after
  rw [hqueue] at hx ⊢
  exact hx

/-- What was taken up may be forgotten once it does not concern a slot that is not claimed. -/
theorem Attended.forget {x : SlotAction} (h : r.Attended [x])
    (hx : ∀ a k, x = .timeout a k → r.table.state = .running → ∀ s reg,
      r.table.slots.get? a = some s → s.state = .allocated → r.table.registration? a = some reg →
      reg.ticket ≠ k) : r.Attended [] := by
  refine ⟨h.listening, fun hstate => ?_⟩
  obtain ⟨hstarted, hrunning, hslots⟩ := h.covered hstate
  refine ⟨hstarted, hrunning, fun a s hs hallocated => ?_⟩
  obtain ⟨reg, hreg, hexpired⟩ := hslots a s hs hallocated
  refine ⟨reg, hreg, fun hover => ?_⟩
  rcases List.mem_cons.1 (hexpired hover) with heq | hmem
  · exact absurd rfl (hx a reg.ticket heq.symm hstate s reg hs hallocated hreg)
  · exact hmem

theorem isValidTimeout_eq_true_iff {t : SlotTable} {a : AllocationId} {k : Ticket} :
    t.isValidTimeout a k = .ok true ↔ t.state = .running ∧ t.timers.cancelled = false ∧
      ∃ reg, t.registration? a = some reg ∧ reg.ticket = k := by
  unfold isValidTimeout Timers.isValid
  constructor
  · intro h
    split at h
    · have hall := Except.ok.inj h
      rw [Bool.and_eq_true, Bool.and_eq_true, Option.any_eq_true] at hall
      obtain ⟨hstate, hcancelled, reg, hreg, hticket⟩ := hall
      exact ⟨of_decide_eq_true hstate, by simpa using hcancelled, reg, hreg,
        of_decide_eq_true hticket⟩
    · cases h
  · rintro ⟨hstate, hcancelled, reg, hreg, hticket⟩
    have hreg' : t.timers.registrations.get? a = some reg := hreg
    rw [hstate, hcancelled, hreg']
    simp [TableState.isStarted, hticket]

/-- A supervisor that heeds what it has taken up leaves nobody out. -/
theorem Attended.heed {x : SlotAction} (h : r.Attended [x]) (hsound : r.table.Sound) :
    (r.afterAll (Supervisor.heedEvents r.table x)).Attended [] := by
  cases x with
  | free a =>
    refine Attended.forget (h.afterAll hsound ?_ ?_) nofun
    · intro e he
      rw [List.mem_singleton.1 he]
      rfl
    · exact fun hmem => nomatch List.mem_singleton.1 hmem
  | timeout a k =>
    unfold Supervisor.heedEvents
    dsimp only
    split
    · -- the slot is freed, so that it is not one that is not claimed
      refine Attended.forget (x := .timeout a k) (h.afterAll hsound ?_ ?_) ?_
      · intro e he
        rw [List.mem_singleton.1 he]
        rfl
      · exact fun hmem => nomatch List.mem_singleton.1 hmem
      · rintro b l heq - s reg hs hallocated -
        obtain ⟨rfl, rfl⟩ := SlotAction.timeout.inj heq
        have hreleasing := (hsound.free_state r.now hs).1
        rw [hallocated] at hreleasing
        cases hreleasing
    · rename_i hvalid
      -- another timeout is the current one
      refine Attended.forget h fun b l heq hstate s reg hs hallocated hreg hticket => ?_
      obtain ⟨rfl, rfl⟩ := SlotAction.timeout.inj heq
      obtain ⟨-, hrunning, -⟩ := h.covered hstate
      exact hvalid (isValidTimeout_eq_true_iff.2 ⟨hstate, hrunning, reg, hreg, hticket⟩)

end TableRun

end WorkerSlots
