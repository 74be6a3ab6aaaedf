import Mathlib.Data.List.Induction
import WorkerSlots.Proofs.Registrations

/-!
# Timeouts in a run

* `Standing` : a timeout that an operation of a run has registered, and whose slot has been the same and
  not active since. Every registration is of this kind (`standing_of_registration`);
* `Spent` : a ticket that is not going to be issued any more, and whose timeout is over if it is still
  registered;
* `Unforged` : whoever tells the owner of a timeout has its ticket from elsewhere, or has been told of it;
* `Told` : every ticket of which the owner has been told is spent.
-/

namespace WorkerSlots

open SlotTable

namespace SlotTable

/-! ## Why an owner is told of a timeout -/

/-- Somebody tells the owner of a timeout, or a registered one is over, or one of the past is still under
way. -/
inductive TimeoutSource (now : Nat) (t : SlotTable) (e : TableEvent) (a : AllocationId)
    (ticket : Ticket) : Prop where
  | notified (h : e = .operation (.notifyTimeout a ticket))
  | due {reg : Registration} (hreg : t.registration? a = some reg) (hticket : reg.ticket = ticket)
      (hover : reg.deadline ≤ now)
  | past (h : t.timers.isPast ticket = true)

variable {t t' : SlotTable} {now : Nat} {e : TableEvent} {actions : List SlotAction}
  {failures : List TaskFailure}

theorem mem_timeoutActions {b : AllocationId} {k : Ticket} {x : SlotAction}
    (h : x ∈ t.timeoutActions [(b, k)]) : x = .timeout b k := by
  unfold timeoutActions at h
  split at h
  · exact List.mem_singleton.1 h
  · cases h

theorem Step.timeoutSource (h : Step now t e actions failures t') {a : AllocationId}
    {ticket : Ticket} (hmem : .timeout a ticket ∈ actions) : TimeoutSource now t e a ticket := by
  cases h with
  | notify =>
    obtain ⟨rfl, rfl⟩ := SlotAction.timeout.inj (mem_timeoutActions hmem)
    exact .notified rfl
  | expire htimers =>
    obtain ⟨rfl, rfl⟩ := SlotAction.timeout.inj (mem_timeoutActions hmem)
    obtain ⟨reg, hreg, hticket, hover, -⟩ := Timers.deliver?_eq_some htimers
    exact .due hreg hticket hover
  | straggle hpast =>
    obtain ⟨rfl, rfl⟩ := SlotAction.timeout.inj (mem_timeoutActions hmem)
    exact .past hpast
  | unbind =>
    split at hmem
    · cases List.mem_singleton.1 hmem
    · cases hmem
  | start | grant | activate | deactivate | deactivateUntimed | retire | drain | bind | closeUnstarted
  | beginClose | awaitAll | teardown | finish | useLive | useRetired | cancel => cases hmem

theorem Step.actions_of_closing (h : Step now t e actions failures t') (he : e.IsOfClosing) :
    actions = [] := by
  rcases he with rfl | ⟨a, rfl⟩
  · cases h with
    | activate he => rcases he with he | ⟨_, he⟩ <;> cases he
    | closeUnstarted | beginClose | awaitAll => rfl
  · cases h with
    | activate he => rcases he with he | ⟨_, he⟩ <;> cases he
    | retire | drain => rfl

theorem Steps.timeoutSource {parts : List TableEvent} (h : Steps now t parts actions failures t')
    (hparts : e.Parts parts) {a : AllocationId} {ticket : Ticket}
    (hmem : .timeout a ticket ∈ actions) : TimeoutSource now t e a ticket := by
  have hall := h.lift (R := fun t e actions _ => (e.IsOfClosing → actions = []) ∧
      ∀ a ticket, .timeout a ticket ∈ actions → TimeoutSource now t e a ticket) hparts
    (fun _ _ => ⟨fun _ => rfl, nofun⟩)
    (fun hstep => ⟨hstep.actions_of_closing, fun _ _ => hstep.timeoutSource⟩)
    (fun {t u v e p as bs} _ hp hu hv => by
      rw [hv.1 hp, List.append_nil]
      exact hu)
  exact hall.2 a ticket hmem

end SlotTable

namespace TableRun

/-! ## Registrations and their slots -/

/-- An operation of the run registered the timeout, with a new ticket, for a slot that has been the
allocation's and not active since. -/
def Standing (start : TableRun) (history : List TableEvent) (a : AllocationId) (ticket : Ticket)
    (deadline : Nat) : Prop :=
  ∃ before op rest ms grant, history = before ++ .operation op :: rest ∧
    op.armed? = some (a, ms) ∧
    ticket.number = (start.afterAll before).table.timers.issued ∧
    deadline = (start.afterAll before).now + ms.toNat ∧
    (start.afterAll (before ++ [.operation op])).table.registration? a =
      some ⟨ticket, deadline, false⟩ ∧
    ∀ done left, rest = done ++ left →
      ∃ s, (start.afterAll (before ++ .operation op :: done)).table.slot? a = some s ∧
        s.grant = grant ∧ s.state ≠ .active

variable {start : TableRun} {history : List TableEvent} {a : AllocationId} {ticket : Ticket}
  {deadline : Nat}

/-- The slot of a timeout that stands is there, and not active. -/
theorem Standing.exists_slot (h : Standing start history a ticket deadline) :
    ∃ s, (start.afterAll history).table.slot? a = some s ∧ s.state ≠ .active := by
  obtain ⟨before, op, rest, ms, grant, rfl, -, -, -, -, hslot⟩ := h
  obtain ⟨s, hs, -, hstate⟩ := hslot rest [] (List.append_nil _).symm
  exact ⟨s, hs, hstate⟩

/-- A registration that is carried over still stands. -/
theorem Standing.concat (h : Standing start history a ticket deadline) {e : TableEvent}
    (hcarried : ∀ s, (start.afterAll history).table.slot? a = some s → s.state ≠ .active →
      ∃ s', (start.afterAll (history ++ [e])).table.slot? a = some s' ∧ s'.grant = s.grant ∧
        s'.state ≠ .active) : Standing start (history ++ [e]) a ticket deadline := by
  obtain ⟨before, op, rest, ms, grant, rfl, harmed, hissued, hdeadline, hreg, hslot⟩ := h
  refine ⟨before, op, rest ++ [e], ms, grant, by rw [List.append_assoc, List.cons_append], harmed,
    hissued, hdeadline, hreg, fun done left hsplit => ?_⟩
  rcases List.eq_nil_or_concat left with rfl | ⟨left', x, rfl⟩
  · -- up to the event that was added
    obtain ⟨s, hs, hgrant, hstate⟩ := hslot rest [] (List.append_nil _).symm
    obtain ⟨s', hs', hgrant', hstate'⟩ := hcarried s hs hstate
    rw [List.append_nil] at hsplit
    rw [← hsplit, ← List.cons_append, ← List.append_assoc]
    exact ⟨s', hs', hgrant'.trans hgrant, hstate'⟩
  · rw [List.concat_eq_append, ← List.append_assoc] at hsplit
    exact hslot done left' (List.append_inj_left' hsplit rfl)

/-- Every registration stands, if there is none at the beginning. -/
theorem standing_of_registration (hsound : start.table.Sound)
    (hnone : ∀ a, start.table.registration? a = none) {reg : Registration}
    (hreg : (start.afterAll history).table.registration? a = some reg) :
    Standing start history a reg.ticket reg.deadline := by
  induction history using List.reverseRecOn generalizing a reg with
  | nil =>
    rw [afterAll_nil, hnone] at hreg
    cases hreg
  | append_singleton history e ih =>
    have hmoves := after_moves (hsound.afterAll history).1 e
    rw [← afterAll_concat] at hmoves
    obtain hcarried | ⟨op, ms, rfl, harmed, rfl, -, s, hs, hstate⟩ :=
      (registers_of_moves hmoves).origin hreg
    · obtain ⟨reg₀, hreg₀, hticket, hdeadline, -, hslot⟩ := hcarried
      rw [hticket, hdeadline]
      exact (ih hreg₀).concat hslot
    · refine ⟨history, op, [], ms, s.grant, rfl, harmed, rfl, rfl, hreg, fun done left hsplit => ?_⟩
      obtain ⟨rfl, -⟩ := List.append_eq_nil_iff.1 hsplit.symm
      exact ⟨s, hs, rfl, by rw [hstate]; nofun⟩

/-! ## Tickets of which the owner has been told -/

/-- A ticket is not going to be issued any more, and if it is that of a registration, its timeout is over. -/
def Spent (r : TableRun) (ticket : Ticket) : Prop :=
  ticket.service = r.table.timers.service → ticket.number < r.table.timers.issued ∧
    (r.table.timers.cancelled = false → ∀ a reg, r.table.registration? a = some reg →
      reg.ticket = ticket → reg.deadline ≤ r.now)

/-- The owner has been told of a timeout with a ticket, or the ticket is of another service. -/
def Knows (r : TableRun) (ticket : Ticket) : Prop :=
  ticket.service = r.table.timers.service → ∃ x ∈ r.asked, ∃ a, x.action = .timeout a ticket

/-- Tickets cannot be made up: whoever tells the owner of a timeout knows its ticket. -/
def Unforged (start : TableRun) (history : List TableEvent) : Prop :=
  ∀ before a ticket rest, history = before ++ .operation (.notifyTimeout a ticket) :: rest →
    (start.afterAll before).Knows ticket

/-- All that waits has been asked for, and every ticket of which the owner has been told is spent. -/
structure Told (r : TableRun) : Prop where
  ticketed : r.table.Ticketed
  asked : ∀ x ∈ r.queue, ∃ y ∈ r.asked, y.action = x
  spent : ∀ x ∈ r.asked, ∀ a ticket, x.action = .timeout a ticket → r.Spent ticket

variable {r r' : TableRun} {e : TableEvent}

theorem Moves.now_le (h : r.Moves e r') : r.now ≤ r'.now := by
  cases h with
  | tick ms => exact Nat.le_add_right _ _
  | take => exact Nat.le_refl _
  | leave => exact Nat.le_refl _
  | change => exact Nat.le_refl _

theorem Spent.after (h : r.Spent ticket) (hmoves : r.Moves e r') : r'.Spent ticket := by
  have hregisters := registers_of_moves hmoves
  intro hservice
  rw [hregisters.service] at hservice
  obtain ⟨hissued, hover⟩ := h hservice
  refine ⟨Nat.lt_of_lt_of_le hissued hregisters.issued, fun hrunning a reg' hreg' hticket => ?_⟩
  have hrunning₀ : r.table.timers.cancelled = false := by
    cases hcancelled : r.table.timers.cancelled with
    | false => rfl
    | true =>
      rw [hregisters.cancelled hcancelled] at hrunning
      cases hrunning
  obtain ⟨reg, hreg, hsame, hdeadline, -⟩ | ⟨_, _, -, -, rfl, -⟩ := hregisters.origin hreg'
  · rw [hdeadline]
    have := hover hrunning₀ a reg hreg (hsame.symm.trans hticket)
    exact Nat.le_trans this hmoves.now_le
  · -- a ticket that was issued before is none that is issued now
    subst hticket
    exact absurd hissued (Nat.lt_irrefl _)

/-- A timeout that is over has a spent ticket: no other registration has the same. -/
theorem Told.spent_of_source (h : r.Told) {a : AllocationId} {ticket : Ticket}
    (hsource : TimeoutSource r.now r.table e a ticket)
    (hknown : e = .operation (.notifyTimeout a ticket) → r.Knows ticket) : r.Spent ticket := by
  intro hservice
  cases hsource with
  | notified he =>
    obtain ⟨x, hx, b, hb⟩ := hknown he hservice
    exact h.spent x hx b ticket hb hservice
  | @due reg hreg hticket hover =>
    subst hticket
    refine ⟨(h.ticketed.issued hreg).2, fun _ b reg' hreg' hsame => ?_⟩
    obtain rfl := h.ticketed.unique hreg hreg' hsame.symm
    rw [hreg] at hreg'
    obtain rfl := Option.some.inj hreg'
    exact hover
  | past hpast =>
    unfold Timers.isPast at hpast
    rw [Bool.and_eq_true, Bool.and_eq_true, Bool.or_eq_true] at hpast
    obtain ⟨⟨-, hissued⟩, hgone⟩ := hpast
    refine ⟨of_decide_eq_true hissued, fun hrunning b reg hreg hticket => ?_⟩
    rcases hgone with hcancelled | hgone
    · rw [hrunning] at hcancelled
      cases hcancelled
    · have hvalue := List.all_eq_true.1 hgone reg (SortedMap.mem_values_iff.2 ⟨b, hreg⟩)
      exact absurd hticket (of_decide_eq_true hvalue)

theorem Told.after (h : r.Told) (hmoves : r.Moves e r')
    (hknown : ∀ a ticket, e = .operation (.notifyTimeout a ticket) → r.Knows ticket) : r'.Told := by
  have hspent : ∀ x ∈ r.asked, ∀ a ticket, x.action = .timeout a ticket → r'.Spent ticket :=
    fun x hx a ticket haction => (h.spent x hx a ticket haction).after hmoves
  have hticketed : r'.table.Ticketed := h.ticketed.after (registers_of_moves hmoves)
  cases hmoves with
  | tick => exact ⟨hticketed, h.asked, hspent⟩
  | take => exact ⟨hticketed, fun x hx => h.asked x (List.mem_of_mem_tail hx), hspent⟩
  | leave => exact ⟨hticketed, nofun, hspent⟩
  | @change _ parts actions failures table hparts hsteps =>
    have hmoves : r.Moves e (r.absorb ⟨.ok PUnit.unit, table, actions, failures⟩) :=
      .change hparts hsteps
    have hnew : ∀ x ∈ (if r.listening then actions else []), x ∈ actions := by
      intro x hx
      split at hx
      · exact hx
      · cases hx
    refine ⟨hticketed, fun x hx => ?_, fun x hx a ticket haction => ?_⟩
    · rcases List.mem_append.1 hx with hx | hx
      · obtain ⟨y, hy, hyx⟩ := h.asked x hx
        exact ⟨y, List.mem_append_left _ hy, hyx⟩
      · exact ⟨⟨r.now, x⟩, List.mem_append_right _ (List.mem_map_of_mem hx), rfl⟩
    · rcases List.mem_append.1 hx with hx | hx
      · exact hspent x hx a ticket haction
      · obtain ⟨action, haction', rfl⟩ := List.mem_map.1 hx
        obtain rfl : action = .timeout a ticket := haction
        have hsource := hsteps.timeoutSource hparts (hnew _ haction')
        exact (h.spent_of_source hsource (hknown a ticket)).after hmoves

/-- The owner is told of spent tickets only, if no ticket is made up. -/
theorem told_afterAll (hsound : start.table.Sound) (htold : start.Told)
    (hunforged : Unforged start history) : (start.afterAll history).Told := by
  induction history using List.reverseRecOn with
  | nil => exact htold
  | append_singleton history e ih =>
    have hmoves := after_moves (hsound.afterAll history).1 e
    rw [← afterAll_concat] at hmoves
    refine (ih fun before a ticket rest heq => ?_).after hmoves fun a ticket he => ?_
    · refine hunforged before a ticket (rest ++ [e]) ?_
      rw [heq, List.append_assoc, List.cons_append]
    · exact hunforged history a ticket [] (by rw [he])

end TableRun

end WorkerSlots
