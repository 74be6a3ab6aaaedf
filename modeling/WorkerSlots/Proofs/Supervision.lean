import WorkerSlots.Proofs.Schedules
import WorkerSlots.Proofs.Unclaimed

/-!
# Timeouts of supervised tables

* `Reached.attended` : in every run of a supervisor, the table is covered by what waits for the supervisor;
* `timeouts_supervised` : a slot is freed for its own timeout only, when it is over, and no slot that is not
  claimed outlives its timeout.
-/

namespace WorkerSlots

open SlotTable

/-! ## Every run of a supervisor -/

namespace TableRun

theorem isChannel_operations {ops : List TableOperation} :
    ∀ e ∈ ops.map TableEvent.operation, e.isChannel = false := by
  intro e he
  obtain ⟨op, -, rfl⟩ := List.mem_map.1 he
  rfl

theorem cancel_not_mem_operations {ops : List TableOperation} :
    .happening .cancel ∉ ops.map TableEvent.operation := by
  intro he
  obtain ⟨op, -, hop⟩ := List.mem_map.1 he
  cases hop

end TableRun

namespace Supervisor

open TableRun

variable {α : Type} {s : Supervisor α} {table : SlotTable} {history : List TableEvent}

/-- Whatever a supervisor does in a turn, nobody is left out. -/
theorem attended_turn (h : s.run.Attended []) (hsound : s.run.table.Sound) :
    (s.run.afterAll s.turnEvents).Attended [] := by
  have hturn := s.turn_cases
  generalize s.turn? = s', s.turnEvents = events at hturn
  cases hturn with
  | stopped | idle => exact h
  | beginClose => exact h.after (e := .operation .close) hsound rfl nofun
  | stop hclosed => exact .of_closed hclosed
  | heed _ hqueue => exact (h.take hqueue).heed hsound
  | answer => exact h.afterAll hsound isChannel_operations cancel_not_mem_operations

theorem Reached.attended (h : Reached table history s) (hsound : table.Sound)
    (hcreated : table.state = .created) (hcancel : .happening .cancel ∉ history) :
    s.run.Attended [] := by
  induction h with
  | begin before hchannel =>
    have hbegin : (TableRun.new table true).Attended [] :=
      ⟨nofun, .of_not_running (by change table.state ≠ _; rw [hcreated]; nofun)⟩
    exact hbegin.afterAll hsound hchannel hcancel
  | @step history s hreached e ih =>
    have hattended := ih fun hmem => hcancel (List.mem_append_left _ hmem)
    have hsound' : s.run.table.Sound := hreached.sound hsound
    rw [after_run]
    cases e with
    | post command => exact hattended
    | turn => exact attended_turn hattended hsound'
    | requestShutdown => exact hattended
    | happening happening =>
      refine hattended.after (e := .happening happening) hsound' rfl fun he => ?_
      exact hcancel (List.mem_append_right _ (he ▸ List.mem_singleton_self _))

/-! ## Taking a timeout up -/

/-- The slot of a timeout that is valid is freed; any other timeout changes nothing. -/
theorem serve?_timeout {a : AllocationId} {ticket : Ticket} {queue : List SlotAction}
    {s' : Supervisor α} (hqueue : s.run.queue = .timeout a ticket :: queue)
    (hserve : s.serve? = some s') :
    (s.run.table.isValidTimeout a ticket = .ok true →
      s'.run = ({ s.run with queue }.perform (.free a unclaimedCause)).2) ∧
    (s.run.table.isValidTimeout a ticket ≠ .ok true → s'.run = { s.run with queue }) := by
  unfold serve? at hserve
  rw [hqueue] at hserve
  obtain rfl := Option.some.inj hserve
  unfold TableRun.heed
  dsimp only
  constructor
  · intro hvalid
    rw [hvalid]
  · intro hinvalid
    split
    · rename_i hvalid
      exact absurd hvalid hinvalid
    · rfl

/-- The turn by which a supervisor stops is taken when its table is closed. -/
theorem closed_of_turn (h : (s.after .turn).phase = .stopped) :
    s.phase = .stopped ∨ (s.after .turn).run.table.state = .closed := by
  have hturn := s.turn_cases
  unfold Supervisor.after at h ⊢
  generalize s.turn? = s', s.turnEvents = events at hturn h ⊢
  cases hturn with
  | stopped hphase => exact .inl hphase
  | beginClose => cases h
  | stop hclosed => exact .inr hclosed
  | idle hphase | heed hphase | answer hphase => exact absurd h hphase

/-- A supervisor has stopped only if its table is closed. -/
theorem Reached.closed_of_stopped (h : Reached table history s) (hsound : table.Sound)
    (hphase : s.phase = .stopped) : s.run.table.state = .closed := by
  induction h with
  | begin before hchannel => cases hphase
  | @step history s hreached e ih =>
    cases e with
    | post command =>
      have hpost : (s.post command).phase = s.phase ∧ (s.post command).run = s.run := by
        unfold post
        cases s.isStopped <;> exact ⟨rfl, rfl⟩
      show (s.post command).run.table.state = .closed
      rw [hpost.2]
      exact ih (hpost.1.symm.trans hphase)
    | requestShutdown => exact ih hphase
    | happening happening =>
      exact (after_moves (hreached.sound hsound) (.happening happening)).keeps (P := fun t => t.state = .closed)
        Step.closed (ih hphase)
    | turn =>
      obtain hwas | hclosed := closed_of_turn hphase
      · rw [after_turn_stopped hwas]
        exact ih hwas
      · exact hclosed

end Supervisor

namespace TableRun

/-- Every slot that is not claimed has a deadline that has not come. -/
def Timely (r : TableRun) : Prop :=
  ∀ a slot, r.table.slot? a = some slot → slot.state = .allocated →
    ∃ deadline, r.table.timers.deadline? a = some deadline ∧ r.now < deadline

/-- Where nobody is left out, all is in time once nothing waits and no timeout is left to be delivered. -/
theorem Attended.timely {r : TableRun} (h : r.Attended []) (hqueue : r.queue = [])
    (hdelivered : r.Delivered) (hstate : r.table.state = .running) : r.Timely := by
  intro a slot hlive hallocated
  obtain ⟨-, hrunning, hslots⟩ := h.covered hstate
  obtain ⟨reg, hreg, hexpired⟩ := hslots a slot hlive hallocated
  have hpending : reg.expired = false := by
    cases hx : reg.expired with
    | false => rfl
    | true =>
      have hmem := hexpired hx
      rw [hqueue] at hmem
      cases hmem
  refine ⟨reg.deadline, ?_, delivered_iff.1 hdelivered a reg hreg hrunning hpending⟩
  have hreg' : r.table.timers.registrations.get? a = some reg := hreg
  unfold Timers.deadline?
  rw [hreg', Option.map_some]

end TableRun

/-! ## The timeouts of a supervised table -/

open Supervisor TableRun

/-- A history in which nobody tells the owner of a timeout makes no tickets up. -/
theorem unforged_of_not_notified {start : TableRun} {history : List TableEvent}
    (h : ∀ a ticket, .operation (.notifyTimeout a ticket) ∉ history) : Unforged start history := by
  rintro before a ticket rest rfl
  exact absurd (List.mem_append_right _ List.mem_cons_self) (h a ticket)

section Supervised

variable {config : TableConfig} {timers : Timers AllocationId} {table : SlotTable} {α : Type}
  {history : List TableEvent} {s : Supervisor α}

/-- The timeout of a valid ticket that the supervisor has been told stands, and is over. -/
theorem exists_standing (hnew : SlotTable.new config timers = .ok table)
    (hunused : timers.started = false → timers.registrations = .empty) (h : Reached table history s)
    {a : AllocationId} {ticket : Ticket} (hqueue : .timeout a ticket ∈ s.run.queue)
    (hvalid : s.run.table.isValidTimeout a ticket = .ok true) :
    ∃ deadline, Standing (.new table true) history a ticket deadline ∧
      (Unforged (.new table true) history → deadline ≤ s.run.now) := by
  have hsound := (Sound.new hnew).1
  obtain ⟨hstate, hcancelled, reg, hreg, rfl⟩ := isValidTimeout_eq_true_iff.1 hvalid
  rw [h.run_eq] at hstate hreg
  have hnone : ∀ b, (TableRun.new table true).table.registration? b = none :=
    registration?_eq_none_of_running hnew hunused hstate
  have hstanding : Standing (.new table true) history a reg.ticket reg.deadline :=
    standing_of_registration hsound hnone hreg
  refine ⟨reg.deadline, hstanding, fun hunforged => ?_⟩
  have hticketed : table.Ticketed :=
    ⟨fun hx => absurd ((hnone _).symm.trans hx) nofun, fun hx => absurd ((hnone _).symm.trans hx) nofun⟩
  have htold : (TableRun.new table true).Told := ⟨hticketed, nofun, nofun⟩
  have htold' : ((TableRun.new table true).afterAll history).Told :=
    told_afterAll hsound htold hunforged
  rw [← h.run_eq] at htold' hreg
  obtain ⟨x, hx, haction⟩ := htold'.asked _ hqueue
  have hspent := htold'.spent x hx a reg.ticket haction (htold'.ticketed.issued hreg).1
  exact hspent.2 hcancelled a reg hreg rfl

/-- No slot that is not claimed outlives its timeout once a supervisor has done all there is to do. -/
theorem timely_settle (h : Reached table history s) (hsound : table.Sound)
    (hcreated : table.state = .created) (hcancel : .happening .cancel ∉ history)
    (hstate : s.settle.run.table.state = .running) : s.settle.run.Timely := by
  obtain ⟨more, hmore, hsettled⟩ := h.settle
  have hcancel' : .happening .cancel ∉ history ++ more := by
    rw [List.mem_append, not_or]
    exact ⟨hcancel, hmore⟩
  obtain hphase | ⟨hqueue, -, hdelivered⟩ := calm_settle (h.sound hsound)
  · rw [hsettled.closed_of_stopped hsound hphase] at hstate
    cases hstate
  · exact (hsettled.attended hsound hcreated hcancel').timely hqueue hdelivered hstate

/-- When a supervisor takes a timeout up and frees a slot for it, the ticket was registered for this very
slot, which has not been active since, and its deadline has come; any other timeout that it takes up
changes nothing. Once nothing waits for the supervisor and no timeout is left to be delivered, which is so
when it has done all there is to do, every slot of a running table that is not claimed has a deadline that
has not come, unless somebody else stopped the timers. -/
theorem timeouts_supervised (hnew : SlotTable.new config timers = .ok table)
    (hunused : timers.started = false → timers.registrations = .empty) (h : Reached table history s) :
    (∀ a ticket queue s', s.run.queue = .timeout a ticket :: queue → s.serve? = some s' →
      (s.run.table.isValidTimeout a ticket = .ok true →
        s'.run = ({ s.run with queue }.perform (.free a unclaimedCause)).2 ∧
        ∃ deadline, Standing (.new table true) history a ticket deadline ∧
          (Unforged (.new table true) history → deadline ≤ s.run.now)) ∧
      (s.run.table.isValidTimeout a ticket ≠ .ok true → s'.run = { s.run with queue })) ∧
    (.happening .cancel ∉ history →
      (s.run.queue = [] → s.run.Delivered → s.run.table.state = .running → s.run.Timely) ∧
      (s.settle.run.table.state = .running → s.settle.run.Timely)) := by
  have hsound := (Sound.new hnew).1
  have hcreated := (of_new hnew).1
  refine ⟨fun a ticket queue s' hqueue hserve => ?_, fun hcancel => ⟨fun hqueue hdelivered hstate => ?_,
    timely_settle h hsound hcreated hcancel⟩⟩
  · obtain ⟨hfreed, hleft⟩ := serve?_timeout hqueue hserve
    refine ⟨fun hvalid => ⟨hfreed hvalid, ?_⟩, hleft⟩
    have hmem : .timeout a ticket ∈ s.run.queue := by
      rw [hqueue]
      exact List.mem_cons_self
    exact exists_standing hnew hunused h hmem hvalid
  · exact (h.attended hsound hcreated hcancel).timely hqueue hdelivered hstate

end Supervised

/-- A slot is granted, and its timeout expires before it is claimed. -/
theorem timeouts_supervised_expired : ∃ table, SlotTable.new .standard (.new 0) = .ok table ∧
    let granted : List TableEvent :=
      [.operation .start, .operation (.allocate ⟨.dynamic, ⟨0⟩, ⟨1⟩, none, 5⟩)]
    let s : Supervisor PUnit := .new ((TableRun.new table true).afterAll granted)
    let s' := (s.after (.happening (.tick 5))).after (.happening (.expiry ⟨1⟩))
    s.run.Timely ∧ s'.run.queue = [.timeout ⟨1⟩ ⟨0, 0⟩] ∧
      ∃ deadline, Standing (.new table true)
        (granted ++ [.happening (.tick 5)] ++ [.happening (.expiry ⟨1⟩)]) ⟨1⟩ ⟨0, 0⟩ deadline ∧
        deadline ≤ s'.run.now := by
  have hnew : SlotTable.new .standard (.new 0) = .ok _ := rfl
  refine ⟨_, rfl, ?_⟩
  intro granted s s'
  have hs : Reached _ granted s := .begin granted (by decide)
  have hs' : Reached _ (granted ++ [.happening (.tick 5)] ++ [.happening (.expiry ⟨1⟩)]) s' :=
    (hs.step (.happening (.tick 5))).step (.happening (.expiry ⟨1⟩))
  have hdelivered : s.run.Delivered := by
    rw [delivered_iff]
    intro a reg hreg _ _
    have hentries : s.run.table.timers.registrations.entries = [(⟨1⟩, ⟨⟨0, 0⟩, 5, false⟩)] := rfl
    have hmem := SortedMap.mem_entries_iff.2 hreg
    rw [hentries] at hmem
    obtain ⟨-, rfl⟩ := Prod.mk.inj (List.mem_singleton.1 hmem)
    decide
  refine ⟨?_, rfl, ?_⟩
  · have hcancel : .happening .cancel ∉ granted := by
      simp [granted]
    exact ((timeouts_supervised hnew (fun _ => rfl) hs).2 hcancel).1 rfl hdelivered rfl
  · obtain ⟨deadline, hstanding, hover⟩ := (((timeouts_supervised hnew (fun _ => rfl) hs').1
      ⟨1⟩ ⟨0, 0⟩ [] _ rfl rfl).1 rfl).2
    refine ⟨deadline, hstanding, hover (unforged_of_not_notified fun a ticket hmem => ?_)⟩
    simp [granted] at hmem

end WorkerSlots
