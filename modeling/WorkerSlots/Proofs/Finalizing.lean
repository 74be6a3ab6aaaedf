import WorkerSlots.Proofs.Agreement
import WorkerSlots.Proofs.Closing
import WorkerSlots.Proofs.Drains
import WorkerSlots.Proofs.Schedules

/-!
# Drained slots are finished

* `Remembered` : a drained slot is known to the owner, by what waits for the owner or what it has just taken up;
* `Remembered.after`, `Remembered.heed` : what happens to a table keeps this, and so does its supervisor;
* `Reached.remembered` : in every run of a supervisor, an action waits for each drained slot;
* `finalizing_of_new` : so no command comes upon a drained slot.
-/

namespace WorkerSlots

open SlotTable TableRun

/-- The owner of a table listens, and there is an action for each drained slot. -/
structure TableRun.Remembered (r : TableRun) (taken : List SlotAction) : Prop where
  listening : r.listening = true
  slots : ∀ {a s}, r.table.slots.get? a = some s → s.IsDrained → .free a ∈ taken ++ r.queue

namespace TableRun

variable {r start : TableRun} {e : TableEvent} {events history : List TableEvent} {a : AllocationId}
  {s : TaskSlot} {taken queue : List SlotAction} {x : SlotAction}

theorem Remembered.after (h : r.Remembered taken) (hsound : r.table.Sound) (hgranted : r.table.Granted)
    (hchannel : e.isChannel = false) : (r.after e).Remembered taken := by
  obtain ⟨hdraining, hlistening, hqueue⟩ := draining_of_after hsound hgranted hchannel
  rw [if_pos h.listening] at hqueue
  refine ⟨hlistening.trans h.listening, fun {a s} hs hdrained => ?_⟩
  rw [hqueue, ← List.append_assoc, List.mem_append]
  obtain ⟨x, hx, hxd, -⟩ | ⟨x, -, -, -, hactions⟩ := hdraining.origin hs hdrained
  · exact .inl (h.slots hx hxd)
  · rw [hactions]
    exact .inr (List.mem_singleton_self _)

theorem Remembered.afterAll (h : r.Remembered taken) (hsound : r.table.Sound)
    (hgranted : r.table.Granted) (hchannel : ∀ e ∈ events, e.isChannel = false) :
    (r.afterAll events).Remembered taken := by
  induction events generalizing r with
  | nil => exact h
  | cons e rest ih =>
    exact ih (h.after hsound hgranted (hchannel e List.mem_cons_self)) (hsound.after e).1
      (hgranted.after hsound e) fun e' he' => hchannel e' (List.mem_cons_of_mem _ he')

theorem Remembered.take (h : r.Remembered []) (hqueue : r.queue = x :: queue) :
    (r.after .take).Remembered [x] := by
  refine ⟨h.listening, fun {a s} hs hdrained => ?_⟩
  have hmem : .free a ∈ r.queue := h.slots hs hdrained
  unfold TableRun.after
  rw [hqueue] at hmem ⊢
  exact hmem

/-- What has been taken up may be forgotten when its slot is drained no more. -/
theorem Remembered.heed (h : r.Remembered [x]) (hsound : r.table.Sound) (hgranted : r.table.Granted) :
    (r.afterAll (Supervisor.heedEvents r.table x)).Remembered [] := by
  have hchannel : ∀ e ∈ Supervisor.heedEvents r.table x, e.isChannel = false := by
    intro e he
    obtain ⟨a, cause, rfl⟩ := Supervisor.mem_heedEvents he
    rfl
  have hkept := h.afterAll hsound hgranted hchannel
  refine ⟨hkept.listening, fun {a s} hs hdrained => ?_⟩
  obtain heq | hmem := List.mem_cons.1 (hkept.slots hs hdrained)
  · -- a slot that was just freed and is still there has tasks
    obtain rfl := heq
    have hbusy := (hsound.free_state r.now hs).2
    rw [hdrained.2] at hbusy
    cases hbusy
  · exact hmem

/-! ## Drained slots that are live no more -/

/-- A drained slot that is live no more has left the table and is being torn down. -/
theorem retired_of_drains {before rest : List TableEvent} {d : TaskSlot} (hsound : start.table.Sound)
    (hgranted : start.table.Granted) (hnone : ∀ g, start.table.retired.get? g = none)
    (hdrains : Drains (start.afterAll before).table e d)
    (hundrained : ∀ a s, (start.afterAll (before ++ e :: rest)).table.slots.get? a = some s → ¬ s.IsDrained) :
    (∀ a s, (start.afterAll (before ++ e :: rest)).table.slots.get? a = some s → s.grant ≠ d.grant) ∧
      ∃ left s, (start.afterAll (before ++ e :: rest)).table.retired.get? d.grant = some s ∧
        d.SameGrant s ∧ Left start (before ++ e :: rest) d.grant left ∧
        s.GivenBack start.table.config.memoryReleaseGraceMs left
          (start.afterAll (before ++ e :: rest)).now := by
  have hsplit : start.afterAll (before ++ e :: rest) = ((start.afterAll before).after e).afterAll rest := by
    rw [afterAll_append, afterAll_cons]
  obtain ⟨x, hx, -, hdrained⟩ | ⟨x, hx, hsame⟩ :=
    fate_of_drains hdrains (hsound.afterAll before).1 (hgranted.afterAll hsound before) rest
  · rw [← hsplit] at hx
    exact absurd hdrained (hundrained _ x hx)
  · rw [← hsplit] at hx
    obtain ⟨left, hleft, hback⟩ := givenBack_of_retired hsound hgranted hnone hx
    refine ⟨fun a s hs hgrant => ?_, left, x, hx, hsame, hleft, hback⟩
    rw [← hgrant, (hgranted.afterAll hsound _).apart hs] at hx
    cases hx

end TableRun

/-! ## Every run of a supervisor -/

namespace Supervisor

variable {α : Type} {s : Supervisor α} {table : SlotTable} {history : List TableEvent}

theorem Reached.granted (h : Reached table history s) (hsound : table.Sound) (hgranted : table.Granted) :
    s.run.table.Granted := by
  rw [h.run_eq]
  exact hgranted.afterAll (r := .new table true) hsound history

/-- As long as a supervisor goes on, it does not forget a slot. -/
theorem remembered_turn (h : s.run.Remembered []) (hsound : s.run.table.Sound)
    (hgranted : s.run.table.Granted) (hphase : (s.after .turn).phase ≠ .stopped) :
    (s.run.afterAll s.turnEvents).Remembered [] := by
  have hturn := s.turn_cases
  unfold Supervisor.after at hphase
  generalize s.turn? = s', s.turnEvents = events at hturn hphase
  cases hturn with
  | stopped | idle => exact h
  | beginClose => exact h.after (e := .operation .close) hsound hgranted rfl
  | stop => exact absurd rfl hphase
  | heed _ hqueue => exact (h.take hqueue).heed hsound hgranted
  | answer =>
    refine h.afterAll hsound hgranted fun e he => ?_
    obtain ⟨op, -, rfl⟩ := List.mem_map.1 he
    rfl

theorem Reached.remembered (h : Reached table history s) (hsound : table.Sound)
    (hgranted : table.Granted) (hnone : ∀ a, table.slots.get? a = none) (hphase : s.phase ≠ .stopped) :
    s.run.Remembered [] := by
  induction h with
  | begin before hchannel =>
    have hbegin : (TableRun.new table true).Remembered [] := by
      refine ⟨rfl, fun {a s} hs => ?_⟩
      have hs : table.slots.get? a = some s := hs
      rw [hnone] at hs
      cases hs
    exact hbegin.afterAll hsound hgranted hchannel
  | @step history s hreached e ih =>
    have hsound' := hreached.sound hsound
    have hgranted' := hreached.granted hsound hgranted
    rw [after_run]
    cases e with
    | post command =>
      have hpost : (s.post command).phase = s.phase := by
        unfold post
        cases s.isStopped <;> rfl
      exact ih fun hstopped => hphase (hpost.trans hstopped)
    | turn =>
      refine remembered_turn (ih fun hstopped => hphase ?_) hsound' hgranted' hphase
      rw [after_turn_stopped hstopped]
      exact hstopped
    | requestShutdown => exact ih hphase
    | happening happening => exact (ih hphase).after (e := .happening happening) hsound' hgranted' rfl

/-- A command is carried out when nothing waits that the table has asked for. -/
theorem rest_of_answer {call : Call α} {inbox : List (Call α)} (hinbox : s.inbox = call :: inbox)
    (h : s.turn? = some ({ s with inbox }.answer call)) : s.phase ≠ .stopped ∧ s.run.queue = [] := by
  have hphase : s.phase ≠ .stopped := by
    intro hstopped
    unfold turn? at h
    rw [hstopped] at h
    cases h
  have hne : s.inbox ≠ inbox := by
    rw [hinbox]
    exact List.cons_ne_self call inbox
  refine ⟨hphase, ?_⟩
  have hturn := s.turn_cases
  generalize hs' : s.turn? = s', s.turnEvents = events at hturn
  rw [h] at hs'
  cases hturn with
  | stopped hstopped => exact absurd hstopped hphase
  | idle => cases hs'
  | beginClose => exact absurd (congrArg Supervisor.inbox (Option.some.inj hs').symm) hne
  | stop => exact absurd (congrArg Supervisor.phase (Option.some.inj hs')) hphase
  | heed => exact absurd (congrArg Supervisor.inbox (Option.some.inj hs').symm) hne
  | answer _ hqueue => exact hqueue

/-- A command comes upon no drained slot. -/
theorem Reached.undrained (h : Reached table history s) (hsound : table.Sound) (hgranted : table.Granted)
    (hnone : ∀ a, table.slots.get? a = none) {call : Call α} {inbox : List (Call α)}
    (hinbox : s.inbox = call :: inbox) (hturn : s.turn? = some ({ s with inbox }.answer call)) :
    ∀ a slot, s.run.table.slots.get? a = some slot → ¬ slot.IsDrained := by
  obtain ⟨hphase, hqueue⟩ := rest_of_answer hinbox hturn
  intro a slot hs hdrained
  have hmem := (h.remembered hsound hgranted hnone hphase).slots hs hdrained
  rw [hqueue] at hmem
  cases hmem

end Supervisor

section Finalizing

open Supervisor

variable {config : TableConfig} {timers : Timers AllocationId} {table : SlotTable} {α : Type}

/-- In every run of a table, the owner is asked to finish a slot by the event that takes the last task out of
a slot to be given back, at once, by no other event, and never again for the same grant. So every drained slot
was drained by an event of the run, and as long as the owner listens, the action keeps its place in the queue
until the owner takes it up. A supervisor that goes on has such an action for each drained slot. When it is
about to carry a command out, no slot is drained: each slot that was has left the table, whose books describe
the live slots only, and is being torn down. -/
theorem finalizing_of_new (hnew : SlotTable.new config timers = .ok table) :
    (∀ (listening : Bool) (events : List TableEvent),
      let start := TableRun.new table listening
      let r := start.afterAll events
      (∀ e, (∀ a, .free a ∈ r.askedBy e ↔ ∃ s, s.allocation = a ∧ Drains r.table e s) ∧
        ∀ s, Drains r.table e s → r.askedBy e = [.free s.allocation] ∧
          ∀ more e' s', Drains ((r.after e).afterAll more).table e' s' → s'.grant ≠ s.grant) ∧
      ∀ a s, r.table.slots.get? a = some s → s.IsDrained →
        ∃ before e rest d, events = before ++ e :: rest ∧ d.allocation = a ∧
          Drains (start.afterAll before).table e d ∧ d.Later s ∧
          (listening = true → .leave ∉ events → takes rest ≤ (start.afterAll before).queue.length →
            r.queue[(start.afterAll before).queue.length - takes rest]? = some (.free a))) ∧
    ∀ (history : List TableEvent) (s : Supervisor α), Reached table history s →
      (s.phase ≠ .stopped → ∀ a slot, s.run.table.slots.get? a = some slot → slot.IsDrained →
        .free a ∈ s.run.queue) ∧
      ∀ call inbox, s.inbox = call :: inbox → s.turn? = some ({ s with inbox }.answer call) →
        (∀ a slot, s.run.table.slots.get? a = some slot → ¬ slot.IsDrained) ∧
        s.run.table.Agreement config ∧ s.run.table.TaskBooks ∧
        ∀ before e rest d, history = before ++ e :: rest →
          Drains ((TableRun.new table true).afterAll before).table e d →
          (∀ a slot, s.run.table.slots.get? a = some slot → slot.grant ≠ d.grant) ∧
          ∃ left slot, s.run.table.retired.get? d.grant = some slot ∧ d.SameGrant slot ∧
            Left (.new table true) history d.grant left ∧
            slot.GivenBack config.memoryReleaseGraceMs left s.run.now := by
  obtain ⟨hbegin, hconfig⟩ := Sound.new hnew
  have hgranted : table.Granted := .new hnew
  have hnone : (∀ a, table.slots.get? a = none) ∧ ∀ g, table.retired.get? g = none := by
    obtain rfl := eq_of_new hnew
    exact ⟨fun _ => rfl, fun _ => rfl⟩
  refine ⟨fun listening events => ?_, fun history s hreached => ?_⟩
  · intro start r
    have hbegin' : start.table.Sound := hbegin
    have hgranted' : start.table.Granted := hgranted
    have hsound := fun events => (hbegin'.afterAll events).1
    have hgrants := hgranted'.afterAll hbegin'
    refine ⟨fun e => ⟨fun a => free_mem_askedBy_iff (hsound events) (hgrants events), fun d hdrains => ?_⟩,
      fun a s hs hdrained => ?_⟩
    · exact ⟨(asked_of_drains hdrains (hsound events) (hgrants events)).2,
        fun more e' d' => grant_ne_of_drains (hsound events) (hgrants events) hdrains⟩
    · exact exists_drains_waiting hbegin' hgranted' hnone.1 hs hdrained
  · refine ⟨fun hphase a slot hs hdrained => ?_, fun call inbox hinbox hturn => ?_⟩
    · exact (hreached.remembered hbegin hgranted hnone.1 hphase).slots hs hdrained
    · have hundrained := hreached.undrained hbegin hgranted hnone.1 hinbox hturn
      have hrun := hreached.run_eq
      obtain ⟨hsound, hconfig'⟩ := Sound.ofNew hnew true history
      rw [← hrun] at hsound hconfig'
      refine ⟨hundrained, hconfig' ▸ hsound.agreement, hsound.toTaskBooks, ?_⟩
      rintro before e rest d rfl hdrains
      have hbegin' : (TableRun.new table true).table.Sound := hbegin
      have hgranted' : (TableRun.new table true).table.Granted := hgranted
      rw [hrun] at hundrained ⊢
      rw [← hconfig]
      exact retired_of_drains hbegin' hgranted' hnone.2 hdrains hundrained

/-- A command takes the last task out of a slot to be given back, and another one comes after it. -/
theorem finalizing_of_new_left : ∃ table,
    SlotTable.new (.evenlyDivided 2 TableConfig.standardProfile) (.new 0) = .ok table ∧
    let used : List TableEvent :=
      [.operation .start, .operation (.allocate ⟨.fixed 0, ⟨0⟩, ⟨1⟩, none, 5⟩),
        .operation (.markActive ⟨1⟩), .operation (.addTask ⟨⟨7⟩, ⟨0⟩, ⟨1⟩⟩), .operation (.free ⟨1⟩ "")]
    let last : TableEvent := .operation (.removeTask ⟨7⟩)
    let history := used ++ last :: [.take, .operation (.free ⟨1⟩ emptiedCause)]
    let remove : Command (Option Task) := .operate (.removeTask ⟨7⟩)
    let s : Supervisor (Option Task) := .new ((TableRun.new table true).afterAll used)
    let s' := (((s.after (.post remove)).after .turn).after (.post remove)).after .turn
    Reached table history s' ∧ (∀ a slot, s'.run.table.slots.get? a = some slot → ¬ slot.IsDrained) ∧
      ∃ left slot, s'.run.table.retired.get? 0 = some slot ∧ Left (.new table true) history 0 left ∧
        slot.GivenBack 10000 left s'.run.now := by
  have hnew : SlotTable.new (.evenlyDivided 2 TableConfig.standardProfile) (.new 0) = .ok _ := rfl
  refine ⟨_, hnew, ?_⟩
  intro used last history remove s s'
  have hs : Reached _ used s := .begin used (by decide)
  have hs' : Reached _ history s' :=
    (((hs.step (.post remove)).step .turn).step (.post remove)).step .turn
  obtain ⟨d, hlive⟩ : ∃ d, s.run.table.slots.get? ⟨1⟩ = some d := ⟨_, rfl⟩
  have hd : (s.run.table.slots.get? ⟨1⟩).map
      (fun d => (d.grant, d.allocation, d.state, d.tasks.entries)) =
        some (0, ⟨1⟩, .releasing, [(⟨7⟩, ⟨⟨7⟩, ⟨0⟩, ⟨1⟩⟩)]) := by decide
  rw [hlive, Option.map_some, Option.some.injEq, Prod.mk.injEq, Prod.mk.injEq, Prod.mk.injEq] at hd
  obtain ⟨hgrant, ha, hstate, htasks⟩ := hd
  have htask : ∀ {y task}, d.tasks.get? y = some task ↔ (y, task) = (⟨7⟩, ⟨⟨7⟩, ⟨0⟩, ⟨1⟩⟩) := by
    intro y task
    refine SortedMap.mem_entries_iff.symm.trans ?_
    rw [htasks]
    exact List.mem_singleton
  have hdrains : Drains s.run.table last d := by
    refine ⟨ha ▸ hlive, hstate, ⟨7⟩, _, rfl, ha ▸ rfl, htask.2 rfl, fun y hy => ?_⟩
    cases hy' : d.tasks.get? y with
    | none => rfl
    | some task => exact absurd (Prod.mk.inj (htask.1 hy')).1 hy
  obtain ⟨hundrained, -, -, hfinished⟩ := ((finalizing_of_new hnew).2 history s' hs').2 _ _ rfl rfl
  obtain ⟨-, left, slot, hslot, -, hleft, hback⟩ := hfinished used last _ d rfl hdrains
  rw [hgrant] at hslot hleft
  exact ⟨hs', hundrained, left, slot, hslot, hleft, hback⟩

end Finalizing

end WorkerSlots
