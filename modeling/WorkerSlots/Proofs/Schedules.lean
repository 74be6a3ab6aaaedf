import WorkerSlots.Proofs.Registrations

/-!
# What happens by itself

What goes on without time passing is done all at once. It comes to a sequence of single events, so that
whatever holds of every run holds of it.

* `background_eq` : the background work of a table is a sequence of happenings;
* `Delivered` : no timeout is left to be delivered, which background work brings about
  (`delivered_background`) and only a new registration can end (`Delivered.after`);
* `Turn`, `turn_cases` : what a supervisor does in a turn, and what this is to its table;
* `Reached.settle` : all that a supervisor does without time passing is a run of it;
* `calm_settle` : then nothing is left to do.
-/

namespace WorkerSlots

open SlotTable

namespace SlotTable

/-- The table with other registrations. -/
def withRegistrations (t : SlotTable) (registrations : SortedMap AllocationId Registration) :
    SlotTable :=
  { t with timers := { t.timers with registrations } }

/-- The table with other slots that have left it. -/
def withRetired (t : SlotTable) (retired : SortedMap Nat TaskSlot) : SlotTable := { t with retired }

/-- An entry whose expiry has been delivered. -/
def delivered (e : AllocationId × Registration) : AllocationId × Registration :=
  (e.1, { e.2 with expired := true })

/-- What comes of the expiry of some timeouts. -/
def expiries (t : SlotTable) (due : List (AllocationId × Registration)) : Reply PUnit where
  result := .ok ⟨⟩
  table := t.withRegistrations
    ((due.map delivered).foldl (fun m e => m.insert e.1 e.2) t.timers.registrations)
  actions := t.timeoutActions (due.map fun e => (e.1, e.2.ticket))

theorem timeoutActions_nil (t : SlotTable) : t.timeoutActions [] = [] := by
  unfold timeoutActions
  cases t.bound <;> rfl

theorem timeoutActions_cons (t : SlotTable) (x : AllocationId × Ticket)
    (due : List (AllocationId × Ticket)) :
    t.timeoutActions (x :: due) = t.timeoutActions [x] ++ t.timeoutActions due := by
  unfold timeoutActions
  cases t.bound <;> rfl

end SlotTable

/-- What the owner does without registering a timeout. -/
def TableEvent.Unarming (e : TableEvent) : Prop :=
  e.isChannel = true ∨ ∃ op, e = .operation op ∧ op.armed? = none

namespace TableRun

/-! ## Background work -/

/-- The timeouts that are to be delivered now. -/
def due (r : TableRun) : List (AllocationId × Registration) :=
  r.table.timers.pending.filter fun e => e.2.deadline ≤ r.now

/-- The background work that there is to do now, one thing at a time. -/
def backgroundHappenings (r : TableRun) : List Happening :=
  r.due.map (fun e => .expiry e.1) ++ (r.table.retired.keys.map .teardown ++ [.finish])

theorem after_expiry {r : TableRun} {e : AllocationId × Registration}
    (hrunning : r.table.timers.cancelled = false) (hreg : r.table.registration? e.1 = some e.2)
    (hpending : e.2.expired = false) (hover : e.2.deadline ≤ r.now) :
    r.after (.happening (.expiry e.1)) = r.absorb (r.table.expiries [e]) := by
  have hreg' : r.table.timers.registrations.get? e.1 = some e.2 := hreg
  unfold TableRun.after undergo expireOne Timers.deliver?
  dsimp only
  rw [hreg']
  dsimp only
  rw [if_pos ⟨hrunning, hpending, hover⟩]
  rfl

/-- Timeouts of different allocations are delivered one after the other. -/
theorem afterAll_expiries {r : TableRun} {due : List (AllocationId × Registration)}
    (hnodup : (due.map (·.1)).Nodup) (hrunning : r.table.timers.cancelled = false)
    (hdue : ∀ e ∈ due, r.table.registration? e.1 = some e.2 ∧ e.2.expired = false ∧
      e.2.deadline ≤ r.now) :
    r.afterAll (due.map fun e => .happening (.expiry e.1)) = r.absorb (r.table.expiries due) := by
  induction due generalizing r with
  | nil =>
    unfold expiries
    rw [List.map_nil, List.map_nil, List.map_nil, timeoutActions_nil]
    exact (r.absorb_silent _ _).symm
  | cons e rest ih =>
    obtain ⟨hreg, hpending, hover⟩ := hdue e List.mem_cons_self
    rw [List.map_cons, List.nodup_cons] at hnodup
    have hfirst : r.after (.happening (.expiry e.1)) = r.absorb (r.table.expiries [e]) :=
      after_expiry hrunning hreg hpending hover
    -- the timeouts of the others are still there
    have hothers : ∀ e' ∈ rest, (r.absorb (r.table.expiries [e])).table.registration? e'.1 = some e'.2 ∧
        e'.2.expired = false ∧ e'.2.deadline ≤ r.now := by
      intro e' he'
      obtain ⟨hreg', hrest⟩ := hdue e' (List.mem_cons_of_mem _ he')
      have hne : e'.1 ≠ e.1 := fun heq => hnodup.1 (heq ▸ List.mem_map_of_mem he')
      exact ⟨(SortedMap.get?_insert _ _ _ _).trans ((if_neg hne).trans hreg'), hrest⟩
    have hrest := ih (r := r.absorb (r.table.expiries [e])) hnodup.2 hrunning hothers
    have hactions : (r.table.expiries (e :: rest)).actions =
        (r.table.expiries [e]).actions ++ (r.table.expiries rest).actions :=
      timeoutActions_cons _ _ _
    rw [List.map_cons, afterAll_cons, hfirst, hrest, absorb_absorb]
    unfold absorb
    rw [hactions]
    rfl

theorem mem_due_iff {r : TableRun} {e : AllocationId × Registration} :
    e ∈ r.due ↔ r.table.timers.cancelled = false ∧ r.table.registration? e.1 = some e.2 ∧
      e.2.expired = false ∧ e.2.deadline ≤ r.now := by
  unfold due Timers.pending
  cases r.table.timers.cancelled with
  | true => simp
  | false =>
    simp only [Bool.false_eq_true, ↓reduceIte, List.mem_filter, Bool.not_eq_true', true_and,
      decide_eq_true_iff, and_assoc]
    exact and_congr_left fun _ => SortedMap.mem_entries_iff

theorem nodup_due (r : TableRun) : (r.due.map (·.1)).Nodup := by
  have hsublist : r.due.Sublist r.table.timers.registrations.entries := by
    unfold due Timers.pending
    split
    · exact List.nil_sublist _
    · exact List.filter_sublist.trans List.filter_sublist
  exact (hsublist.map _).nodup (SortedMap.nodup_keys _)

/-- The registrations once all that are over have expired. -/
theorem foldl_delivered (r : TableRun) (hrunning : r.table.timers.cancelled = false) :
    (r.due.map delivered).foldl (fun m e => m.insert e.1 e.2) r.table.timers.registrations =
      r.table.timers.registrations.map fun reg =>
        if reg.deadline ≤ r.now then { reg with expired := true } else reg := by
  refine SortedMap.foldl_insert_eq (fun e he => ?_) fun a ha => ?_
  · obtain ⟨e, hmem, rfl⟩ := List.mem_map.1 he
    obtain ⟨-, hreg, -, hover⟩ := mem_due_iff.1 hmem
    have hreg' : r.table.timers.registrations.get? e.1 = some e.2 := hreg
    unfold delivered
    rw [SortedMap.get?_map, hreg', Option.map_some, if_pos hover]
  · rw [SortedMap.get?_map]
    cases hreg : r.table.timers.registrations.get? a with
    | none => rfl
    | some reg =>
      rw [Option.map_some]
      split
      · rename_i hover
        -- what is over and not to be delivered has expired before
        have hexpired : reg.expired = true := by
          cases hx : reg.expired with
          | true => rfl
          | false =>
            have hmem : (a, reg) ∈ r.due := mem_due_iff.2 ⟨hrunning, hreg, hx, hover⟩
            exact absurd (List.mem_map_of_mem hmem) (ha _)
        rw [← hexpired]
      · rfl

/-- The timeouts that are to be delivered are delivered one after the other. -/
theorem absorb_expire (r : TableRun) :
    r.absorb (r.table.expire r.now) = r.afterAll (r.due.map fun e => .happening (.expiry e.1)) := by
  cases hrunning : r.table.timers.cancelled with
  | true =>
    have hpending : r.table.timers.pending = [] := by
      unfold Timers.pending
      rw [hrunning]
      rfl
    unfold due expire Timers.expire
    rw [hpending, hrunning]
    dsimp only
    rw [List.filter_nil, List.map_nil, List.map_nil, timeoutActions_nil]
    exact r.absorb_silent _ _
  | false =>
    rw [afterAll_expiries r.nodup_due hrunning fun e he => (mem_due_iff.1 he).2]
    unfold expiries
    rw [r.foldl_delivered hrunning]
    have hif : ¬ r.table.timers.cancelled = true := by
      rw [hrunning]
      exact Bool.false_ne_true
    unfold expire Timers.expire
    dsimp only
    rw [if_neg hif]
    rfl

/-- The waits of slots that have left the table end one after the other. -/
theorem afterAll_teardowns {r : TableRun} {retired : List (Nat × TaskSlot)}
    (hnodup : (retired.map (·.1)).Nodup)
    (hretired : ∀ e ∈ retired, r.table.retired.get? e.1 = some e.2) :
    r.afterAll (retired.map fun e => .happening (.teardown e.1)) =
      { r with table := r.table.withRetired ((retired.map fun e => (e.1, e.2.settle r.now)).foldl
        (fun m e => m.insert e.1 e.2) r.table.retired) } := by
  induction retired generalizing r with
  | nil => rfl
  | cons e rest ih =>
    have hslot := hretired e List.mem_cons_self
    rw [List.map_cons, List.nodup_cons] at hnodup
    have hfirst : r.after (.happening (.teardown e.1)) =
        { r with table := r.table.withRetired (r.table.retired.insert e.1 (e.2.settle r.now)) } := by
      unfold TableRun.after undergo settleOne
      dsimp only
      rw [hslot]
      rfl
    rw [List.map_cons, afterAll_cons, hfirst]
    refine (ih (r := { r with table := _ }) hnodup.2 fun e' he' => ?_).trans rfl
    have hne : e'.1 ≠ e.1 := fun heq => hnodup.1 (heq ▸ List.mem_map_of_mem he')
    exact (SortedMap.get?_insert _ _ _ _).trans
      ((if_neg hne).trans (hretired e' (List.mem_cons_of_mem _ he')))

theorem settle_eq (r : TableRun) : { r with table := r.table.settle r.now } =
    r.afterAll ((r.table.retired.keys.map Happening.teardown ++ [Happening.finish]).map .happening) := by
  have hkeys : (r.table.retired.keys.map Happening.teardown).map TableEvent.happening =
      r.table.retired.entries.map fun e => .happening (.teardown e.1) := by
    unfold SortedMap.keys
    rw [List.map_map, List.map_map]
    rfl
  have hsettled : (r.table.retired.entries.map fun e => (e.1, e.2.settle r.now)).foldl
      (fun m e => m.insert e.1 e.2) r.table.retired = r.table.retired.map (·.settle r.now) := by
    refine SortedMap.foldl_insert_eq (fun e he => ?_) fun g hg => ?_
    · obtain ⟨e, hmem, rfl⟩ := List.mem_map.1 he
      rw [SortedMap.get?_map, SortedMap.mem_entries_iff.1 hmem, Option.map_some]
    · rw [SortedMap.get?_map]
      cases hslot : r.table.retired.get? g with
      | none => rfl
      | some slot =>
        exact absurd (List.mem_map_of_mem (SortedMap.mem_entries_iff.2 hslot)) (hg _)
  rw [List.map_append, afterAll_append, hkeys,
    afterAll_teardowns (SortedMap.nodup_keys r.table.retired) fun e he =>
      SortedMap.mem_entries_iff.1 he, hsettled]
  rfl

/-- The background work is a sequence of single happenings. -/
theorem background_eq (r : TableRun) :
    r.background = r.afterAll (r.backgroundHappenings.map .happening) := by
  unfold background backgroundHappenings
  rw [List.map_append, afterAll_append, List.map_map]
  have hexpired := r.absorb_expire
  have hretired : (r.absorb (r.table.expire r.now)).table.retired = r.table.retired := rfl
  dsimp only
  rw [settle_eq, hretired, hexpired]
  rfl

theorem cancel_not_mem_background (r : TableRun) :
    .happening .cancel ∉ r.backgroundHappenings.map TableEvent.happening := by
  intro hmem
  obtain ⟨happening, hmem, heq⟩ := List.mem_map.1 hmem
  obtain rfl := TableEvent.happening.inj heq
  rcases List.mem_append.1 hmem with hmem | hmem
  · obtain ⟨e, -, he⟩ := List.mem_map.1 hmem
    cases he
  · rcases List.mem_append.1 hmem with hmem | hmem
    · obtain ⟨grant, -, hgrant⟩ := List.mem_map.1 hmem
      cases hgrant
    · cases List.mem_singleton.1 hmem

/-! ## No timeout is left to be delivered -/

/-- No timeout is to be delivered now. -/
def Delivered (r : TableRun) : Prop := ∀ a, r.table.timers.deliver? r.now a = none

theorem delivered_iff {r : TableRun} : r.Delivered ↔ ∀ a reg, r.table.registration? a = some reg →
    r.table.timers.cancelled = false → reg.expired = false → r.now < reg.deadline := by
  refine forall_congr' fun a => ?_
  unfold Timers.deliver? registration?
  cases hreg : r.table.timers.registrations.get? a with
  | none => simp
  | some reg =>
    dsimp only
    constructor
    · intro hnone reg' hreg' hrunning hpending
      obtain rfl := Option.some.inj hreg'
      apply Nat.lt_of_not_le
      intro hover
      rw [if_pos ⟨hrunning, hpending, hover⟩] at hnone
      cases hnone
    · intro hlate
      refine if_neg fun hdue => ?_
      have hlt := hlate reg rfl hdue.1 hdue.2.1
      exact absurd hdue.2.2 (Nat.not_le_of_lt hlt)

/-- Background work delivers all timeouts that are over. -/
theorem delivered_background (r : TableRun) : r.background.Delivered := by
  rw [delivered_iff]
  intro a reg hreg hrunning hpending
  have htimers : r.background.table.timers = (r.table.timers.expire r.now).2 ∨
      r.background.table.timers.cancelled = true := by
    unfold background SlotTable.settle finishClose
    dsimp only
    split
    · exact .inr rfl
    · exact .inl rfl
  rcases htimers with htimers | hcancelled
  · unfold registration? at hreg
    rw [htimers] at hreg hrunning
    unfold Timers.expire at hreg hrunning
    dsimp only at hreg hrunning
    split at hreg
    · rename_i hcancelled
      rw [if_pos hcancelled, hcancelled] at hrunning
      cases hrunning
    · rw [SortedMap.get?_map] at hreg
      obtain ⟨reg₀, -, rfl⟩ := Option.map_eq_some_iff.1 hreg
      by_cases hover : reg₀.deadline ≤ r.now
      · rw [if_pos hover] at hpending
        cases hpending
      · rw [if_neg hover]
        exact Nat.lt_of_not_le hover
  · rw [hcancelled] at hrunning
    cases hrunning

/-- While no time passes, only a new registration can be over. -/
theorem Delivered.after {r : TableRun} {e : TableEvent} (h : r.Delivered) (hsound : r.table.Sound)
    (he : e.Unarming) : (r.after e).Delivered := by
  have hmoves := after_moves hsound e
  generalize r.after e = r' at hmoves
  have hregisters := registers_of_moves hmoves
  have hnow : r'.now = r.now := by
    cases hmoves with
    | tick ms =>
      obtain hx | ⟨op, hop, -⟩ := he
      · cases hx
      · cases hop
    | take => rfl
    | leave => rfl
    | change => rfl
  rw [delivered_iff] at h ⊢
  intro a reg' hreg' hrunning hpending
  rw [hnow]
  obtain ⟨reg, hreg, -, hdeadline, hexpired, -⟩ | ⟨op, ms, hop, hoparmed, -⟩ := hregisters.origin hreg'
  · have hrunning₀ : r.table.timers.cancelled = false := by
      cases hx : r.table.timers.cancelled with
      | false => rfl
      | true =>
        rw [hregisters.cancelled hx] at hrunning
        cases hrunning
    have hpending₀ : reg.expired = false := by
      cases hx : reg.expired with
      | false => rfl
      | true =>
        rw [hexpired hx] at hpending
        cases hpending
    rw [hdeadline]
    exact h a reg hreg hrunning₀ hpending₀
  · obtain hchannel | ⟨op', rfl, harmed⟩ := he
    · rw [hop] at hchannel
      cases hchannel
    · obtain rfl := TableEvent.operation.inj hop
      rw [harmed] at hoparmed
      cases hoparmed

theorem Delivered.afterAll {r : TableRun} {events : List TableEvent} (h : r.Delivered)
    (hsound : r.table.Sound) (hevents : ∀ e ∈ events, e.Unarming) :
    (r.afterAll events).Delivered := by
  induction events generalizing r with
  | nil => exact h
  | cons e rest ih =>
    exact ih (h.after hsound (hevents e List.mem_cons_self)) (hsound.after e).1
      fun e' he' => hevents e' (List.mem_cons_of_mem _ he')

end TableRun

namespace Supervisor

open TableRun

variable {α : Type} {s s' : Supervisor α} {table : SlotTable} {history : List TableEvent}

theorem Reached.sound (h : Reached table history s) (hsound : table.Sound) : s.run.table.Sound := by
  rw [h.run_eq]
  exact (Sound.afterAll (r := .new table true) hsound history).1

/-! ## What a supervisor does in a turn -/

/-- What comes of a turn, and what the turn is to the table. -/
inductive Turn (s : Supervisor α) : Option (Supervisor α) → List TableEvent → Prop where
  | stopped (hphase : s.phase = .stopped) : Turn s none []
  | beginClose (hphase : s.phase = .serving) : Turn s (some s.beginClose) [.operation .close]
  | stop (hclosed : s.run.table.state = .closed) : Turn s (some s.stop) [.leave]
  | idle (hphase : s.phase ≠ .stopped) (hqueue : s.run.queue = []) (hinbox : s.inbox = []) :
      Turn s none []
  | heed {x : SlotAction} {queue : List SlotAction} (hphase : s.phase ≠ .stopped)
      (hqueue : s.run.queue = x :: queue) :
      Turn s (some { s with run := { s.run with queue }.heed x })
        (.take :: heedEvents s.run.table x)
  | answer {call : Call α} {inbox : List (Call α)} (hphase : s.phase ≠ .stopped)
      (hqueue : s.run.queue = []) (hinbox : s.inbox = call :: inbox) :
      Turn s (some ({ s with inbox }.answer call))
        ((call.command.operations s.run.now s.run.table).map .operation)

theorem serve_cases (hphase : s.phase ≠ .stopped) : s.Turn s.serve? s.serveEvents := by
  unfold serve? serveEvents
  cases hqueue : s.run.queue with
  | cons x queue => exact .heed hphase hqueue
  | nil =>
    cases hinbox : s.inbox with
    | cons call inbox => exact .answer hphase hqueue hinbox
    | nil => exact .idle hphase hqueue hinbox

theorem turn_cases (s : Supervisor α) : s.Turn s.turn? s.turnEvents := by
  unfold turn? turnEvents
  cases hphase : s.phase with
  | stopped => exact .stopped hphase
  | serving =>
    cases s.shutdownRequested with
    | true => exact .beginClose hphase
    | false => exact serve_cases (by rw [hphase]; nofun)
  | closing =>
    cases hclosed : s.run.table.isClosed with
    | true => exact .stop (of_decide_eq_true hclosed)
    | false => exact serve_cases (by rw [hphase]; nofun)

theorem after_turn_stopped (h : s.phase = .stopped) : s.after .turn = s := by
  unfold Supervisor.after turn?
  rw [h]
  rfl

theorem after_turn_inbox (h : s.inbox = []) : (s.after .turn).inbox = [] := by
  have hturn := s.turn_cases
  unfold Supervisor.after
  generalize s.turn? = s', s.turnEvents = events at hturn
  cases hturn with
  | stopped | beginClose | idle | heed => exact h
  | stop => rfl
  | answer _ _ hinbox =>
    rw [h] at hinbox
    cases hinbox

theorem mem_heedEvents {t : SlotTable} {x : SlotAction} {e : TableEvent} (h : e ∈ heedEvents t x) :
    ∃ a cause, e = .operation (.free a cause) := by
  cases x with
  | free a => exact ⟨a, _, List.mem_singleton.1 h⟩
  | timeout a ticket =>
    unfold heedEvents at h
    dsimp only at h
    split at h
    · exact ⟨a, _, List.mem_singleton.1 h⟩
    · cases h

/-- Only the calls that wait can register timeouts. -/
theorem mem_turnEvents {e : TableEvent} (h : e ∈ s.turnEvents) :
    e.isChannel = true ∨ ∃ op, e = .operation op ∧ (s.inbox = [] → op.armed? = none) := by
  have hturn := s.turn_cases
  generalize s.turn? = s', s.turnEvents = events at hturn h
  cases hturn with
  | stopped | idle => cases h
  | beginClose => exact .inr ⟨.close, List.mem_singleton.1 h, fun _ => rfl⟩
  | stop =>
    obtain rfl := List.mem_singleton.1 h
    exact .inl rfl
  | heed =>
    rcases List.mem_cons.1 h with rfl | h
    · exact .inl rfl
    · obtain ⟨a, cause, rfl⟩ := mem_heedEvents h
      exact .inr ⟨_, rfl, fun _ => rfl⟩
  | answer _ _ hinbox =>
    obtain ⟨op, -, rfl⟩ := List.mem_map.1 h
    refine .inr ⟨op, rfl, fun hnone => ?_⟩
    rw [hnone] at hinbox
    cases hinbox

theorem cancel_not_mem_turnEvents (s : Supervisor α) : .happening .cancel ∉ s.turnEvents := by
  intro hmem
  obtain hchannel | ⟨op, hop, -⟩ := mem_turnEvents hmem
  · cases hchannel
  · cases hop

/-! ## All that a supervisor does without time passing -/

/-- What every turn keeps, a supervisor that does all there is to do keeps. -/
theorem drain_keeps {P : Supervisor α → Prop} (hturn : ∀ s, P s → P (s.after .turn))
    (h : P s) : P s.drain := by
  induction s using drain.induct with
  | case1 s s' hs' ih =>
    have hafter : s.after .turn = s' := by
      unfold Supervisor.after
      rw [hs']
      rfl
    rw [drain, hs']
    exact ih (hafter ▸ hturn s h)
  | case2 s hs =>
    rw [drain, hs]
    exact h

theorem turn?_drain (s : Supervisor α) : s.drain.turn? = none := by
  induction s using drain.induct with
  | case1 s s' hs' ih =>
    rw [drain, hs']
    exact ih
  | case2 s hs =>
    rw [drain, hs]
    exact hs

/-- A supervisor that has nothing to do has stopped, or nothing waits for it. -/
theorem rest_of_turn?_eq_none (h : s.turn? = none) :
    s.phase = .stopped ∨ s.run.queue = [] ∧ s.inbox = [] := by
  have hturn := s.turn_cases
  rw [h] at hturn
  generalize s.turnEvents = events at hturn
  cases hturn with
  | stopped hphase => exact .inl hphase
  | idle _ hqueue hinbox => exact .inr ⟨hqueue, hinbox⟩

/-- A run of a supervisor goes on, and nobody else stops the timers. -/
def Continues (table : SlotTable) (history : List TableEvent) (s : Supervisor α) : Prop :=
  ∃ more, .happening .cancel ∉ more ∧ Reached table (history ++ more) s

theorem Reached.continues (h : Reached table history s) : Continues table history s :=
  ⟨[], List.not_mem_nil, by rwa [List.append_nil]⟩

theorem Continues.happenings (h : Continues table history s) {happenings : List Happening}
    (hcancel : .happening .cancel ∉ happenings.map TableEvent.happening) :
    Continues table history { s with run := s.run.afterAll (happenings.map .happening) } := by
  induction happenings generalizing s with
  | nil => exact h
  | cons x rest ih =>
    obtain ⟨more, hmore, hreached⟩ := h
    rw [List.map_cons, List.mem_cons, not_or] at hcancel
    refine ih (s := s.after (.happening x)) ⟨more ++ [.happening x], ?_, ?_⟩ hcancel.2
    · rw [List.mem_append, not_or]
      exact ⟨hmore, fun hx => hcancel.1 (List.mem_singleton.1 hx)⟩
    · rw [← List.append_assoc]
      exact hreached.step (.happening x)

theorem Continues.turn (h : Continues table history s) :
    Continues table history (s.after .turn) := by
  obtain ⟨more, hmore, hreached⟩ := h
  refine ⟨more ++ s.turnEvents, ?_, ?_⟩
  · rw [List.mem_append, not_or]
    exact ⟨hmore, s.cancel_not_mem_turnEvents⟩
  · rw [← List.append_assoc]
    exact hreached.step .turn

theorem Continues.round (h : Continues table history s) : Continues table history s.round := by
  have hbackground : Continues table history { s with run := s.run.background } := by
    rw [background_eq]
    exact h.happenings s.run.cancel_not_mem_background
  exact drain_keeps (fun s hs => hs.turn) hbackground

/-- What a supervisor does without time passing is a run of it. -/
theorem Reached.settle (h : Reached table history s) : Continues table history s.settle :=
  h.continues.round.round.round

/-! ## Nothing is left to do -/

/-- A supervisor has stopped, or no call waits for it and no timeout is to be delivered. -/
def Calm (s : Supervisor α) : Prop := s.phase = .stopped ∨ s.inbox = [] ∧ s.run.Delivered

theorem Calm.turn (h : s.Calm) (hsound : s.run.table.Sound) : (s.after .turn).Calm := by
  obtain hphase | ⟨hinbox, hdelivered⟩ := h
  · rw [after_turn_stopped hphase]
    exact .inl hphase
  · refine .inr ⟨after_turn_inbox hinbox, ?_⟩
    rw [after_run]
    refine hdelivered.afterAll hsound fun e he => ?_
    obtain hchannel | ⟨op, hop, harmed⟩ := mem_turnEvents he
    · exact .inl hchannel
    · exact .inr ⟨op, hop, harmed hinbox⟩

theorem sound_turn (hsound : s.run.table.Sound) : (s.after .turn).run.table.Sound := by
  rw [after_run]
  exact (hsound.afterAll _).1

theorem sound_background (hsound : s.run.table.Sound) : s.run.background.table.Sound := by
  rw [background_eq]
  exact (hsound.afterAll _).1

theorem sound_round (hsound : s.run.table.Sound) : s.round.run.table.Sound :=
  drain_keeps (P := fun s => s.run.table.Sound) (fun _ h => sound_turn h) (sound_background hsound)

/-- Once no call waits, a round delivers all timeouts that are over. -/
theorem calm_round (hinbox : s.phase = .stopped ∨ s.inbox = []) (hsound : s.run.table.Sound) :
    s.round.Calm := by
  have hkept := drain_keeps (P := fun s => s.Calm ∧ s.run.table.Sound)
    (s := { s with run := s.run.background }) (fun s h => ⟨h.1.turn h.2, sound_turn h.2⟩)
    ⟨hinbox.imp_right fun hinbox => ⟨hinbox, s.run.delivered_background⟩, sound_background hsound⟩
  exact hkept.1

/-- When a supervisor has done all there is to do, it has stopped, or nothing waits for it and no timeout is
left to be delivered. -/
theorem calm_settle (hsound : s.run.table.Sound) : s.settle.phase = .stopped ∨
    s.settle.run.queue = [] ∧ s.settle.inbox = [] ∧ s.settle.run.Delivered := by
  have hrest : ∀ s : Supervisor α,
      s.round.phase = .stopped ∨ s.round.run.queue = [] ∧ s.round.inbox = [] :=
    fun _ => rest_of_turn?_eq_none (turn?_drain _)
  -- no call waits any more, so that the last round registers no timeouts
  have hinbox : s.round.round.phase = .stopped ∨ s.round.round.inbox = [] :=
    (hrest s.round).imp_right And.right
  have hcalm := calm_round hinbox (sound_round (sound_round hsound))
  obtain hphase | ⟨hqueue, -⟩ := hrest s.round.round
  · exact .inl hphase
  · exact hcalm.imp_right fun hcalm => ⟨hqueue, hcalm⟩

end Supervisor

end WorkerSlots
