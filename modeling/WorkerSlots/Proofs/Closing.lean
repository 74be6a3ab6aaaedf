import WorkerSlots.Proofs.Grants
import WorkerSlots.Proofs.Timeouts

/-!
# Closing a table

* `rank_le_afterAll` : the state of a table moves forward only;
* `Left`, `givenBack_of_retired` : a slot that has left the table did so at some time of the run, and is
  closed only once its memory is released or the grace period is over since then;
* `Ending` : what is left of a table that closes, and of one that is closed. Every slot that was live when
  the table was asked to close is awaited;
* `Sealed`, `Emptied` : what this means to whoever uses the table;
* `closing_of_new` : all of this in every run.
-/

namespace WorkerSlots

open SlotTable TableRun

variable {t t' : SlotTable} {r r' : TableRun} {now : Nat} {e : TableEvent}

namespace SlotTable

variable {actions : List SlotAction} {failures : List TaskFailure}

/-! ## The state moves forward -/

theorem Step.rank_le (h : Step now t e actions failures t') : t.state.rank ≤ t'.state.rank := by
  cases h with
  | start hstate | closeUnstarted hstate | beginClose hstate | finish hstate =>
    rw [hstate]
    exact Nat.le_of_ble_eq_true rfl
  | grant | activate | deactivate | deactivateUntimed | retire | drain | bind | unbind | notify
  | awaitAll | expire | straggle | teardown | useLive | useRetired | cancel => exact Nat.le_refl _

/-- What an event other than closing does to the state of a table. -/
theorem Step.state_cases (h : Step now t e actions failures t') (he : e ≠ .operation .close) :
    t'.state = t.state ∧ t'.awaited = t.awaited ∧ t'.bound = t.bound ∨ t'.state = .running ∨
      t.state = .closing ∧ t.awaited.all t.isGrantClosed = true ∧
        t' = { t with state := .closed, timers := t.timers.cancel } := by
  cases h with
  | start => exact .inr (.inl rfl)
  | finish hstate hall => exact .inr (.inr ⟨hstate, hall, rfl⟩)
  | closeUnstarted | beginClose | awaitAll => exact absurd rfl he
  | grant | activate | deactivate | deactivateUntimed | retire | drain | bind | unbind | notify
  | expire | straggle | teardown | useLive | useRetired | cancel => exact .inl ⟨rfl, rfl, rfl⟩

end SlotTable

namespace TableRun

theorem rank_le_of_moves (h : r.Moves e r') : r.table.state.rank ≤ r'.table.state.rank :=
  h.lift (R := fun t _ t' => t.state.rank ≤ t'.state.rank) (fun _ _ => Nat.le_refl _)
    (fun hstep => hstep.rank_le) fun _ _ hu hv => Nat.le_trans hu hv

theorem rank_le_afterAll (hsound : r.table.Sound) (events : List TableEvent) :
    r.table.state.rank ≤ (r.afterAll events).table.state.rank := by
  induction events generalizing r with
  | nil => exact Nat.le_refl _
  | cons e rest ih =>
    exact Nat.le_trans (rank_le_of_moves (after_moves hsound e)) (ih (hsound.after e).1)

theorem state_of_moves (h : r.Moves e r') (he : ¬ e.Closes) :
    r'.table.state = r.table.state ∧ r'.table.awaited = r.table.awaited ∧
        r'.table.bound = r.table.bound ∨
      r'.table.state = .running ∨
      r.table.state = .closing ∧ r.table.awaited.all r.table.isGrantClosed = true ∧
        r'.table = { r.table with state := .closed, timers := r.table.timers.cancel } := by
  have hall := h.lift (R := fun t e t' => ¬ e.Closes →
      t'.state = t.state ∧ t'.awaited = t.awaited ∧ t'.bound = t.bound ∨ t'.state = .running ∨
        t.state = .closing ∧ t.awaited.all t.isGrantClosed = true ∧
          t' = { t with state := .closed, timers := t.timers.cancel })
    (fun _ _ _ => .inl ⟨rfl, rfl, rfl⟩)
    (fun hstep he => hstep.state_cases fun hclose => he (.inl hclose))
    (fun he _ _ _ hne => absurd he hne)
  exact hall he

/-- What closing does: a running table marks all slots that are left, and awaits all that were there. -/
theorem after_closes (hsound : r.table.Sound) (he : e.Closes) :
    (r.after e).table = r.table ∨
      r.table.state = .created ∧ (r.after e).table = { r.table with state := .closed } ∨
      r.table.state = .running ∧ (r.after e).table.state = .closing ∧
        (∀ a s, r.table.slots.get? a = some s → s.grant ∈ (r.after e).table.awaited) ∧
        ∀ a s', (r.after e).table.slots.get? a = some s' → s'.state = .releasing := by
  have horder : (r.after e).table = r.table ∨
      ∃ order, order.Perm r.table.slots.keys ∧
        (r.after e).table = (r.table.closeInOrder r.now order).table := by
    rcases he with rfl | ⟨order, rfl⟩
    · exact .inr ⟨_, .refl _, rfl⟩
    · unfold TableRun.after
      dsimp only
      by_cases horder : order.isPerm r.table.slots.keys = true
      · rw [if_pos horder]
        exact .inr ⟨order, List.isPerm_iff.1 horder, rfl⟩
      · rw [if_neg horder]
        exact .inl rfl
  obtain hsame | ⟨order, hperm, htable⟩ := horder
  · exact .inl hsame
  · cases hstate : r.table.state with
    | running =>
      obtain ⟨grants, failures, u, heq, -, hclosing, hnamed, hmarked⟩ :=
        hsound.closeInOrder_running r.now hperm hstate
      rw [htable, heq]
      exact .inr (.inr ⟨rfl, hclosing, hnamed, hmarked⟩)
    | created =>
      refine .inr (.inl ⟨rfl, ?_⟩)
      rw [htable]
      unfold closeInOrder
      rw [hstate]
      rfl
    | closing | closed =>
      refine .inl ?_
      rw [htable]
      unfold closeInOrder
      rw [hstate]
      rfl

/-! ## When a slot left its table -/

/-- The slot of a grant left the table at a time. -/
def Left (start : TableRun) (history : List TableEvent) (grant time : Nat) : Prop :=
  ∃ before e rest a s, history = before ++ e :: rest ∧ (start.afterAll before).now = time ∧
    (start.afterAll before).table.slots.get? a = some s ∧ s.grant = grant ∧
    (start.afterAll (before ++ [e])).table.slots.get? a = none

theorem Left.concat {start : TableRun} {history : List TableEvent} {grant time : Nat}
    (h : Left start history grant time) (e : TableEvent) : Left start (history ++ [e]) grant time := by
  obtain ⟨before, x, rest, a, s, rfl, hrest⟩ := h
  exact ⟨before, x, rest ++ [e], a, s, by rw [List.append_assoc, List.cons_append], hrest⟩

/-- Every slot that has left the table did so at some time of the run. -/
theorem givenBack_of_retired {start : TableRun} {history : List TableEvent} {g : Nat} {s : TaskSlot}
    (hsound : start.table.Sound) (hgranted : start.table.Granted)
    (hnone : ∀ g, start.table.retired.get? g = none)
    (hs : (start.afterAll history).table.retired.get? g = some s) :
    ∃ left, Left start history g left ∧
      s.GivenBack start.table.config.memoryReleaseGraceMs left (start.afterAll history).now := by
  induction history using List.reverseRecOn generalizing s with
  | nil =>
    rw [afterAll_nil, hnone] at hs
    cases hs
  | append_singleton history e ih =>
    obtain ⟨hsound', hconfig⟩ := hsound.afterAll history
    have hgranted' := hgranted.afterAll hsound history
    have hnow := (after_moves hsound' e).now_le
    rw [afterAll_concat] at hs ⊢
    obtain ⟨x, hx, hxs⟩ | ⟨a, x, hx, hgrant, hxs, hgone⟩ := (hgranted'.passage hsound' e).source hs
    · obtain ⟨left, hleft, hback⟩ := ih hx
      exact ⟨left, hleft.concat e, (hxs.givenBack hback).mono hnow⟩
    · refine ⟨(start.afterAll history).now, ⟨history, e, [], a, x, rfl, rfl, hx, hgrant, ?_⟩, ?_⟩
      · rw [afterAll_concat]
        exact hgone
      · have hin := hgranted'.inUse hx
        rw [hconfig] at hin
        exact (hxs.givenBack hin).mono hnow

end TableRun

namespace SlotTable

/-! ## The end of a table -/

/-- What is left of a table that closes, and of one that is closed. Whether it was ever started is whether
it has an owner. -/
structure Ending (t : SlotTable) : Prop where
  unstarted : t.state = .created → t.bound = false
  marked : t.state = .closing → ∀ {a s}, t.slots.get? a = some s →
    s.state = .releasing ∧ s.grant ∈ t.awaited
  gone : t.state = .closed → ∀ a, t.slots.get? a = none
  finished : t.state = .closed → t.bound = true → ∀ g ∈ t.awaited, t.isGrantClosed g = true
  cancelled : t.state = .closed → t.bound = true → t.timers.cancelled = true

theorem isGrantClosed_iff {g : Nat} :
    t.isGrantClosed g = true ↔ ∃ s, t.retired.get? g = some s ∧ s.isClosed = true := by
  unfold isGrantClosed
  rw [Option.any_eq_true]

theorem Ending.of_running (h : t.state = .running) : t.Ending := by
  refine ⟨?_, ?_, ?_, ?_, ?_⟩ <;> intro hstate <;> rw [h] at hstate <;> cases hstate

/-- The table is closed when everything that it awaits is. -/
theorem Ending.finish (h : t.Ending) (hgranted : t.Granted) (hstate : t.state = .closing)
    (hall : t.awaited.all t.isGrantClosed = true) :
    Ending { t with state := .closed, timers := t.timers.cancel } := by
  have hclosed : ∀ g ∈ t.awaited, t.isGrantClosed g = true := List.all_eq_true.1 hall
  refine ⟨nofun, nofun, fun _ a => ?_, fun _ _ => hclosed, fun _ _ => rfl⟩
  cases hlive : t.slots.get? a with
  | none => rfl
  | some s =>
    -- a live slot would be awaited, and have left the table
    obtain ⟨x, hx, -⟩ := isGrantClosed_iff.1 (hclosed _ (h.marked hstate hlive).2)
    rw [hgranted.apart hlive] at hx
    cases hx

/-- An event that leaves the state as it is. -/
theorem Ending.keep (h : t.Ending) (hpassage : Passage now t e t') (hstate : t'.state = t.state)
    (hawaited : t'.awaited = t.awaited) (hbound : t'.bound = t.bound)
    (hcancelled : t.timers.cancelled = true → t'.timers.cancelled = true) : t'.Ending := by
  refine ⟨fun hs => ?_, fun hs a s' hs' => ?_, fun hs a => ?_, fun hs hb g hg => ?_, fun hs hb => ?_⟩
  all_goals rw [hstate] at hs
  · rw [hbound]
    exact h.unstarted hs
  · obtain ⟨s, hlive, hlater⟩ | ⟨-, hgranting⟩ := hpassage.origin hs'
    · obtain ⟨hreleasing, hmem⟩ := h.marked hs hlive
      rw [hlater.grant, hawaited]
      exact ⟨hlater.releasing hreleasing, hmem⟩
    · rw [hgranting.running] at hs
      cases hs
  · cases hlive : t'.slots.get? a with
    | none => rfl
    | some s' =>
      obtain ⟨s, hlive', -⟩ | ⟨-, hgranting⟩ := hpassage.origin hlive
      · rw [h.gone hs a] at hlive'
        cases hlive'
      · rw [hgranting.running] at hs
        cases hs
  · rw [hawaited] at hg
    rw [hbound] at hb
    obtain ⟨s, hretired, hclosed⟩ := isGrantClosed_iff.1 (h.finished hs hb g hg)
    obtain ⟨s', hretired', haside⟩ := hpassage.stays hretired
    exact isGrantClosed_iff.2 ⟨s', hretired', haside.closed hclosed⟩
  · rw [hbound] at hb
    exact hcancelled (h.cancelled hs hb)

theorem Ending.after (h : r.table.Ending) (hsound : r.table.Sound)
    (hgranted : r.table.Granted) (e : TableEvent) : (r.after e).table.Ending := by
  have hmoves := after_moves hsound e
  have hpassage := hgranted.passage hsound e
  by_cases he : e.Closes
  · obtain hsame | ⟨hcreated, htable⟩ | ⟨hrunning, hclosing, hnamed, hmarked⟩ := after_closes hsound he
    · rw [hsame]
      exact h
    · have hfresh := hsound.fresh hcreated
      have hunbound := h.unstarted hcreated
      rw [htable]
      refine ⟨nofun, nofun, fun _ => hfresh, fun _ hb => ?_, fun _ hb => ?_⟩
      · exact absurd (hunbound.symm.trans hb) nofun
      · exact absurd (hunbound.symm.trans hb) nofun
    · refine ⟨fun hs => ?_, fun _ a s' hs' => ⟨hmarked a s' hs', ?_⟩, fun hs => ?_, fun hs => ?_,
        fun hs => ?_⟩
      · rw [hclosing] at hs
        cases hs
      · obtain ⟨s, hlive, hlater⟩ | ⟨-, hgranting⟩ := hpassage.origin hs'
        · rw [hlater.grant]
          exact hnamed a s hlive
        · exact absurd he hgranting.not_closes
      all_goals rw [hclosing] at hs; cases hs
  · obtain ⟨hstate, hawaited, hbound⟩ | hrunning | ⟨hclosing, hall, htable⟩ := state_of_moves hmoves he
    · exact h.keep hpassage hstate hawaited hbound (registers_of_moves hmoves).cancelled
    · exact .of_running hrunning
    · rw [htable]
      exact h.finish hgranted hclosing hall

theorem Ending.afterAll (h : r.table.Ending) (hsound : r.table.Sound)
    (hgranted : r.table.Granted) (events : List TableEvent) : (r.afterAll events).table.Ending := by
  induction events generalizing r with
  | nil => exact h
  | cons e rest ih =>
    exact ih (h.after hsound hgranted e) (hsound.after e).1 (hgranted.after hsound e)

theorem Ending.new {config : TableConfig} {timers : Timers AllocationId} {table : SlotTable}
    (h : SlotTable.new config timers = .ok table) : table.Ending := by
  obtain rfl := eq_of_new h
  exact ⟨fun _ => rfl, nofun, nofun, nofun, nofun⟩

/-! ## Using a table that closes -/

/-- No slot can be granted or claimed any more, and no task bound. -/
structure Sealed (t : SlotTable) : Prop where
  releasing : ∀ {a s}, t.slots.get? a = some s → s.state = .releasing
  allocate : ∀ now request,
    t.allocate now request = .refuse t (.illegalState (.notRunning t.state))
  markActive : ∀ a, t.markActive a = .refuse t (.illegalState (.notRunning t.state))
  tryMarkActive : ∀ job a, t.tryMarkActive job a = .answer t false
  addTask : ∀ task, t.addTask task = .refuse t (.illegalState (.notRunning t.state))

/-- There is nothing left in the table, and no timeout will come. -/
structure Emptied (t : SlotTable) : Prop where
  slots : t.slots = .empty
  indices : t.indices = .empty
  jobs : t.jobSlots = .empty
  tasks : t.taskOwners = .empty
  reserved : t.budget.reserved = .zero
  cancelled : t.timers.cancelled = true
  registrations : t.timers.registrations = .empty

theorem state_of_rank_le (h : TableState.closing.rank ≤ t.state.rank) :
    t.state = .closing ∨ t.state = .closed := by
  cases hstate : t.state with
  | created | running =>
    rw [hstate] at h
    exact absurd h (by decide)
  | closing => exact .inl rfl
  | closed => exact .inr rfl

theorem Ending.sealed (h : t.Ending) (hrank : TableState.closing.rank ≤ t.state.rank) : t.Sealed := by
  have hstate := state_of_rank_le hrank
  have hnot : t.state ≠ .running := by
    rcases hstate with hs | hs <;> rw [hs] <;> nofun
  have hreleasing : ∀ {a s}, t.slots.get? a = some s → s.state = .releasing := by
    intro a s hlive
    rcases hstate with hs | hs
    · exact (h.marked hs hlive).1
    · rw [h.gone hs a] at hlive
      cases hlive
  refine ⟨hreleasing, fun _ _ => if_neg hnot, fun _ => if_neg hnot, fun job a => ?_,
    fun _ => if_neg hnot⟩
  unfold SlotTable.tryMarkActive
  cases hlive : t.slots.get? a with
  | none => rfl
  | some s =>
    have hallocated : s.isAllocated job a = false := by
      unfold TaskSlot.isAllocated
      rw [hreleasing hlive]
      rfl
    simp only [hallocated, Bool.false_eq_true, ↓reduceIte]

theorem Ending.emptied (h : t.Ending) (hsound : t.Sound) (hstate : t.state = .closed)
    (hbound : t.bound = true) (hnone : ∀ a, t.registration? a = none) : t.Emptied := by
  have hslots : t.slots = .empty := SortedMap.ext_get? (h.gone hstate)
  have hdead : ∀ {a s}, t.slots.get? a ≠ some s := fun hs => by
    rw [h.gone hstate] at hs
    cases hs
  refine ⟨hslots, SortedMap.ext_get? fun i => ?_, SortedMap.ext_get? fun j => ?_,
    SortedMap.ext_get? fun x => ?_, ResourceProfile.ext_units fun d => ?_, h.cancelled hstate hbound,
    SortedMap.ext_get? hnone⟩
  · cases hindex : t.indices.get? i with
    | none => rfl
    | some a =>
      obtain ⟨s, hs, -⟩ := hsound.indexed.1 hindex
      exact absurd hs hdead
  · cases hjob : t.jobSlots.get? j with
    | none => rfl
    | some as =>
      obtain ⟨a, u, hu⟩ := SortedMap.isEmpty_eq_false_iff.1 (hsound.occupied hjob)
      obtain ⟨s, hs, -⟩ := hsound.jobs.1 (mem_jobAllocations_iff.2 ⟨as, u, hjob, hu⟩)
      exact absurd hs hdead
  · cases hlisted : t.taskOwners.get? x with
    | none => rfl
    | some a =>
      obtain ⟨s, task, hs, -⟩ := hsound.listed hlisted
      exact absurd hs hdead
  · rw [hsound.reserved d, held, hslots, ResourceProfile.units_zero]
    rfl

end SlotTable

namespace TableRun

/-! ## Runs -/

/-- Later on there are no other slots than those of a table that closes, and these get no tasks. -/
theorem later_of_rank_le (hsound : r.table.Sound) (hgranted : r.table.Granted)
    (hrank : TableState.closing.rank ≤ r.table.state.rank) {events : List TableEvent}
    {a : AllocationId} {s' : TaskSlot} (hs : (r.afterAll events).table.slots.get? a = some s') :
    ∃ s, r.table.slots.get? a = some s ∧ s.Later s' := by
  obtain hcarried | ⟨before, x, rest, s, -, -, -, hgranting⟩ := hgranted.granted_or_carried hsound hs
  · exact hcarried
  · have hle := Nat.le_trans hrank (rank_le_afterAll hsound before)
    rw [hgranting.running] at hle
    exact absurd hle (by decide)

theorem awaited_afterAll (hsound : r.table.Sound)
    (hrank : TableState.closing.rank ≤ r.table.state.rank) (events : List TableEvent) :
    (r.afterAll events).table.awaited = r.table.awaited := by
  induction events generalizing r with
  | nil => rfl
  | cons e rest ih =>
    have hmoves := after_moves hsound e
    have hrank' := Nat.le_trans hrank (rank_le_of_moves hmoves)
    refine (ih (hsound.after e).1 hrank').trans ?_
    by_cases he : e.Closes
    · obtain hsame | ⟨hstate, -⟩ | ⟨hstate, -⟩ := after_closes hsound he
      · rw [hsame]
      all_goals
        rw [hstate] at hrank
        exact absurd hrank (by decide)
    · obtain ⟨-, hawaited, -⟩ | hrunning | ⟨-, -, htable⟩ := state_of_moves hmoves he
      · exact hawaited
      · rw [hrunning] at hrank'
        exact absurd hrank' (by decide)
      · rw [htable]

/-- A run that leaves the running state does so by some event. -/
theorem exists_end_of_running {before rest : List TableEvent}
    (hrunning : (r.afterAll before).table.state = .running)
    (hend : (r.afterAll (before ++ rest)).table.state ≠ .running) :
    ∃ before' e rest', before ++ rest = before' ++ e :: rest' ∧
      (r.afterAll before').table.state = .running ∧
      ((r.afterAll before').after e).table.state ≠ .running := by
  induction rest generalizing before with
  | nil =>
    rw [List.append_nil] at hend
    exact absurd hrunning hend
  | cons e rest ih =>
    by_cases hafter : ((r.afterAll before).after e).table.state = .running
    · rw [← afterAll_concat] at hafter
      rw [List.append_cons] at hend ⊢
      exact ih hafter hend
    · exact ⟨before, e, rest, rfl, hrunning, hafter⟩

/-- A running table is left by closing it, and all that were live are awaited. -/
theorem closes_of_end (hsound : r.table.Sound) (hrunning : r.table.state = .running)
    (hend : (r.after e).table.state ≠ .running) :
    e.Closes ∧ (r.after e).table.state = .closing ∧
      ∀ a s, r.table.slots.get? a = some s → s.grant ∈ (r.after e).table.awaited := by
  by_cases he : e.Closes
  · obtain hsame | ⟨hstate, -⟩ | ⟨-, hclosing, hnamed, -⟩ := after_closes hsound he
    · rw [hsame] at hend
      exact absurd hrunning hend
    · rw [hrunning] at hstate
      cases hstate
    · exact ⟨he, hclosing, hnamed⟩
  · obtain ⟨hstate, -⟩ | hstate | ⟨hstate, -⟩ := state_of_moves (after_moves hsound e) he
    · exact absurd (hstate.trans hrunning) hend
    · exact absurd hstate hend
    · rw [hrunning] at hstate
      cases hstate

/-- Every slot that was live when a table began to close is closed when the table is. -/
theorem retired_of_closed (hsound : r.table.Sound) (hgranted : r.table.Granted)
    (hending : r.table.Ending) (hrunning : r.table.state = .running)
    (hend : (r.after e).table.state ≠ .running) {rest : List TableEvent}
    (hclosed : ((r.after e).afterAll rest).table.state = .closed) {a : AllocationId} {s : TaskSlot}
    (hs : r.table.slots.get? a = some s) :
    ∃ s', ((r.after e).afterAll rest).table.retired.get? s.grant = some s' ∧ s.SameGrant s' ∧
      s'.isClosed = true := by
  obtain ⟨-, hclosing, hnamed⟩ := closes_of_end hsound hrunning hend
  have hsound' := (hsound.after e).1
  have hrank : TableState.closing.rank ≤ (r.after e).table.state.rank :=
    Nat.le_of_eq (congrArg TableState.rank hclosing.symm)
  have hlast := hending.afterAll hsound hgranted (e :: rest)
  rw [afterAll_cons] at hlast
  have hawaited : s.grant ∈ ((r.after e).afterAll rest).table.awaited := by
    rw [awaited_afterAll hsound' hrank rest]
    exact hnamed a s hs
  have hbound : ((r.after e).afterAll rest).table.bound = true :=
    hgranted.bound_afterAll hsound (hsound.bound hrunning) (e :: rest)
  obtain ⟨s', hs', hdone⟩ := isGrantClosed_iff.1 (hlast.finished hclosed hbound _ hawaited)
  obtain ⟨x, hx, -⟩ | ⟨x, hx, hsame⟩ := hgranted.carried_or_retired hsound hs (e :: rest)
  · rw [afterAll_cons, hlast.gone hclosed] at hx
    cases hx
  · rw [afterAll_cons, hs'] at hx
    obtain rfl := Option.some.inj hx
    exact ⟨s', hs', hsame, hdone⟩

/-- Such a slot left the table without tasks, and its memory is released, or the grace period is over. -/
theorem givenBack_of_closed {start : TableRun} {before rest : List TableEvent}
    (hsound : start.table.Sound) (hgranted : start.table.Granted) (hending : start.table.Ending)
    (hnone : ∀ g, start.table.retired.get? g = none)
    (hrunning : (start.afterAll before).table.state = .running)
    (hend : ((start.afterAll before).after e).table.state ≠ .running)
    (hclosed : (start.afterAll (before ++ e :: rest)).table.state = .closed) {a : AllocationId}
    {s : TaskSlot} (hs : (start.afterAll before).table.slots.get? a = some s) :
    ∃ s', (start.afterAll (before ++ e :: rest)).table.retired.get? s.grant = some s' ∧
      s.SameGrant s' ∧ s'.isEmpty = true ∧ s'.isClosed = true ∧ (s'.memory.isUnused = true ∨
        ∃ left, Left start (before ++ e :: rest) s.grant left ∧
          left + start.table.config.memoryReleaseGraceMs.toNat ≤
            (start.afterAll (before ++ e :: rest)).now) := by
  have hsplit : start.afterAll (before ++ e :: rest) = ((start.afterAll before).after e).afterAll rest := by
    rw [afterAll_append, afterAll_cons]
  rw [hsplit] at hclosed
  obtain ⟨s', hs', hsame, hdone⟩ := retired_of_closed (hsound.afterAll before).1
    (hgranted.afterAll hsound before) (hending.afterAll hsound hgranted before) hrunning hend hclosed hs
  rw [← hsplit] at hs'
  obtain ⟨left, hleft, hback⟩ := givenBack_of_retired hsound hgranted hnone hs'
  refine ⟨s', hs', hsame, hback.empty, hdone, ?_⟩
  rcases hback.teardown with hwaiting | ⟨-, hreleased⟩
  · -- a closed slot waits no more
    have hdone : s'.teardown = .done := of_decide_eq_true hdone
    rw [hdone] at hwaiting
    cases hwaiting
  · exact hreleased.imp id fun hover => ⟨left, hleft, hover⟩

end TableRun

/-- The state of a table moves forward only. Once it closes, all its slots are to be given back, there will
be no others, and none is claimed or gets a task any more. A table that was started and is closed has
nothing left: no slot, nothing in its books, nothing reserved, and no timeout. It was closed by some event
while it was running, and whatever slot was live then has left the table since, without tasks; it is closed,
and nothing is held of its memory or the grace period is over since it left. -/
theorem closing_of_new {config : TableConfig} {timers : Timers AllocationId} {table : SlotTable}
    (hnew : SlotTable.new config timers = .ok table)
    (hunused : timers.started = false → timers.registrations = .empty) (listening : Bool)
    (events : List TableEvent) :
    let start := TableRun.new table listening
    let r := start.afterAll events
    (∀ before rest, events = before ++ rest →
      (start.afterAll before).table.state.rank ≤ r.table.state.rank) ∧
    (TableState.closing.rank ≤ r.table.state.rank → r.table.Sealed ∧
      ∀ more a s', (r.afterAll more).table.slots.get? a = some s' →
        ∃ s, r.table.slots.get? a = some s ∧ s.Later s') ∧
    (∀ before rest, events = before ++ rest → (start.afterAll before).table.state = .running →
      r.table.isClosed = true → r.table.Emptied ∧
      ∃ before e rest, events = before ++ e :: rest ∧ e.Closes ∧
        (start.afterAll before).table.state = .running ∧
        (start.afterAll (before ++ [e])).table.state = .closing ∧
        ∀ a s, (start.afterAll before).table.slots.get? a = some s →
          ∃ s', r.table.retired.get? s.grant = some s' ∧ s.SameGrant s' ∧ s'.isEmpty = true ∧
            s'.isClosed = true ∧ (s'.memory.isUnused = true ∨
              ∃ left, Left start events s.grant left ∧
                left + config.memoryReleaseGraceMs.toNat ≤ r.now)) := by
  intro start r
  have hbegin : start.table.Sound := (Sound.new hnew).1
  have hconfig : start.table.config = config := (Sound.new hnew).2
  have hgranted : start.table.Granted := .new hnew
  have hending : start.table.Ending := .new hnew
  have hsound := fun events => (hbegin.afterAll events).1
  have hend : r.table.Ending := hending.afterAll hbegin hgranted events
  refine ⟨?_, fun hrank => ⟨hend.sealed hrank, fun more a s' hs' => ?_⟩, ?_⟩
  · rintro before rest rfl
    show _ ≤ (start.afterAll (before ++ rest)).table.state.rank
    rw [afterAll_append]
    exact rank_le_afterAll (hsound before) rest
  · exact later_of_rank_le (hsound events) (hgranted.afterAll hbegin events) hrank hs'
  · rintro before rest rfl hrunning hisClosed
    have hclosed : r.table.state = .closed := of_decide_eq_true hisClosed
    have hnone : ∀ a, start.table.registration? a = none :=
      registration?_eq_none_of_running hnew hunused hrunning
    refine ⟨hend.emptied (hsound _) hclosed ?_ fun a => ?_, ?_⟩
    · show (start.afterAll (before ++ rest)).table.bound = true
      rw [afterAll_append]
      exact (hgranted.afterAll hbegin before).bound_afterAll (hsound before)
        ((hsound before).bound hrunning) rest
    · cases hreg : r.table.registration? a with
      | none => rfl
      | some reg =>
        -- a registered timeout would be that of a live slot
        obtain ⟨s, hs, -⟩ := (standing_of_registration hbegin hnone hreg).exists_slot
        have hs : r.table.slots.get? a = some s := hs
        rw [hend.gone hclosed] at hs
        cases hs
    · have hleft : r.table.state ≠ .running := by
        rw [hclosed]
        nofun
      obtain ⟨before', e, rest', hsplit, hrunning', hend'⟩ := exists_end_of_running hrunning hleft
      obtain ⟨he, hclosing, -⟩ := closes_of_end (hsound before') hrunning' hend'
      have hr : r = start.afterAll (before' ++ e :: rest') := congrArg start.afterAll hsplit
      rw [hsplit, hr]
      rw [hr] at hclosed
      refine ⟨before', e, rest', rfl, he, hrunning', ?_, fun a s hs => ?_⟩
      · rw [afterAll_concat]
        exact hclosing
      · rw [← hconfig]
        refine givenBack_of_closed hbegin hgranted hending ?_ hrunning' hend' hclosed hs
        obtain rfl := eq_of_new hnew
        exact fun _ => rfl

/-- A table is closed while its slot has a task and holds memory that nobody releases. -/
theorem closing_of_new_graceOver : ∃ table,
    SlotTable.new (.evenlyDivided 2 TableConfig.standardProfile) (.new 0) = .ok table ∧
    let used : List TableEvent :=
      [.operation .start, .operation (.allocate ⟨.fixed 0, ⟨0⟩, ⟨1⟩, none, 5⟩),
        .operation (.markActive ⟨1⟩), .operation (.addTask ⟨⟨7⟩, ⟨0⟩, ⟨1⟩⟩),
        .happening (.memory 0 (.reserve "sort" 1))]
    let closed : List TableEvent :=
      [.operation .close, .operation (.removeTask ⟨7⟩), .operation (.free ⟨1⟩ emptiedCause),
        .happening (.tick 10000), .happening (.teardown 0), .happening .finish]
    let start := TableRun.new table true
    let r := start.afterAll (used ++ closed)
    (start.afterAll used).table.state = .running ∧ r.table.isClosed = true ∧ r.table.Sealed ∧
      r.table.Emptied := by
  have hnew : SlotTable.new (.evenlyDivided 2 TableConfig.standardProfile) (.new 0) = .ok _ := rfl
  refine ⟨_, hnew, ?_⟩
  intro used closed start r
  obtain ⟨-, hsealed, hemptied⟩ := closing_of_new hnew (fun _ => rfl) true (used ++ closed)
  exact ⟨by decide, by decide, (hsealed (by decide)).1,
    (hemptied used closed rfl (by decide) (by decide)).1⟩

end WorkerSlots
