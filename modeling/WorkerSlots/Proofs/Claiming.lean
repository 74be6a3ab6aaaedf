import WorkerSlots.Proofs.Agreement
import WorkerSlots.Proofs.Indices
import WorkerSlots.Proofs.SlotTimeouts

/-!
# Claiming slots

A job claims its slot by `markActive`, which only a running table heeds, or by `tryMarkActive`, which looks at
the slot alone.

* `activate_of_allocated`, `activate_of_claimed` : what claiming a live slot comes to;
* `markActive_of_live`, `tryMarkActive_of_owned`, `tryMarkActive_of_foreign` : the two ways of claiming, case
  by case;
* `ClaimedAlike` : the two ways agree, as there are no slots to be claimed but in a running table
  (`Sound.claimed_alike`), `claimed_alike_of_new`;
* `IsReleasing` : the slot of an allocation is to be given back;
* `Stands` : what those who are told that they have a slot, or that it is claimed, can rely on (`Sound.stands`),
  `stands_of_new`. A slot that is to be given back already is theirs only as long as it drains
  (`not_allocated_of_draining`).
-/

namespace WorkerSlots

open SlotTable TableRun

namespace SlotTable

variable {t : SlotTable} {s : TaskSlot} {a : AllocationId} {job : JobId}

/-! ## Claiming a live slot -/

theorem activate_of_allocated (t : SlotTable) (hstate : s.state = .allocated) :
    t.activate s = .answer
      { t with
        slots := t.slots.insert s.allocation { s with state := .active }
        timers := t.timers.unregister s.allocation } true := by
  unfold activate TaskSlot.activate?
  rw [if_pos hstate]

/-- A slot that is claimed already, or is to be given back, is not claimed again. -/
theorem activate_of_claimed (t : SlotTable) (hstate : s.state ≠ .allocated) : t.activate s = .answer t false := by
  unfold activate TaskSlot.activate?
  rw [if_neg hstate]

theorem activate_eq_true_iff : (t.activate s).result = .ok true ↔ s.state = .allocated := by
  by_cases hstate : s.state = .allocated
  · rw [activate_of_allocated t hstate]
    exact iff_of_true rfl hstate
  · rw [activate_of_claimed t hstate]
    exact iff_of_false nofun hstate

theorem markActive_of_live (hstate : t.state = .running) (hlive : t.slots.get? a = some s) :
    t.markActive a = t.activate s := by
  unfold markActive whenRunning
  rw [if_pos hstate, hlive]

/-- Nothing is claimed by a table that does not run, nor for an allocation that has no slot. -/
theorem live_of_markActive {claimed : Bool} (hok : (t.markActive a).result = .ok claimed) :
    t.state = .running ∧ ∃ s, t.slots.get? a = some s := by
  unfold markActive whenRunning at hok
  by_cases hstate : t.state = .running
  · rw [if_pos hstate] at hok
    cases hlive : t.slots.get? a with
    | none =>
      rw [hlive] at hok
      cases hok
    | some s => exact ⟨hstate, s, rfl⟩
  · rw [if_neg hstate] at hok
    cases hok

theorem tryMarkActive_of_owned (hlive : t.slots.get? a = some s) (howned : s.isAllocated job a = true) :
    t.tryMarkActive job a = t.activate s := by
  unfold tryMarkActive
  simp only [hlive, howned, ↓reduceIte]

theorem tryMarkActive_of_foreign (hforeign : ∀ s, t.slots.get? a = some s → s.isAllocated job a = false) :
    t.tryMarkActive job a = .answer t false := by
  unfold tryMarkActive
  cases hlive : t.slots.get? a with
  | none => rfl
  | some s => simp only [hforeign s hlive, Bool.false_eq_true, ↓reduceIte]

/-- A slot is a job's by its allocation if it is the job's, as long as it is not to be given back. -/
theorem Books.isAllocated_of_live (h : t.Books) (hlive : t.slots.get? a = some s) :
    s.isAllocated job a = true ↔ s.state ≠ .releasing ∧ s.job = job := by
  unfold TaskSlot.isAllocated TaskSlot.isOwnedBy
  simp only [Bool.and_eq_true, decide_eq_true_iff, h.keyed hlive, and_true]

end SlotTable

/-! ## Two ways of claiming -/

/-- Claiming the slot of an allocation for a job without regard to the state of the table comes to the same as
claiming it with regard to it, if it is the job's, and to nothing otherwise. -/
structure ClaimedAlike (r : TableRun) (job : JobId) (a : AllocationId) : Prop where
  answered : ∃ claimed, (r.perform (.tryMarkActive job a)).1 = .ok claimed
  claimed_iff : (r.perform (.tryMarkActive job a)).1 = .ok true ↔
    r.table.state = .running ∧ r.table.owningJob? a = some job ∧ (r.perform (.markActive a)).1 = .ok true
  same : (r.perform (.tryMarkActive job a)).1 = .ok true →
    (r.perform (.tryMarkActive job a)).2 = (r.perform (.markActive a)).2
  unchanged : (r.perform (.tryMarkActive job a)).1 = .ok false → (r.perform (.tryMarkActive job a)).2 = r
  notRunning : r.table.state ≠ .running → r.perform (.tryMarkActive job a) = (.ok false, r)

variable {r : TableRun} {s : TaskSlot} {a : AllocationId} {job : JobId}

/-- A slot that cannot be claimed for the job is not claimed. -/
theorem ClaimedAlike.of_refused (heq : r.table.tryMarkActive job a = .answer r.table false)
    (hnot : ¬ (r.table.state = .running ∧ r.table.owningJob? a = some job ∧
      (r.perform (.markActive a)).1 = .ok true)) : ClaimedAlike r job a := by
  have hperform : r.perform (.tryMarkActive job a) = (.ok false, r) := by
    show ((r.table.tryMarkActive job a).result, r.absorb (r.table.tryMarkActive job a)) = _
    rw [heq, r.absorb_answer]
    rfl
  refine ⟨⟨false, by rw [hperform]⟩, ?_, ?_, fun _ => by rw [hperform], fun _ => hperform⟩
  · rw [hperform]
    exact iff_of_false nofun hnot
  · rw [hperform]
    nofun

/-- A slot that can be claimed for the job is claimed, in a table that runs. -/
theorem ClaimedAlike.of_claimed (hrunning : r.table.state = .running) (howner : r.table.owningJob? a = some job)
    (hsame : r.table.tryMarkActive job a = r.table.markActive a)
    (hok : (r.table.markActive a).result = .ok true) : ClaimedAlike r job a := by
  have hok' : (r.table.tryMarkActive job a).result = .ok true := by
    rw [hsame]
    exact hok
  refine ⟨⟨true, hok'⟩, iff_of_true hok' ⟨hrunning, howner, hok⟩, fun _ => ?_, fun hfalse => ?_,
    fun hnot => absurd hrunning hnot⟩
  · exact congrArg r.absorb hsame
  · exact absurd (hok'.symm.trans hfalse) nofun

theorem SlotTable.Sound.claimed_alike (h : r.table.Sound) (hending : r.table.Ending) (job : JobId)
    (a : AllocationId) : ClaimedAlike r job a := by
  by_cases howned : ∃ s, r.table.slots.get? a = some s ∧ s.isAllocated job a = true
  · obtain ⟨s, hlive, howned⟩ := howned
    obtain ⟨hstate, hjob⟩ := (h.isAllocated_of_live hlive).1 howned
    -- only a running table has slots that are not to be given back
    have hrunning : r.table.state = .running := hending.running h hlive hstate
    have htry := tryMarkActive_of_owned hlive howned
    have hmark := markActive_of_live hrunning hlive
    by_cases hallocated : s.state = .allocated
    · refine .of_claimed hrunning ?_ (htry.trans hmark.symm) ?_
      · exact h.owningJob?_iff.2 (h.jobs.2 ⟨s, hlive, hjob⟩)
      · rw [hmark]
        exact activate_eq_true_iff.2 hallocated
    · refine .of_refused (htry.trans (activate_of_claimed _ hallocated)) ?_
      rintro ⟨-, -, hclaimed⟩
      have hclaimed : (r.table.markActive a).result = .ok true := hclaimed
      rw [hmark] at hclaimed
      exact hallocated (activate_eq_true_iff.1 hclaimed)
  · refine .of_refused (tryMarkActive_of_foreign fun s hlive => ?_) ?_
    · exact Bool.eq_false_iff.2 fun hallocated => howned ⟨s, hlive, hallocated⟩
    · rintro ⟨hrunning, howner, hclaimed⟩
      have hclaimed : (r.table.markActive a).result = .ok true := hclaimed
      obtain ⟨s, hlive, hjob⟩ := h.jobs.1 (h.owningJob?_iff.1 howner)
      rw [markActive_of_live hrunning hlive] at hclaimed
      have hallocated := activate_eq_true_iff.1 hclaimed
      exact howned ⟨s, hlive, (h.isAllocated_of_live hlive).2 ⟨by rw [hallocated]; nofun, hjob⟩⟩

/-- In every run of a table, the two ways of claiming a slot agree: the one that looks at the slot alone claims it
if and only if the table runs, the slot is the job's, and the other one would claim it. Then both come to the same,
and otherwise nothing changes. -/
theorem claimed_alike_of_new {config : TableConfig} {timers : Timers AllocationId} {table : SlotTable}
    (hnew : SlotTable.new config timers = .ok table) (listening : Bool) (events : List TableEvent) (job : JobId)
    (a : AllocationId) : ClaimedAlike ((TableRun.new table listening).afterAll events) job a := by
  have hsound : (TableRun.new table listening).table.Sound := (Sound.new hnew).1
  have hending := Ending.afterAll (r := .new table listening) (.new hnew) hsound (.new hnew) events
  exact (Sound.ofNew hnew listening events).1.claimed_alike hending job a

/-- A job has let its slot go for the time being. It may be claimed again, until the table is closed while another
slot has a task. -/
theorem claimed_alike_of_new_letGo : ∃ table,
    SlotTable.new (.evenlyDivided 2 TableConfig.standardProfile) (.new 0) = .ok table ∧
    let used : List TableEvent :=
      [.operation .start, .operation (.allocate ⟨.fixed 0, ⟨0⟩, ⟨1⟩, none, 5⟩),
        .operation (.allocate ⟨.fixed 1, ⟨0⟩, ⟨2⟩, none, 5⟩), .operation (.markActive ⟨1⟩),
        .operation (.markActive ⟨2⟩), .operation (.addTask ⟨⟨7⟩, ⟨0⟩, ⟨1⟩⟩), .operation (.markInactive ⟨2⟩ 5)]
    let r := (TableRun.new table true).afterAll used
    let closing := (TableRun.new table true).afterAll (used ++ [.operation .close])
    ClaimedAlike r ⟨0⟩ ⟨2⟩ ∧ (r.perform (.tryMarkActive ⟨0⟩ ⟨2⟩)).1 = .ok true ∧
      ClaimedAlike closing ⟨0⟩ ⟨1⟩ ∧ (closing.perform (.tryMarkActive ⟨0⟩ ⟨1⟩)).1 = .ok false := by
  have hnew : SlotTable.new (.evenlyDivided 2 TableConfig.standardProfile) (.new 0) = .ok _ := rfl
  refine ⟨_, hnew, ?_⟩
  intro used r closing
  have halike : ClaimedAlike closing ⟨0⟩ ⟨1⟩ := claimed_alike_of_new hnew true _ ⟨0⟩ ⟨1⟩
  exact ⟨claimed_alike_of_new hnew true used ⟨0⟩ ⟨2⟩, by decide +kernel, halike, by decide +kernel⟩

/-! ## What an answer promises -/

/-- The slot of an allocation is to be given back. -/
def SlotTable.IsReleasing (t : SlotTable) (a : AllocationId) : Prop :=
  ∃ s, t.slot? a = some s ∧ s.state = .releasing

theorem SlotTable.isReleasing_iff {t : SlotTable} (hlive : t.slots.get? a = some s) :
    t.IsReleasing a ↔ s.state = .releasing := by
  constructor
  · rintro ⟨x, hx, hstate⟩
    obtain rfl : s = x := Option.some.inj (hlive.symm.trans hx)
    exact hstate
  · exact fun hstate => ⟨s, hlive, hstate⟩

/-- What those who are told that they have a slot, or that it is claimed, can rely on, unless the slot was to be
given back when they asked. -/
structure Stands (r : TableRun) : Prop where
  /-- There is a slot at the index that is answered, and it is the job's. -/
  granted : ∀ request i, (r.perform (.allocate request)).1 = .ok i →
    ∃ s, (r.perform (.allocate request)).2.table.slot? request.allocation = some s ∧ s.index = i ∧
      s.job = request.job
  allocated_iff : ∀ request i, (r.perform (.allocate request)).1 = .ok i →
    ((r.perform (.allocate request)).2.table.isAllocated i request.job request.allocation = true ↔
      ¬ r.table.IsReleasing request.allocation)
  /-- A slot to be given back is left alone by a request for it. -/
  repeated : ∀ request, r.table.IsReleasing request.allocation → (r.perform (.allocate request)).2 = r
  claimed : ∀ a claimed, (r.perform (.markActive a)).1 = .ok claimed →
    claimed = true ∨ ¬ r.table.IsReleasing a →
      ∃ s, (r.perform (.markActive a)).2.table.slot? a = some s ∧ s.state = .active

namespace SlotTable

variable {t : SlotTable} {request : SlotRequest} {i : SlotIndex}

/-- The slot that a request is answered with: it is as it was before, or has just been granted. -/
theorem Sound.answered_slot (h : t.Sound) (now : Nat) (hok : (t.allocate now request).result = .ok i) :
    ∃ s, (t.allocate now request).table.slots.get? request.allocation = some s ∧ s.index = i ∧
      s.job = request.job ∧ (s.state = .releasing ↔ t.IsReleasing request.allocation) := by
  have hcases := h.allocate_cases now request
  generalize t.allocate now request = reply at hcases hok ⊢
  cases hcases with
  | @known s hlive hasked =>
    obtain rfl : s.index = i := Except.ok.inj hok
    unfold isAsRequested at hasked
    simp only [Bool.and_eq_true, decide_eq_true_iff] at hasked
    exact ⟨s, hlive, rfl, hasked.1.1, (isReleasing_iff hlive).symm⟩
  | other | unavailable | refused => cases hok
  | @granted next budget ticket timers s _ hfree _ _ _ hslot =>
    obtain rfl : s.index = i := Except.ok.inj hok
    obtain ⟨-, -, -, hjob, hallocation, hallocated, -⟩ := TaskSlot.new?_eq_some hslot
    refine ⟨s, hallocation ▸ SortedMap.get?_insert_self _ _ _, rfl, hjob, iff_of_false ?_ ?_⟩
    · rw [hallocated]
      nofun
    · rintro ⟨x, hx, -⟩
      exact absurd (hfree.symm.trans hx) nofun

/-- A request for an allocation that has a slot changes nothing. -/
theorem Sound.allocate_keeps_of_live (h : t.Sound) (now : Nat)
    (hlive : t.slots.get? request.allocation = some s) :
    t.allocate now request = .answer t s.index ∨ ∃ error, t.allocate now request = .refuse t error := by
  have hcases := h.allocate_cases now request
  generalize t.allocate now request = reply at hcases ⊢
  cases hcases with
  | @known x hx =>
    obtain rfl : s = x := Option.some.inj (hlive.symm.trans hx)
    exact .inl rfl
  | other | unavailable | refused => exact .inr ⟨_, rfl⟩
  | granted _ hfree => exact absurd (hlive.symm.trans hfree) nofun

/-- A slot that is said to be claimed, now or before, is active, unless it is to be given back. -/
theorem Sound.active_of_markActive (h : t.Sound) {claimed : Bool} (hok : (t.markActive a).result = .ok claimed)
    (hkept : claimed = true ∨ ¬ t.IsReleasing a) :
    ∃ s, (t.markActive a).table.slots.get? a = some s ∧ s.state = .active := by
  obtain ⟨hrunning, s, hlive⟩ := live_of_markActive hok
  rw [markActive_of_live hrunning hlive] at hok ⊢
  rw [isReleasing_iff hlive] at hkept
  cases hstate : s.state with
  | allocated =>
    rw [activate_of_allocated t hstate, ← h.keyed hlive]
    exact ⟨_, SortedMap.get?_insert_self _ _ _, rfl⟩
  | active =>
    rw [activate_of_claimed t (by rw [hstate]; nofun)]
    exact ⟨s, hlive, hstate⟩
  | releasing =>
    rw [activate_of_claimed t (by rw [hstate]; nofun)] at hok
    obtain rfl : false = claimed := Except.ok.inj hok
    exact absurd hstate (hkept.resolve_left nofun)

end SlotTable

theorem SlotTable.Sound.stands (h : r.table.Sound) : Stands r := by
  refine ⟨fun request i hok => ?_, fun request i hok => ?_, fun request hreleasing => ?_,
    fun a claimed hok hkept => h.active_of_markActive hok hkept⟩
  · obtain ⟨s, hs, hindex, hjob, -⟩ := h.answered_slot r.now hok
    exact ⟨s, hs, hindex, hjob⟩
  · obtain ⟨s, hs, hindex, hjob, hreleasing⟩ := h.answered_slot r.now hok
    have hafter : (r.perform (.allocate request)).2.table.Sound := (h.after (.operation (.allocate request))).1
    rw [hafter.isAllocated_iff, ← hreleasing]
    constructor
    · rintro ⟨x, hx, -, -, hstate⟩
      obtain rfl : s = x := Option.some.inj (hs.symm.trans hx)
      exact hstate
    · exact fun hstate => ⟨s, hs, hindex, hjob, hstate⟩
  · obtain ⟨s, hlive, -⟩ := hreleasing
    show r.absorb (r.table.allocate r.now request) = r
    obtain heq | ⟨error, heq⟩ := h.allocate_keeps_of_live r.now hlive
    · rw [heq]
      exact r.absorb_answer _
    · rw [heq]
      exact r.absorb_refuse _

/-- In every run of a table, those who are answered with an index have a slot there, and it is allocated to their
job unless it was to be given back before. A slot that is said to be claimed, now or before, is active, with the
same exception. -/
theorem stands_of_new {config : TableConfig} {timers : Timers AllocationId} {table : SlotTable}
    (hnew : SlotTable.new config timers = .ok table) (listening : Bool) (events : List TableEvent) :
    Stands ((TableRun.new table listening).afterAll events) :=
  (Sound.ofNew hnew listening events).1.stands

/-- A slot is claimed, and its request is repeated: it is allocated, and active. -/
theorem stands_of_new_active : ∃ table,
    SlotTable.new (.evenlyDivided 2 TableConfig.standardProfile) (.new 0) = .ok table ∧
    let request : SlotRequest := ⟨.fixed 0, ⟨0⟩, ⟨1⟩, none, 5⟩
    let r := (TableRun.new table true).afterAll
      [.operation .start, .operation (.allocate request), .operation (.markActive ⟨1⟩)]
    Stands r ∧ (r.perform (.allocate request)).1 = .ok 0 ∧
      (r.perform (.allocate request)).2.table.isAllocated 0 ⟨0⟩ ⟨1⟩ = true ∧
      (r.perform (.markActive ⟨1⟩)).1 = .ok false ∧
      ∃ s, (r.perform (.markActive ⟨1⟩)).2.table.slot? ⟨1⟩ = some s ∧ s.state = .active := by
  have hnew : SlotTable.new (.evenlyDivided 2 TableConfig.standardProfile) (.new 0) = .ok _ := rfl
  refine ⟨_, hnew, ?_⟩
  intro request r
  have hstands : Stands r := stands_of_new hnew true
    [.operation .start, .operation (.allocate request), .operation (.markActive ⟨1⟩)]
  have hkept : ¬ r.table.IsReleasing ⟨1⟩ := by
    rintro ⟨s, hs, hstate⟩
    have hactive : (r.table.slot? ⟨1⟩).map (·.state) = some .active := by decide +kernel
    rw [hs] at hactive
    exact absurd (hstate.symm.trans (Option.some.inj hactive)) nofun
  have hok : (r.perform (.allocate request)).1 = .ok 0 := by decide +kernel
  have hclaimed : (r.perform (.markActive ⟨1⟩)).1 = .ok false := by decide +kernel
  exact ⟨hstands, hok, (hstands.allocated_iff request 0 hok).2 hkept, hclaimed,
    hstands.claimed ⟨1⟩ false hclaimed (.inr hkept)⟩

/-- The request for a slot that drains is answered with its index, and the slot is not said to be missing when it
is claimed. It stays to be given back all the same. -/
theorem not_allocated_of_draining : ∃ table,
    SlotTable.new (.evenlyDivided 2 TableConfig.standardProfile) (.new 0) = .ok table ∧
    let request : SlotRequest := ⟨.fixed 0, ⟨0⟩, ⟨1⟩, none, 5⟩
    let r := (TableRun.new table true).afterAll
      [.operation .start, .operation (.allocate request), .operation (.markActive ⟨1⟩),
        .operation (.addTask ⟨⟨7⟩, ⟨0⟩, ⟨1⟩⟩), .operation (.free ⟨1⟩ "")]
    r.table.state = .running ∧
      ¬ ((r.perform (.allocate request)).1 = .ok 0 →
        (r.perform (.allocate request)).2.table.isAllocated 0 ⟨0⟩ ⟨1⟩ = true) ∧
      ¬ ((r.perform (.markActive ⟨1⟩)).1 = .ok false →
        ((r.perform (.markActive ⟨1⟩)).2.table.slot? ⟨1⟩).map (·.state) = some .active) :=
  ⟨_, rfl, by decide +kernel, by decide +kernel, by decide +kernel⟩

end WorkerSlots
