import Mathlib.Data.List.Nodup
import WorkerSlots.Proofs.Runs

/-!
# What the books say of the live slots

* `mem_slotsInState_iff`, `nodup_allocationsInState` : the queries by job and state;
* `Books.mem_listed_iff`, `Books.nodup_listed` : the allocations of all jobs together;
* `Agreement` : the index map, the job sets, the queries by index, job and state, and the budget all
  describe the live slots;
* `Books.agreement` : they do whenever the books are right, so that they do in every run
  (`agreement_of_new`).
-/

namespace WorkerSlots.SlotTable

variable {t : SlotTable}

/-- The allocations that the books by job list, whatever the job. -/
def listed (t : SlotTable) : List AllocationId := t.jobSlots.values.flatMap SortedMap.keys

/-! ## Queries -/

theorem mem_slotsInState_iff {as : List AllocationId} {state : SlotState} {s : TaskSlot} :
    s ∈ t.slotsInState as state ↔ (∃ a ∈ as, t.slots.get? a = some s) ∧ s.state = state := by
  unfold slotsInState
  rw [List.mem_filter, List.mem_filterMap, decide_eq_true_iff]

theorem Books.nodup_slotsInState (h : t.Books) {as : List AllocationId} (hnodup : as.Nodup)
    (state : SlotState) : (t.slotsInState as state).Nodup := by
  refine List.Nodup.filter _ (List.Nodup.filterMap (fun a b s ha hb => ?_) hnodup)
  rw [← h.keyed ha, ← h.keyed hb]

/-- Slots in a state are told apart by their allocations. -/
theorem Books.nodup_allocationsInState (h : t.Books) {as : List AllocationId} (hnodup : as.Nodup)
    (state : SlotState) : ((t.slotsInState as state).map (·.allocation)).Nodup := by
  refine List.Nodup.map_on (fun s hs s' hs' heq => ?_) (h.nodup_slotsInState hnodup state)
  obtain ⟨⟨a, -, ha⟩, -⟩ := mem_slotsInState_iff.1 hs
  obtain ⟨⟨b, -, hb⟩, -⟩ := mem_slotsInState_iff.1 hs'
  rw [h.keyed ha, h.keyed hb] at heq
  subst heq
  rw [ha] at hb
  exact Option.some.inj hb

theorem nodup_jobAllocations (t : SlotTable) (j : JobId) : (t.jobAllocations j).Nodup := by
  unfold jobAllocations
  cases t.jobSlots.get? j with
  | none => exact List.nodup_nil
  | some as => exact SortedMap.nodup_keys as

theorem mem_listed_iff {a : AllocationId} : a ∈ t.listed ↔ ∃ j, a ∈ t.jobAllocations j := by
  unfold listed
  rw [List.mem_flatMap]
  constructor
  · rintro ⟨as, has, ha⟩
    obtain ⟨j, hj⟩ := SortedMap.mem_values_iff.1 has
    obtain ⟨u, hu⟩ := SortedMap.mem_keys_iff.1 ha
    exact ⟨j, mem_jobAllocations_iff.2 ⟨as, u, hj, hu⟩⟩
  · rintro ⟨j, hj⟩
    obtain ⟨as, u, has, hu⟩ := mem_jobAllocations_iff.1 hj
    exact ⟨as, SortedMap.mem_values_iff.2 ⟨j, has⟩, SortedMap.mem_keys_iff.2 ⟨u, hu⟩⟩

theorem Books.mem_listed_iff (h : t.Books) {a : AllocationId} :
    a ∈ t.listed ↔ ∃ s, t.slots.get? a = some s := by
  rw [SlotTable.mem_listed_iff]
  constructor
  · rintro ⟨j, hj⟩
    obtain ⟨s, hs, -⟩ := h.jobs.1 hj
    exact ⟨s, hs⟩
  · rintro ⟨s, hs⟩
    exact ⟨s.job, h.jobs.2 ⟨s, hs, rfl⟩⟩

/-- No allocation is listed twice, since its slot has one job only. -/
theorem Books.nodup_listed (h : t.Books) : t.listed.Nodup := by
  unfold listed
  rw [List.nodup_flatMap]
  refine ⟨fun as _ => SortedMap.nodup_keys as, ?_⟩
  unfold SortedMap.values
  rw [List.pairwise_map]
  refine t.jobSlots.ascending.imp_of_mem fun {x y} hx hy hlt => ?_
  refine List.disjoint_left.2 fun a hax hay => ?_
  obtain ⟨u, hu⟩ := SortedMap.mem_keys_iff.1 hax
  obtain ⟨v, hv⟩ := SortedMap.mem_keys_iff.1 hay
  obtain ⟨s, hs, hsx⟩ := h.jobs.1 (mem_jobAllocations_iff.2 ⟨_, u, SortedMap.mem_entries_iff.1 hx, hu⟩)
  obtain ⟨s', hs', hsy⟩ := h.jobs.1 (mem_jobAllocations_iff.2 ⟨_, v, SortedMap.mem_entries_iff.1 hy, hv⟩)
  rw [hs] at hs'
  obtain rfl := Option.some.inj hs'
  rw [← hsx, ← hsy] at hlt
  simp at hlt

/-! ## Agreement -/

/-- The books, the queries and the budget of a table describe its live slots. -/
structure Agreement (t : SlotTable) (config : TableConfig) : Prop where
  /-- An index is an allocation's iff the allocation has a live slot there. -/
  index : ∀ i a, t.currentAllocation? i = some a ↔ ∃ s, t.slot? a = some s ∧ s.index = i
  unshared : ∀ a b s s', t.slot? a = some s → t.slot? b = some s' → s.index = s'.index → a = b
  slotAt : ∀ i s, t.slotAt? i = some s ↔ t.slot? s.allocation = some s ∧ s.index = i
  slotFree : ∀ i, t.isSlotFree i = true ↔ ∀ a s, t.slot? a = some s → s.index ≠ i
  allocated : ∀ i j a, t.isAllocated i j a = true ↔
    ∃ s, t.slot? a = some s ∧ s.index = i ∧ s.job = j ∧ s.state ≠ .releasing
  /-- The set of a job is that of the allocations that have live slots of the job. -/
  job : ∀ j a, a ∈ t.jobAllocations j ↔ ∃ s, t.slot? a = some s ∧ s.job = j
  occupied : ∀ j as, t.jobSlots.get? j = some as → ∃ a, a ∈ as.keys
  owner : ∀ j a, t.owningJob? a = some j ↔ a ∈ t.jobAllocations j
  active : ∀ a, a ∈ t.activeAllocations ↔ ∃ s, t.slot? a = some s ∧ s.state = .active
  activeOf : ∀ j a, a ∈ t.activeAllocationsOf j ↔
    ∃ s, t.slot? a = some s ∧ s.job = j ∧ s.state = .active
  unclaimed : ∀ j s, s ∈ t.allocatedSlots j ↔
    t.slot? s.allocation = some s ∧ s.job = j ∧ s.state = .allocated
  hasUnclaimed : ∀ j, t.hasAllocatedSlots j = true ↔
    ∃ a s, t.slot? a = some s ∧ s.job = j ∧ s.state = .allocated
  /-- No query by job lists a slot twice. -/
  nodup : ∀ j, (t.jobAllocations j).Nodup ∧ t.activeAllocations.Nodup ∧
    (t.activeAllocationsOf j).Nodup ∧ (t.allocatedSlots j).Nodup
  /-- What is taken of each resource is what the live slots hold of it together. -/
  reserved : ∀ d, t.budget.reserved.units d = (t.slots.values.map (·.profile.units d)).sum
  within : ∀ d, (t.slots.values.map (·.profile.units d)).sum ≤ config.totalResources.units d
  total : t.budget.total = config.totalResources

theorem Books.slotAt?_iff (h : t.Books) {i : SlotIndex} {s : TaskSlot} :
    t.slotAt? i = some s ↔ t.slots.get? s.allocation = some s ∧ s.index = i := by
  unfold slotAt?
  rw [Option.bind_eq_some_iff]
  constructor
  · rintro ⟨a, hindex, hlive⟩
    obtain ⟨s', hlive', hi⟩ := h.indexed.1 hindex
    obtain rfl := h.keyed hlive
    rw [hlive] at hlive'
    obtain rfl := Option.some.inj hlive'
    exact ⟨hlive, hi⟩
  · rintro ⟨hlive, hi⟩
    exact ⟨s.allocation, h.indexed.2 ⟨s, hlive, hi⟩, hlive⟩

theorem Books.isAllocated_iff (h : t.Books) {i : SlotIndex} {j : JobId} {a : AllocationId} :
    t.isAllocated i j a = true ↔
      ∃ s, t.slots.get? a = some s ∧ s.index = i ∧ s.job = j ∧ s.state ≠ .releasing := by
  unfold isAllocated
  rw [Option.any_eq_true]
  unfold TaskSlot.isAllocated TaskSlot.isOwnedBy
  simp only [h.slotAt?_iff, Bool.and_eq_true, decide_eq_true_iff]
  constructor
  · rintro ⟨s, ⟨hlive, hi⟩, hstate, hj, rfl⟩
    exact ⟨s, hlive, hi, hj, hstate⟩
  · rintro ⟨s, hlive, hi, hj, hstate⟩
    obtain rfl := h.keyed hlive
    exact ⟨s, ⟨hlive, hi⟩, hstate, hj, rfl⟩

theorem Books.isSlotFree_iff (h : t.Books) {i : SlotIndex} :
    t.isSlotFree i = true ↔ ∀ a s, t.slots.get? a = some s → s.index ≠ i := by
  unfold isSlotFree
  rw [Bool.not_eq_true', ← Bool.not_eq_true, SortedMap.contains_iff]
  constructor
  · intro hfree a s hlive hi
    exact hfree ⟨a, h.indexed.2 ⟨s, hlive, hi⟩⟩
  · rintro hfree ⟨a, ha⟩
    obtain ⟨s, hlive, hi⟩ := h.indexed.1 ha
    exact hfree a s hlive hi

/-- The allocations of the slots in a state, among some allocations. -/
theorem Books.mem_allocationsInState_iff (h : t.Books) {as : List AllocationId} {state : SlotState}
    {a : AllocationId} : a ∈ (t.slotsInState as state).map (·.allocation) ↔
      a ∈ as ∧ ∃ s, t.slots.get? a = some s ∧ s.state = state := by
  rw [List.mem_map]
  constructor
  · rintro ⟨s, hs, rfl⟩
    obtain ⟨⟨a, ha, hlive⟩, hstate⟩ := mem_slotsInState_iff.1 hs
    obtain rfl := h.keyed hlive
    exact ⟨ha, s, hlive, hstate⟩
  · rintro ⟨ha, s, hlive, hstate⟩
    exact ⟨s, mem_slotsInState_iff.2 ⟨⟨a, ha, hlive⟩, hstate⟩, h.keyed hlive⟩

theorem Books.mem_allocatedSlots_iff (h : t.Books) {j : JobId} {s : TaskSlot} :
    s ∈ t.allocatedSlots j ↔
      t.slots.get? s.allocation = some s ∧ s.job = j ∧ s.state = .allocated := by
  unfold allocatedSlots
  rw [mem_slotsInState_iff]
  constructor
  · rintro ⟨⟨a, ha, hlive⟩, hstate⟩
    obtain ⟨s', hlive', hj⟩ := h.jobs.1 ha
    obtain rfl := h.keyed hlive
    rw [hlive] at hlive'
    obtain rfl := Option.some.inj hlive'
    exact ⟨hlive, hj, hstate⟩
  · rintro ⟨hlive, hj, hstate⟩
    exact ⟨⟨s.allocation, h.jobs.2 ⟨s, hlive, hj⟩, hlive⟩, hstate⟩

theorem Books.owningJob?_iff (h : t.Books) {j : JobId} {a : AllocationId} :
    t.owningJob? a = some j ↔ a ∈ t.jobAllocations j := by
  unfold owningJob?
  rw [Option.map_eq_some_iff, h.jobs]

/-- Where the books are right, everything agrees. -/
theorem Books.agreement (h : t.Books) : t.Agreement t.config where
  index i a := h.indexed
  unshared a b s s' ha hb hindex := by
    have hai := h.indexed.2 ⟨s, ha, rfl⟩
    have hbi := h.indexed.2 ⟨s', hb, rfl⟩
    rw [hindex, hbi] at hai
    exact (Option.some.inj hai).symm
  slotAt i s := h.slotAt?_iff
  slotFree i := h.isSlotFree_iff
  allocated i j a := h.isAllocated_iff
  job j a := h.jobs
  occupied j as has := by
    obtain ⟨a, u, ha⟩ := SortedMap.isEmpty_eq_false_iff.1 (h.occupied has)
    exact ⟨a, SortedMap.mem_keys_iff.2 ⟨u, ha⟩⟩
  owner j a := h.owningJob?_iff
  active a := by
    unfold activeAllocations
    rw [h.mem_allocationsInState_iff]
    constructor
    · exact fun ha => ha.2
    · rintro ⟨s, hlive, hstate⟩
      exact ⟨h.mem_listed_iff.2 ⟨s, hlive⟩, s, hlive, hstate⟩
  activeOf j a := by
    unfold activeAllocationsOf
    rw [h.mem_allocationsInState_iff, h.jobs]
    constructor
    · rintro ⟨⟨s, hlive, hj⟩, s', hlive', hstate⟩
      rw [hlive] at hlive'
      obtain rfl := Option.some.inj hlive'
      exact ⟨s, hlive, hj, hstate⟩
    · rintro ⟨s, hlive, hj, hstate⟩
      exact ⟨⟨s, hlive, hj⟩, s, hlive, hstate⟩
  unclaimed j s := h.mem_allocatedSlots_iff
  hasUnclaimed j := by
    unfold hasAllocatedSlots
    rw [Bool.not_eq_true', ← Bool.not_eq_true, List.isEmpty_iff]
    constructor
    · intro hne
      obtain ⟨s, hs⟩ := List.exists_mem_of_ne_nil _ hne
      exact ⟨s.allocation, s, h.mem_allocatedSlots_iff.1 hs⟩
    · rintro ⟨a, s, hlive, hj⟩
      obtain rfl := h.keyed hlive
      exact List.ne_nil_of_mem (h.mem_allocatedSlots_iff.2 ⟨hlive, hj⟩)
  nodup j := ⟨t.nodup_jobAllocations j, h.nodup_allocationsInState h.nodup_listed _,
    h.nodup_allocationsInState (t.nodup_jobAllocations j) _,
    h.nodup_slotsInState (t.nodup_jobAllocations j) _⟩
  reserved d := h.reserved d
  within d := by
    rw [← h.capacity]
    exact le_of_eq_of_le (h.reserved d).symm (h.within d)
  total := h.capacity

/-- In every run of a table, whatever is done to it and whatever happens to it, the books, the queries
and the budget agree with the live slots. -/
theorem agreement_of_new {config : TableConfig} {timers : Timers AllocationId} {table : SlotTable}
    (hnew : new config timers = .ok table) (listening : Bool) (events : List TableEvent) :
    (((TableRun.new table listening).afterAll events).table).Agreement config := by
  obtain ⟨hsound, hconfig⟩ := Sound.ofNew hnew listening events
  rw [← hconfig]
  exact hsound.agreement

/-- A slot is granted, freed while a task is bound to it, and left by the task. -/
theorem agreement_of_new_drained : ∃ table, new .standard (.new 0) = .ok table ∧
    (((TableRun.new table true).afterAll
      [.operation .start, .operation (.allocate ⟨.dynamic, ⟨0⟩, ⟨1⟩, none, 5⟩),
        .operation (.markActive ⟨1⟩), .operation (.addTask ⟨⟨7⟩, ⟨0⟩, ⟨1⟩⟩),
        .operation (.free ⟨1⟩ ""), .happening (.tick 5), .happening (.expiry ⟨1⟩),
        .operation (.removeTask ⟨7⟩)]).table).Agreement .standard :=
  ⟨_, rfl, agreement_of_new rfl true _⟩

end WorkerSlots.SlotTable
