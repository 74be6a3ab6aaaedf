import WorkerSlots.Proofs.Maps
import WorkerSlots.Slot

/-!
# Versions of a slot

* `TaskSlot.SameGrant` : two versions of one slot. What can be done to a slot leaves it the slot
  that was granted: index, profile, job and allocation stay;
* `remove?_eq_some_iff`, `new?_eq_some`, `close_state`, `close_tasks` : the operations of a slot.
-/

namespace WorkerSlots.TaskSlot

/-- Two versions of one slot: they differ in state, tasks, memory and teardown at most. -/
structure SameGrant (s s' : TaskSlot) : Prop where
  grant : s'.grant = s.grant
  index : s'.index = s.index
  profile : s'.profile = s.profile
  job : s'.job = s.job
  allocation : s'.allocation = s.allocation

theorem SameGrant.refl (s : TaskSlot) : s.SameGrant s := ⟨rfl, rfl, rfl, rfl, rfl⟩

theorem SameGrant.trans {s₁ s₂ s₃ : TaskSlot} (h : s₁.SameGrant s₂) (h' : s₂.SameGrant s₃) :
    s₁.SameGrant s₃ :=
  ⟨h'.grant.trans h.grant, h'.index.trans h.index, h'.profile.trans h.profile, h'.job.trans h.job,
    h'.allocation.trans h.allocation⟩

theorem SameGrant.state (s : TaskSlot) (state : SlotState) : s.SameGrant { s with state } :=
  ⟨rfl, rfl, rfl, rfl, rfl⟩

theorem SameGrant.tasks (s : TaskSlot) (tasks : SortedMap ExecutionId Task) :
    s.SameGrant { s with tasks } := ⟨rfl, rfl, rfl, rfl, rfl⟩

theorem SameGrant.memory (s : TaskSlot) (memory : ManagedMemory) : s.SameGrant { s with memory } :=
  ⟨rfl, rfl, rfl, rfl, rfl⟩

theorem new?_eq_some {grant : Nat} {index : SlotIndex} {profile : ResourceProfile}
    {pageSize graceMs : UInt64} {job : JobId} {allocation : AllocationId} {s : TaskSlot}
    (h : new? grant index profile pageSize job allocation graceMs = some s) :
    s.grant = grant ∧ s.index = index ∧ s.profile = profile ∧ s.job = job ∧
      s.allocation = allocation ∧ s.state = .allocated ∧ s.tasks = .empty := by
  obtain ⟨memory, -, rfl⟩ := Option.map_eq_some_iff.1 h
  exact ⟨rfl, rfl, rfl, rfl, rfl, rfl, rfl⟩

theorem exists_new? (grant : Nat) (index : SlotIndex) (profile : ResourceProfile)
    {pageSize : UInt64} (job : JobId) (allocation : AllocationId) (graceMs : UInt64)
    (h : pageSize ≠ 0) : ∃ s, new? grant index profile pageSize job allocation graceMs = some s := by
  unfold new? ManagedMemory.new?
  rw [if_neg h]
  exact ⟨_, rfl⟩

/-! ## Tasks -/

theorem isEmpty_iff {s : TaskSlot} : s.isEmpty = true ↔ ∀ e, s.tasks.get? e = none :=
  SortedMap.isEmpty_iff

theorem isActive_iff {s : TaskSlot} {job : JobId} {allocation : AllocationId} :
    s.isActive job allocation = true ↔
      s.state = .active ∧ s.job = job ∧ s.allocation = allocation := by
  unfold isActive isOwnedBy
  rw [Bool.and_eq_true, Bool.and_eq_true, decide_eq_true_iff, decide_eq_true_iff, decide_eq_true_iff]

/-- A task that a slot may be asked to bind breaks none of the slot's rules. -/
theorem add_eq_of_isActive {s : TaskSlot} {task : Task}
    (h : s.isActive task.job task.allocation = true) :
    s.add task =
      if s.tasks.contains task.execution then .ok (false, s)
      else .ok (true, { s with tasks := s.tasks.insert task.execution task }) := by
  obtain ⟨hactive, hjob, hallocation⟩ := isActive_iff.1 h
  unfold add
  rw [if_neg (not_not_intro hjob.symm), if_neg (not_not_intro hallocation.symm),
    if_neg (not_not_intro hactive)]

theorem remove?_eq_some_iff {s s' : TaskSlot} {e : ExecutionId} {task : Task} :
    s.remove? e = some (task, s') ↔
      s.tasks.get? e = some task ∧ s' = { s with tasks := s.tasks.erase e } := by
  unfold remove?
  rw [Option.map_eq_some_iff]
  constructor
  · rintro ⟨task', htask, heq⟩
    obtain ⟨rfl, rfl⟩ := Prod.mk.inj heq
    exact ⟨htask, rfl⟩
  · rintro ⟨htask, rfl⟩
    exact ⟨task, htask, rfl⟩

/-! ## Closing -/

variable (s : TaskSlot) (now : Nat) (cause : String)

theorem markReleasing_eq : (s.markReleasing cause).1 = { s with state := .releasing } := by
  unfold markReleasing
  cases hs : s.isReleasing with
  | true =>
    have hstate : s.state = .releasing := of_decide_eq_true hs
    simp only [↓reduceIte]
    rw [← hstate]
  | false => rfl

theorem close_eq :
    (s.close now cause).1 =
      if s.isEmpty && s.teardown = .idle then { s with state := .releasing }.tearDown now
      else { s with state := .releasing } := by
  unfold close
  simp only [markReleasing_eq]
  rfl

theorem SameGrant.close : s.SameGrant (s.close now cause).1 := by
  rw [close_eq]
  split <;> exact ⟨rfl, rfl, rfl, rfl, rfl⟩

theorem SameGrant.settle : s.SameGrant (s.settle now) := by
  unfold TaskSlot.settle
  split
  · split
    · exact ⟨rfl, rfl, rfl, rfl, rfl⟩
    · exact .refl s
  · exact .refl s

theorem close_tasks : (s.close now cause).1.tasks = s.tasks := by
  rw [close_eq]
  split <;> rfl

theorem close_isEmpty : (s.close now cause).1.isEmpty = s.isEmpty :=
  congrArg SortedMap.isEmpty (close_tasks s now cause)

theorem close_state : (s.close now cause).1.state = .releasing := by
  rw [close_eq]
  split <;> rfl

theorem close_failures : (s.close now cause).2 =
    if s.state = .releasing then [] else s.tasks.values.map (⟨·, cause⟩) := by
  unfold close markReleasing isReleasing
  by_cases hstate : s.state = .releasing
  · simp only [hstate, decide_true, ↓reduceIte]
  · simp only [hstate, decide_false, Bool.false_eq_true, ↓reduceIte]

end WorkerSlots.TaskSlot
