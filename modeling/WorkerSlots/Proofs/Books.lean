import WorkerSlots.Proofs.Budget
import WorkerSlots.Proofs.Slots
import WorkerSlots.Table.Allocation
import WorkerSlots.Table.Release
import WorkerSlots.Table.Tasks

/-!
# The books of a slot table

Beside the live slots, which are kept by allocation, a table keeps books by index, by job and by
task, and the budget that the slots draw on.

* `Books` : the books by index and by job, and the budget, say the same as the live slots;
* `TaskBooks` : a task is listed with a slot that holds it. (Not every task that a slot holds is
  listed: an execution that is bound in a second slot is listed with that slot from then on.)
* `Sound` : both, and what the operations need besides them;
* `Books.congr`, `Books.replace`, `Books.insertSlot`, `Books.retire` : the changes of the live slots
  that keep the books, whatever else changes.
-/

namespace WorkerSlots

namespace SlotTable

/-- The amount that the live slots hold in one dimension, together. -/
def held (t : SlotTable) (d : Dimension) : Nat := t.slots.total (·.profile.units d)

/-- The books by index and by job, and the budget, say the same as the live slots. -/
structure Books (t : SlotTable) : Prop where
  keyed : ∀ {a s}, t.slots.get? a = some s → s.allocation = a
  indexed : ∀ {i a}, t.indices.get? i = some a ↔ ∃ s, t.slots.get? a = some s ∧ s.index = i
  jobs : ∀ {j a}, a ∈ t.jobAllocations j ↔ ∃ s, t.slots.get? a = some s ∧ s.job = j
  occupied : ∀ {j as}, t.jobSlots.get? j = some as → as.isEmpty = false
  reserved : ∀ d, t.budget.reserved.units d = t.held d
  within : ∀ d, t.budget.reserved.units d ≤ t.budget.total.units d
  capacity : t.budget.total = t.config.totalResources

/-- A task is listed with a slot that holds it, and slots hold tasks of their own only. -/
structure TaskBooks (t : SlotTable) : Prop where
  listed : ∀ {e a}, t.taskOwners.get? e = some a →
    ∃ s task, t.slots.get? a = some s ∧ s.tasks.get? e = some task
  own : ∀ {a s e task}, t.slots.get? a = some s → s.tasks.get? e = some task →
    task.execution = e ∧ task.job = s.job ∧ task.allocation = s.allocation

/-- What every operation relies on. -/
structure Sound (t : SlotTable) : Prop extends Books t, TaskBooks t where
  fresh : t.state = .created → ∀ a, t.slots.get? a = none
  bound : t.state = .running → t.bound = true
  paged : t.config.memoryPageSize ≠ 0

/-! ## Jobs -/

theorem mem_jobAllocations_iff {t : SlotTable} {j : JobId} {a : AllocationId} :
    a ∈ t.jobAllocations j ↔ ∃ as u, t.jobSlots.get? j = some as ∧ as.get? a = some u := by
  unfold jobAllocations
  cases t.jobSlots.get? j with
  | none => simp
  | some as =>
    rw [Option.elim_some, SortedMap.mem_keys_iff]
    constructor
    · rintro ⟨u, hu⟩
      exact ⟨as, u, rfl, hu⟩
    · rintro ⟨as', u, has, hu⟩
      obtain rfl := Option.some.inj has
      exact ⟨u, hu⟩

theorem mem_jobAllocations_insert {t t' : SlotTable} {job j : JobId} {allocation a : AllocationId}
    (h : t'.jobSlots =
      t.jobSlots.insert job (((t.jobSlots.get? job).getD .empty).insert allocation ⟨⟩)) :
    a ∈ t'.jobAllocations j ↔ (a = allocation ∧ j = job) ∨ a ∈ t.jobAllocations j := by
  rw [mem_jobAllocations_iff, mem_jobAllocations_iff, h]
  simp only [SortedMap.get?_insert]
  by_cases hjob : j = job
  · subst hjob
    by_cases ha : a = allocation
    · simp [ha]
    · cases t.jobSlots.get? j <;> simp [SortedMap.get?_insert, ha]
  · simp [hjob]

theorem get?_withoutAllocation (jobSlots : SortedMap JobId (SortedMap AllocationId PUnit))
    (j j' : JobId) (a : AllocationId) (as : SortedMap AllocationId PUnit) :
    (withoutAllocation jobSlots j a as).get? j' =
      if j' = j then (if (as.erase a).isEmpty then none else some (as.erase a))
      else jobSlots.get? j' := by
  unfold withoutAllocation
  by_cases hempty : (as.erase a).isEmpty
  · simp only [hempty, ↓reduceIte, SortedMap.get?_erase]
  · simp only [hempty, Bool.false_eq_true, ↓reduceIte, SortedMap.get?_insert]

theorem mem_jobAllocations_without {t t' : SlotTable} {job j : JobId} {allocation a : AllocationId}
    {as : SortedMap AllocationId PUnit} (hjob : t.jobSlots.get? job = some as)
    (h : t'.jobSlots = withoutAllocation t.jobSlots job allocation as) :
    a ∈ t'.jobAllocations j ↔ a ∈ t.jobAllocations j ∧ ¬ (a = allocation ∧ j = job) := by
  rw [mem_jobAllocations_iff, mem_jobAllocations_iff, h]
  simp only [get?_withoutAllocation]
  by_cases hjj : j = job
  · subst hjj
    simp only [↓reduceIte, hjob, Option.some.injEq, and_true]
    constructor
    · rintro ⟨as', u, has, hu⟩
      split at has
      · cases has
      · obtain rfl := Option.some.inj has
        rw [SortedMap.get?_erase] at hu
        split at hu
        · cases hu
        · rename_i hne
          exact ⟨⟨as, u, rfl, hu⟩, hne⟩
    · rintro ⟨⟨as', u, rfl, hu⟩, hne⟩
      have hu' : (as.erase allocation).get? a = some u := by
        rw [SortedMap.get?_erase, if_neg hne, hu]
      have hnonempty := SortedMap.isEmpty_eq_false_iff.2 ⟨a, u, hu'⟩
      exact ⟨as.erase allocation, u, by rw [hnonempty]; rfl, hu'⟩
  · simp [hjj]

/-- A live slot is in the books of its job. -/
theorem Books.exists_jobSlots {t : SlotTable} (h : t.Books) {a : AllocationId} {s : TaskSlot}
    (hs : t.slots.get? a = some s) : ∃ as, t.jobSlots.get? s.job = some as := by
  obtain ⟨as, _, has, _⟩ := mem_jobAllocations_iff.1 (h.jobs.2 ⟨s, hs, rfl⟩)
  exact ⟨as, has⟩

/-- What a live slot holds is taken from the budget. -/
theorem Books.units_le {t : SlotTable} (h : t.Books) {a : AllocationId} {s : TaskSlot}
    (hs : t.slots.get? a = some s) (d : Dimension) :
    s.profile.units d ≤ t.budget.reserved.units d := by
  rw [h.reserved d, held, SortedMap.total_of_get? _ hs]
  exact Nat.le_add_right _ _

theorem Books.exists_release? {t : SlotTable} (h : t.Books) {a : AllocationId} {s : TaskSlot}
    (hs : t.slots.get? a = some s) : ∃ budget, t.budget.release? s.profile = some budget :=
  ResourceBudget.exists_release? (h.units_le hs)

/-! ## Changes of the live slots -/

section Changes

variable {t t' : SlotTable}

/-- The books are about nothing but these parts of a table. -/
theorem Books.congr (h : t.Books) (hs : t'.slots = t.slots) (hi : t'.indices = t.indices)
    (hj : t'.jobSlots = t.jobSlots) (hb : t'.budget = t.budget) (hc : t'.config = t.config) :
    t'.Books := by
  have hjobs : ∀ j, t'.jobAllocations j = t.jobAllocations j := fun j => by
    unfold jobAllocations
    rw [hj]
  have hheld : ∀ d, t'.held d = t.held d := fun d => by
    unfold held
    rw [hs]
  refine ⟨fun ha => ?_, fun {i a} => ?_, fun {j a} => ?_, fun hja => ?_, fun d => ?_, fun d => ?_, ?_⟩
  · exact h.keyed (hs ▸ ha)
  · rw [hi, hs]
    exact h.indexed
  · rw [hjobs, hs]
    exact h.jobs
  · exact h.occupied (hj ▸ hja)
  · rw [hb, hheld]
    exact h.reserved d
  · rw [hb]
    exact h.within d
  · rw [hb, hc]
    exact h.capacity

/-- A slot may be replaced by another version of itself. -/
theorem Books.replace (h : t.Books) {s s' : TaskSlot} (hlive : t.slots.get? s.allocation = some s)
    (hsame : s.SameGrant s') (hs : t'.slots = t.slots.insert s.allocation s')
    (hi : t'.indices = t.indices) (hj : t'.jobSlots = t.jobSlots) (hb : t'.budget = t.budget)
    (hc : t'.config = t.config) : t'.Books := by
  have hjobs : ∀ j, t'.jobAllocations j = t.jobAllocations j := fun j => by
    unfold jobAllocations
    rw [hj]
  have hheld : ∀ d, t'.held d = t.held d := fun d => by
    unfold held
    rw [hs]
    exact SortedMap.total_replace _ hlive (by rw [hsame.profile])
  -- a property that both versions share holds of the slot of `a` before iff it does after
  have hshared : ∀ {P : TaskSlot → Prop} {a}, (P s' ↔ P s) →
      ((∃ x, t'.slots.get? a = some x ∧ P x) ↔ ∃ x, t.slots.get? a = some x ∧ P x) := by
    intro P a hP
    rw [hs, SortedMap.get?_insert]
    by_cases ha : a = s.allocation
    · subst ha
      simp [hlive, hP]
    · simp [ha]
  refine ⟨fun {a x} ha => ?_, fun {i a} => ?_, fun {j a} => ?_, fun hja => ?_, fun d => ?_,
    fun d => ?_, ?_⟩
  · rw [hs, SortedMap.get?_insert] at ha
    split at ha
    · rename_i heq
      obtain rfl := Option.some.inj ha
      rw [hsame.allocation, heq]
    · exact h.keyed ha
  · rw [hi, hshared (by rw [hsame.index])]
    exact h.indexed
  · rw [hjobs, hshared (by rw [hsame.job])]
    exact h.jobs
  · exact h.occupied (hj ▸ hja)
  · rw [hb, hheld]
    exact h.reserved d
  · rw [hb]
    exact h.within d
  · rw [hb, hc]
    exact h.capacity

/-- A slot of a new allocation may be entered at a free index, when what it holds is reserved. -/
theorem Books.insertSlot (h : t.Books) {s : TaskSlot} {budget : ResourceBudget}
    (hfree : t.slots.get? s.allocation = none) (hindex : t.indices.get? s.index = none)
    (hbudget : t.budget.reserve? s.profile = some budget)
    (hs : t'.slots = (t.insertSlot s).slots) (hi : t'.indices = (t.insertSlot s).indices)
    (hj : t'.jobSlots = (t.insertSlot s).jobSlots) (hb : t'.budget = budget)
    (hc : t'.config = t.config) : t'.Books := by
  obtain ⟨htotal, hsum, hfit⟩ := ResourceBudget.reserve?_eq_some_iff.1 hbudget
  have hslots : t'.slots = t.slots.insert s.allocation s := hs
  have hindices : t'.indices = t.indices.insert s.index s.allocation := hi
  have hjobSlots : t'.jobSlots =
      t.jobSlots.insert s.job (((t.jobSlots.get? s.job).getD .empty).insert s.allocation ⟨⟩) := hj
  refine ⟨fun {a x} ha => ?_, fun {i a} => ?_, fun {j a} => ?_, fun {j as} hja => ?_, fun d => ?_,
    fun d => ?_, ?_⟩
  · rw [hslots, SortedMap.get?_insert] at ha
    split at ha
    · rename_i heq
      obtain rfl := Option.some.inj ha
      exact heq.symm
    · exact h.keyed ha
  · rw [hindices, hslots, SortedMap.get?_insert, SortedMap.get?_insert]
    by_cases hii : i = s.index <;> by_cases haa : a = s.allocation
    · simp [hii, haa]
    · -- the index was free, so that no other allocation has it
      have hnone : ¬ ∃ x, t.slots.get? a = some x ∧ x.index = i := fun hx => by
        have := h.indexed.2 hx
        rw [hii, hindex] at this
        cases this
      simp only [hii, ↓reduceIte, Option.some.injEq, haa] at hnone ⊢
      exact iff_of_false (fun he => haa he.symm) hnone
    · -- the allocation was new, so that no other index has it
      have hnone : t.indices.get? i ≠ some a := fun hx => by
        obtain ⟨x, hx, -⟩ := h.indexed.1 hx
        rw [haa, hfree] at hx
        cases hx
      simp only [hii, ↓reduceIte, haa, Option.some.injEq, exists_eq_left'] at hnone ⊢
      exact iff_of_false hnone fun he => hii he.symm
    · simp only [hii, haa, ↓reduceIte]
      exact h.indexed
  · rw [mem_jobAllocations_insert hjobSlots, h.jobs, hslots, SortedMap.get?_insert]
    by_cases haa : a = s.allocation
    · simp [haa, hfree, eq_comm]
    · simp [haa]
  · rw [hjobSlots, SortedMap.get?_insert] at hja
    split at hja
    · obtain rfl := Option.some.inj hja
      exact SortedMap.isEmpty_eq_false_iff.2 ⟨s.allocation, ⟨⟩, SortedMap.get?_insert_self _ _ _⟩
    · exact h.occupied hja
  · rw [hb, hsum d, h.reserved d, held, held, hslots, SortedMap.total_insert _ _ hfree]
    exact Nat.add_comm _ _
  · rw [hb, hsum d, htotal]
    exact hfit d
  · rw [hb, htotal, hc]
    exact h.capacity

/-- A slot may leave the books, when what it held is given back. -/
theorem Books.retire (h : t.Books) {s : TaskSlot} {budget : ResourceBudget}
    {as : SortedMap AllocationId PUnit} (hlive : t.slots.get? s.allocation = some s)
    (hjob : t.jobSlots.get? s.job = some as) (hbudget : t.budget.release? s.profile = some budget)
    (hs : t'.slots = t.slots.erase s.allocation) (hi : t'.indices = t.indices.erase s.index)
    (hj : t'.jobSlots = withoutAllocation t.jobSlots s.job s.allocation as)
    (hb : t'.budget = budget) (hc : t'.config = t.config) : t'.Books := by
  obtain ⟨htotal, hsum⟩ := ResourceBudget.release?_eq_some_iff.1 hbudget
  refine ⟨fun {a x} ha => ?_, fun {i a} => ?_, fun {j a} => ?_, fun {j as'} hja => ?_, fun d => ?_,
    fun d => ?_, ?_⟩
  · rw [hs, SortedMap.get?_erase] at ha
    split at ha
    · cases ha
    · exact h.keyed ha
  · rw [hi, hs, SortedMap.get?_erase, SortedMap.get?_erase]
    by_cases hii : i = s.index <;> by_cases haa : a = s.allocation
    · simp [hii, haa]
    · -- the index was that of `s`, whose allocation is another
      simp only [hii, ↓reduceIte, reduceCtorEq, haa, false_iff]
      rintro hx
      have h1 := h.indexed.2 hx
      rw [h.indexed.2 ⟨s, hlive, rfl⟩] at h1
      exact haa (Option.some.inj h1).symm
    · simp only [hii, ↓reduceIte, haa, reduceCtorEq, false_and, exists_false, iff_false]
      intro hx
      obtain ⟨x, hx, hxi⟩ := h.indexed.1 hx
      rw [hlive] at hx
      obtain rfl := Option.some.inj hx
      exact hii hxi.symm
    · simp only [hii, haa, ↓reduceIte]
      exact h.indexed
  · rw [mem_jobAllocations_without hjob hj, h.jobs, hs, SortedMap.get?_erase]
    by_cases haa : a = s.allocation
    · -- its slot was `s`, whose job is left
      subst haa
      simp [hlive, eq_comm]
    · simp [haa]
  · rw [hj, get?_withoutAllocation] at hja
    split at hja
    · split at hja
      · cases hja
      · rename_i hne
        obtain rfl := Option.some.inj hja
        simpa using hne
    · exact h.occupied hja
  · have hd := hsum d
    rw [h.reserved d, held, SortedMap.total_of_get? _ hlive] at hd
    rw [hb, held, hs]
    omega
  · have hd := hsum d
    have := h.within d
    rw [hb, htotal]
    omega
  · rw [hb, htotal, hc]
    exact h.capacity

/-! ## Changes of the tasks -/

theorem TaskBooks.congr (h : t.TaskBooks) (hs : t'.slots = t.slots)
    (ho : t'.taskOwners = t.taskOwners) : t'.TaskBooks := by
  refine ⟨fun hea => ?_, fun ha => ?_⟩
  · rw [ho] at hea
    rw [hs]
    exact h.listed hea
  · rw [hs] at ha
    exact h.own ha

theorem TaskBooks.replace (h : t.TaskBooks) {s s' : TaskSlot}
    (hlive : t.slots.get? s.allocation = some s) (hsame : s.SameGrant s')
    (hs : t'.slots = t.slots.insert s.allocation s') (htasks : s'.tasks = s.tasks)
    (ho : t'.taskOwners = t.taskOwners) : t'.TaskBooks := by
  refine ⟨fun {e a} hea => ?_, fun {a x e task} ha hx => ?_⟩
  · rw [ho] at hea
    obtain ⟨x, task, hx, htask⟩ := h.listed hea
    rw [hs, SortedMap.get?_insert]
    split
    · rename_i heq
      rw [heq, hlive] at hx
      obtain rfl := Option.some.inj hx
      exact ⟨s', task, rfl, htasks ▸ htask⟩
    · exact ⟨x, task, hx, htask⟩
  · rw [hs, SortedMap.get?_insert] at ha
    split at ha
    · obtain rfl := Option.some.inj ha
      rw [htasks] at hx
      rw [hsame.job, hsame.allocation]
      exact h.own hlive hx
    · exact h.own ha hx

theorem TaskBooks.insertSlot (h : t.TaskBooks) {s : TaskSlot}
    (hfree : t.slots.get? s.allocation = none) (hempty : s.tasks = .empty)
    (hs : t'.slots = t.slots.insert s.allocation s) (ho : t'.taskOwners = t.taskOwners) :
    t'.TaskBooks := by
  refine ⟨fun {e a} hea => ?_, fun {a x e task} ha hx => ?_⟩
  · rw [ho] at hea
    obtain ⟨x, task, hx, htask⟩ := h.listed hea
    rw [hs, SortedMap.get?_insert]
    split
    · rename_i heq
      rw [heq, hfree] at hx
      cases hx
    · exact ⟨x, task, hx, htask⟩
  · rw [hs, SortedMap.get?_insert] at ha
    split at ha
    · obtain rfl := Option.some.inj ha
      rw [hempty] at hx
      cases hx
    · exact h.own ha hx

theorem TaskBooks.retire (h : t.TaskBooks) {s : TaskSlot}
    (hlive : t.slots.get? s.allocation = some s) (hempty : s.isEmpty = true)
    (hs : t'.slots = t.slots.erase s.allocation) (ho : t'.taskOwners = t.taskOwners) :
    t'.TaskBooks := by
  refine ⟨fun {e a} hea => ?_, fun {a x e task} ha hx => ?_⟩
  · rw [ho] at hea
    obtain ⟨x, task, hx, htask⟩ := h.listed hea
    rw [hs, SortedMap.get?_erase]
    split
    · -- the slot that leaves holds no task, so that none is listed with it
      rename_i heq
      rw [heq, hlive] at hx
      obtain rfl := Option.some.inj hx
      rw [TaskSlot.isEmpty_iff.1 hempty e] at htask
      cases htask
    · exact ⟨x, task, hx, htask⟩
  · rw [hs, SortedMap.get?_erase] at ha
    split at ha
    · cases ha
    · exact h.own ha hx

theorem TaskBooks.bind (h : t.TaskBooks) {s : TaskSlot} {task : Task}
    (hlive : t.slots.get? s.allocation = some s) (hjob : task.job = s.job)
    (hallocation : task.allocation = s.allocation)
    (hs : t'.slots = t.slots.insert s.allocation
      { s with tasks := s.tasks.insert task.execution task })
    (ho : t'.taskOwners = t.taskOwners.insert task.execution s.allocation) : t'.TaskBooks := by
  refine ⟨fun {e a} hea => ?_, fun {a x e task'} ha hx => ?_⟩
  · rw [ho, SortedMap.get?_insert] at hea
    rw [hs, SortedMap.get?_insert]
    by_cases he : e = task.execution
    · rw [if_pos he] at hea
      obtain rfl := Option.some.inj hea
      rw [if_pos rfl]
      exact ⟨_, task, rfl, by rw [he]; exact SortedMap.get?_insert_self _ _ _⟩
    · rw [if_neg he] at hea
      obtain ⟨x, task', hx, htask⟩ := h.listed hea
      split
      · rename_i heq
        rw [heq, hlive] at hx
        obtain rfl := Option.some.inj hx
        exact ⟨_, task', rfl, by rw [SortedMap.get?_insert, if_neg he, htask]⟩
      · exact ⟨x, task', hx, htask⟩
  · rw [hs, SortedMap.get?_insert] at ha
    split at ha
    · obtain rfl := Option.some.inj ha
      rw [SortedMap.get?_insert] at hx
      split at hx
      · rename_i he
        obtain rfl := Option.some.inj hx
        exact ⟨he.symm, hjob, hallocation⟩
      · have hown := h.own hlive hx
        exact hown
    · exact h.own ha hx

theorem TaskBooks.unbind (h : t.TaskBooks) {s : TaskSlot} {e : ExecutionId}
    (hlive : t.slots.get? s.allocation = some s)
    (hs : t'.slots = t.slots.insert s.allocation { s with tasks := s.tasks.erase e })
    (ho : t'.taskOwners = t.taskOwners.erase e) : t'.TaskBooks := by
  refine ⟨fun {e' a} hea => ?_, fun {a x e' task} ha hx => ?_⟩
  · rw [ho, SortedMap.get?_erase] at hea
    split at hea
    · cases hea
    · rename_i he
      obtain ⟨x, task, hx, htask⟩ := h.listed hea
      rw [hs, SortedMap.get?_insert]
      split
      · rename_i heq
        rw [heq, hlive] at hx
        obtain rfl := Option.some.inj hx
        exact ⟨_, task, rfl, by rw [SortedMap.get?_erase, if_neg he, htask]⟩
      · exact ⟨x, task, hx, htask⟩
  · rw [hs, SortedMap.get?_insert] at ha
    split at ha
    · obtain rfl := Option.some.inj ha
      rw [SortedMap.get?_erase] at hx
      split at hx
      · cases hx
      · have hown := h.own hlive hx
        exact hown
    · exact h.own ha hx

end Changes

end SlotTable

end WorkerSlots
