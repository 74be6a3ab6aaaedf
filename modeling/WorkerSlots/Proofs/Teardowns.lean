import WorkerSlots.Proofs.Memory
import WorkerSlots.Proofs.Slots

/-!
# Slots in use and slots given back

* `InUse` : a slot whose teardown has not begun;
* `GivenBack` : a slot that has left its table. Nothing more is taken of its memory, and it is closed only
  once nothing is held of it, or the grace period is over;
* `Later` : a later version of a slot. Once it is to be given back, it stays so and gets no more tasks;
* `Leaving`, `Aside` : what becomes of a slot when it leaves its table, and from then on.
-/

namespace WorkerSlots.TaskSlot

/-- A slot whose teardown has not begun. -/
structure InUse (s : TaskSlot) (graceMs : UInt64) : Prop where
  teardown : s.teardown = .idle
  grace : s.graceMs = graceMs
  memory : s.memory.Accounted

/-- A slot that left its table at a time `left`. -/
structure GivenBack (s : TaskSlot) (graceMs : UInt64) (left now : Nat) : Prop where
  empty : s.isEmpty = true
  shutdown : s.memory.isShutdown = true
  memory : s.memory.Accounted
  teardown : s.teardown = .waiting (left + graceMs.toNat) ∨
    s.teardown = .done ∧ (s.memory.isUnused = true ∨ left + graceMs.toNat ≤ now)

/-- A later version of a slot. -/
structure Later (s s' : TaskSlot) : Prop extends SameGrant s s' where
  releasing : s.state = .releasing → s'.state = .releasing
  tasks : s.state = .releasing → ∀ {e task}, s'.tasks.get? e = some task → s.tasks.get? e = some task
  inUse : ∀ {graceMs}, s.InUse graceMs → s'.InUse graceMs

/-- A slot leaves its table. -/
structure Leaving (now : Nat) (s s' : TaskSlot) : Prop extends SameGrant s s' where
  givenBack : ∀ {graceMs}, s.InUse graceMs → s'.GivenBack graceMs now now

/-- A later version of a slot that has left its table. -/
structure Aside (now : Nat) (s s' : TaskSlot) : Prop extends SameGrant s s' where
  closed : s.isClosed = true → s'.isClosed = true
  givenBack : ∀ {graceMs left}, s.GivenBack graceMs left now → s'.GivenBack graceMs left now

variable {s s' s'' : TaskSlot} {now : Nat}

theorem inUse_of_new? {grant : Nat} {index : SlotIndex} {profile : ResourceProfile}
    {pageSize graceMs : UInt64} {job : JobId} {allocation : AllocationId}
    (h : new? grant index profile pageSize job allocation graceMs = some s) : s.InUse graceMs := by
  obtain ⟨memory, hmemory, rfl⟩ := Option.map_eq_some_iff.1 h
  exact ⟨rfl, rfl, .new hmemory⟩

theorem InUse.use {graceMs : UInt64} (h : s.InUse graceMs) (use : MemoryUse) :
    InUse { s with memory := use.run s.memory } graceMs :=
  ⟨h.teardown, h.grace, h.memory.run use⟩

/-! ## Later versions -/

theorem Later.refl (s : TaskSlot) : s.Later s := ⟨.refl s, id, fun _ _ _ => id, id⟩

theorem Later.trans (h : s.Later s') (h' : s'.Later s'') : s.Later s'' :=
  ⟨h.toSameGrant.trans h'.toSameGrant, fun hs => h'.releasing (h.releasing hs),
    fun hs _ _ htask => h.tasks hs (h'.tasks (h.releasing hs) htask), fun hs => h'.inUse (h.inUse hs)⟩

/-- A slot that is not to be given back yet may change its state. -/
theorem Later.state (hstate : s.state ≠ .releasing) (state : SlotState) : s.Later { s with state } :=
  ⟨.state s state, fun hs => absurd hs hstate, fun hs => absurd hs hstate,
    fun h => ⟨h.teardown, h.grace, h.memory⟩⟩

/-- A slot that is not to be given back yet may get tasks. -/
theorem Later.bind (hstate : s.state ≠ .releasing) (tasks : SortedMap ExecutionId Task) :
    s.Later { s with tasks } :=
  ⟨.tasks s tasks, fun hs => absurd hs hstate, fun hs => absurd hs hstate,
    fun h => ⟨h.teardown, h.grace, h.memory⟩⟩

theorem Later.use (s : TaskSlot) (use : MemoryUse) : s.Later { s with memory := use.run s.memory } :=
  ⟨.memory s _, id, fun _ _ _ => id, fun h => h.use use⟩

theorem Later.unbind (s : TaskSlot) (x : ExecutionId) : s.Later { s with tasks := s.tasks.erase x } := by
  refine ⟨.tasks s _, id, fun _ e task htask => ?_, fun h => ⟨h.teardown, h.grace, h.memory⟩⟩
  rw [SortedMap.get?_erase] at htask
  split at htask
  · cases htask
  · exact htask

theorem Later.isEmpty (h : s.Later s') (hstate : s.state = .releasing) (hempty : s.isEmpty = true) :
    s'.isEmpty = true := by
  rw [isEmpty_iff] at hempty ⊢
  intro e
  cases htask : s'.tasks.get? e with
  | none => rfl
  | some task => exact absurd ((hempty e).symm.trans (h.tasks hstate htask)) nofun

/-- A slot that has tasks is not torn down when it is asked back. -/
theorem Later.close (hbusy : s.isEmpty = false) (now : Nat) (cause : String) :
    s.Later (s.close now cause).1 := by
  rw [close_eq, hbusy]
  exact ⟨.state s _, fun _ => rfl, fun _ _ _ => id, fun h => ⟨h.teardown, h.grace, h.memory⟩⟩

/-! ## Leaving the table -/

theorem Leaving.close (hempty : s.isEmpty = true) (now : Nat) (cause : String) :
    s.Leaving now (s.close now cause).1 := by
  refine ⟨.close s now cause, fun {graceMs} h => ?_⟩
  rw [close_eq, hempty, h.teardown]
  have hmemory := h.memory
  refine ⟨hempty, rfl, ⟨hmemory.used, hmemory.within⟩, ?_⟩
  show (if s.memory.isUnused then Teardown.done else .waiting (now + s.graceMs.toNat)) = _ ∨
    (if s.memory.isUnused then Teardown.done else .waiting (now + s.graceMs.toNat)) = _ ∧ _
  rw [h.grace]
  cases hunused : s.memory.isUnused with
  | true => exact .inr ⟨rfl, .inl hunused⟩
  | false => exact .inl rfl

theorem GivenBack.mono {graceMs : UInt64} {left now' : Nat} (h : s.GivenBack graceMs left now)
    (hnow : now ≤ now') : s.GivenBack graceMs left now' := by
  refine ⟨h.empty, h.shutdown, h.memory, h.teardown.imp id fun hdone => ⟨hdone.1, ?_⟩⟩
  exact hdone.2.imp id fun hover => Nat.le_trans hover hnow

theorem Aside.refl (now : Nat) (s : TaskSlot) : s.Aside now s := ⟨.refl s, id, id⟩

theorem Aside.trans (h : s.Aside now s') (h' : s'.Aside now s'') : s.Aside now s'' :=
  ⟨h.toSameGrant.trans h'.toSameGrant, fun hs => h'.closed (h.closed hs),
    fun hs => h'.givenBack (h.givenBack hs)⟩

theorem Leaving.then_aside (h : s.Leaving now s') (h' : s'.Aside now s'') : s.Leaving now s'' :=
  ⟨h.toSameGrant.trans h'.toSameGrant, fun hs => h'.givenBack (h.givenBack hs)⟩

theorem Leaving.of_later (h : s'.Leaving now s'') (hlater : s.Later s') : s.Leaving now s'' :=
  ⟨hlater.toSameGrant.trans h.toSameGrant, fun hs => h.givenBack (hlater.inUse hs)⟩

theorem Aside.settle (s : TaskSlot) (now : Nat) : s.Aside now (s.settle now) := by
  unfold TaskSlot.settle
  cases hteardown : s.teardown with
  | idle => exact .refl now s
  | done => exact .refl now s
  | waiting deadline =>
    by_cases hover : (s.memory.isUnused || deadline ≤ now) = true
    · simp only [hover, ↓reduceIte]
      refine ⟨⟨rfl, rfl, rfl, rfl, rfl⟩, fun _ => rfl, fun {graceMs left} h => ?_⟩
      refine ⟨h.empty, h.shutdown, h.memory, .inr ⟨rfl, ?_⟩⟩
      rw [Bool.or_eq_true, decide_eq_true_iff] at hover
      have hdeadline : deadline = left + graceMs.toNat := by
        rcases h.teardown with hwaiting | ⟨hdone, -⟩
        · exact Teardown.waiting.inj (hteardown.symm.trans hwaiting)
        · rw [hteardown] at hdone
          cases hdone
      rw [← hdeadline]
      exact hover
    · simp only [hover]
      exact .refl now s

theorem Aside.use (now : Nat) (s : TaskSlot) (use : MemoryUse) :
    s.Aside now { s with memory := use.run s.memory } := by
  refine ⟨.memory s _, id, fun h => ⟨h.empty, ManagedMemory.isShutdown_run use h.shutdown,
    h.memory.run use, h.teardown.imp id fun hdone => ⟨hdone.1, ?_⟩⟩⟩
  exact hdone.2.imp (h.memory.unused_run use h.shutdown) id

end WorkerSlots.TaskSlot
