import WorkerSlots.Proofs.Events
import WorkerSlots.Proofs.Maps
import WorkerSlots.Proofs.Profiles

/-!
# The accounts of managed memory

* `Accounted` : what is used is what the owners hold together, and no more than there is;
* `Accounted.reserve`, `Accounted.release`, `Accounted.releaseAll` : whatever its users do keeps the
  accounts of a memory (`Accounted.run`);
* `Accounted.isUnused_iff_held` : nothing is used if and only if nobody holds anything;
* `Accounted.unused_run` : of a memory that was shut down nothing more is taken, so that it stays unused
  once it is.
-/

namespace WorkerSlots

theorem Word.toNat_add_of_lt {a b : UInt64} (h : a.toNat + b.toNat < UInt64.size) :
    (a + b).toNat = a.toNat + b.toNat := by
  rw [UInt64.toNat_add]
  exact Nat.mod_eq_of_lt h

namespace ManagedMemory

/-- What is used is what the owners hold together, and no more than there is. -/
structure Accounted (m : ManagedMemory) : Prop where
  used : m.used.bytes.toNat = m.holdings.total (·.bytes.toNat)
  within : m.used.bytes.toNat ≤ m.total.bytes.toNat

variable {m : ManagedMemory} {owner : String} {bytes : UInt64}

theorem Accounted.new {total : MemorySize} {pageSize : UInt64} (h : new? total pageSize = some m) :
    m.Accounted := by
  unfold new? at h
  split at h
  · cases h
  · obtain rfl := Option.some.inj h
    exact ⟨rfl, Nat.zero_le _⟩

/-- What one owner holds, and what the others do. -/
theorem total_holdings (m : ManagedMemory) (owner : String) :
    m.holdings.total (·.bytes.toNat) =
      (m.held owner).bytes.toNat + (m.holdings.erase owner).total (·.bytes.toNat) := by
  rw [SortedMap.total_eq_erase _ m.holdings owner]
  unfold held
  cases m.holdings.get? owner <;> rfl

theorem Accounted.held_le (h : m.Accounted) (owner : String) :
    (m.held owner).bytes.toNat ≤ m.used.bytes.toNat := by
  rw [h.used, total_holdings m owner]
  exact Nat.le_add_right _ _

/-- An owner takes some memory that is left. -/
theorem Accounted.reserve (h : m.Accounted) : (m.reserve owner bytes).2.Accounted := by
  unfold ManagedMemory.reserve
  dsimp only
  split
  · exact h
  · split
    · rename_i hfit
      have hfit : (m.roundUp bytes).bytes.toNat ≤ m.available.bytes.toNat := UInt64.le_iff_toNat_le.1 hfit
      generalize m.roundUp bytes = amount at hfit ⊢
      unfold available at hfit
      rw [MemorySize.toNat_subSat] at hfit
      have hwithin := h.within
      have htotal := m.total.bytes.toNat_lt_size
      have hused : (m.used.bytes + amount.bytes).toNat = m.used.bytes.toNat + amount.bytes.toNat :=
        Word.toNat_add_of_lt (by omega)
      have hheld : ((m.held owner).bytes + amount.bytes).toNat =
          (m.held owner).bytes.toNat + amount.bytes.toNat := by
        have := h.held_le owner
        exact Word.toNat_add_of_lt (by omega)
      refine ⟨?_, ?_⟩
      · show (m.used.bytes + amount.bytes).toNat = SortedMap.total _ (m.holdings.insert owner _)
        rw [SortedMap.total_of_get? _ (SortedMap.get?_insert_self _ _ _), SortedMap.erase_insert_self,
          hused, hheld, h.used, total_holdings m owner]
        omega
      · show (m.used.bytes + amount.bytes).toNat ≤ m.total.bytes.toNat
        omega
    · exact h

/-- An owner gives back some of what it holds, so that it holds that much less. -/
theorem Accounted.giveBack (h : m.Accounted) (owner : String) {m' : ManagedMemory} {freed : MemorySize}
    (hfreed : freed ≤ m.held owner) (hused : m'.used = ⟨m.used.bytes - freed.bytes⟩)
    (htotal : m'.total = m.total)
    (hholdings : m'.holdings.total (·.bytes.toNat) =
      (m.held owner).bytes.toNat - freed.bytes.toNat + (m.holdings.erase owner).total (·.bytes.toNat)) :
    m'.Accounted ∧ m'.used.bytes.toNat ≤ m.used.bytes.toNat := by
  have hle : freed.bytes.toNat ≤ (m.held owner).bytes.toNat := UInt64.le_iff_toNat_le.1 hfreed
  have hheld := h.held_le owner
  have hdiff : m'.used.bytes.toNat = m.used.bytes.toNat - freed.bytes.toNat := by
    rw [hused]
    exact UInt64.toNat_sub_of_le _ _ (UInt64.le_iff_toNat_le.2 (Nat.le_trans hle hheld))
  have hwithin := h.within
  refine ⟨⟨?_, ?_⟩, ?_⟩
  · rw [hdiff, hholdings, h.used, total_holdings m owner]
    omega
  · rw [hdiff, htotal]
    omega
  · rw [hdiff]
    exact Nat.sub_le _ _

theorem Accounted.release (h : m.Accounted) : (m.release owner bytes).2.Accounted ∧
    (m.release owner bytes).2.used.bytes.toNat ≤ m.used.bytes.toNat := by
  unfold ManagedMemory.release
  cases hget : m.holdings.get? owner with
  | none => exact ⟨h, Nat.le_refl _⟩
  | some held =>
    have hheld : m.held owner = held := by
      unfold ManagedMemory.held
      rw [hget, Option.getD_some]
    dsimp only
    generalize hfreed : (if m.roundUp bytes ≤ held then m.roundUp bytes else held) = freed
    have hle : freed ≤ held := by
      rw [← hfreed]
      split
      · assumption
      · exact UInt64.le_refl _
    refine h.giveBack owner (hheld ▸ hle) rfl rfl ?_
    rw [hheld]
    by_cases hall : held = freed
    · rw [if_pos hall, hall, Nat.sub_self, Nat.zero_add]
    · rw [if_neg hall, SortedMap.total_of_get? _ (SortedMap.get?_insert_self _ _ _),
        SortedMap.erase_insert_self]
      exact congrArg (· + _) (UInt64.toNat_sub_of_le _ _ hle)

theorem Accounted.releaseAll (h : m.Accounted) : (m.releaseAll owner).2.Accounted ∧
    (m.releaseAll owner).2.used.bytes.toNat ≤ m.used.bytes.toNat := by
  have hall : m.held owner ≤ m.held owner := UInt64.le_refl _
  refine h.giveBack owner hall rfl rfl ?_
  rw [Nat.sub_self, Nat.zero_add]
  rfl

/-! ## Every use -/

theorem Accounted.run (h : m.Accounted) (use : MemoryUse) : (use.run m).Accounted := by
  cases use with
  | reserve owner bytes => exact h.reserve
  | release owner bytes => exact h.release.1
  | releaseAll owner => exact h.releaseAll.1
  | shutdown => exact ⟨h.used, h.within⟩

theorem isShutdown_run (use : MemoryUse) (h : m.isShutdown = true) : (use.run m).isShutdown = true := by
  cases use with
  | reserve owner bytes =>
    show (m.reserve owner bytes).2.isShutdown = true
    unfold ManagedMemory.reserve
    simp only [h, ↓reduceIte]
  | release owner bytes =>
    show (m.release owner bytes).2.isShutdown = true
    unfold ManagedMemory.release
    split <;> exact h
  | releaseAll owner => exact h
  | shutdown => rfl

/-- After it was shut down, less and less of a memory is used. -/
theorem Accounted.used_run_le (h : m.Accounted) (use : MemoryUse) (hshutdown : m.isShutdown = true) :
    (use.run m).used.bytes.toNat ≤ m.used.bytes.toNat := by
  cases use with
  | reserve owner bytes =>
    show (m.reserve owner bytes).2.used.bytes.toNat ≤ _
    unfold ManagedMemory.reserve
    simp only [hshutdown, ↓reduceIte]
    exact Nat.le_refl _
  | release owner bytes => exact h.release.2
  | releaseAll owner => exact h.releaseAll.2
  | shutdown => exact Nat.le_refl _

theorem isUnused_iff : m.isUnused = true ↔ m.used.bytes.toNat = 0 := by
  unfold isUnused MemorySize.isZero
  rw [decide_eq_true_iff, ← UInt64.toNat_inj]
  rfl

/-- Nothing of a memory is used if and only if nobody holds anything of it. -/
theorem Accounted.isUnused_iff_held (h : m.Accounted) : m.isUnused = true ↔ ∀ owner, m.held owner = .zero := by
  have hzero : ∀ {size : MemorySize}, size.bytes.toNat = 0 → size = .zero := fun hsize =>
    congrArg MemorySize.mk (UInt64.toNat_inj.1 hsize)
  rw [isUnused_iff]
  constructor
  · intro hused owner
    have := h.held_le owner
    exact hzero (by omega)
  · intro hnone
    rw [h.used]
    refine List.sum_eq_zero_iff_forall_eq_nat.2 fun size hsize => ?_
    obtain ⟨amount, hmem, rfl⟩ := List.mem_map.1 hsize
    obtain ⟨owner, hget⟩ := SortedMap.mem_values_iff.1 hmem
    have hheld := hnone owner
    unfold held at hheld
    rw [hget] at hheld
    exact congrArg (·.bytes.toNat) hheld

/-- A memory is shut down by nothing but its shutdown. -/
theorem isShutdown_run_iff (use : MemoryUse) :
    (use.run m).isShutdown = true ↔ m.isShutdown = true ∨ use = .shutdown := by
  constructor
  · intro hshutdown
    cases use with
    | reserve owner bytes =>
      change (m.reserve owner bytes).2.isShutdown = true at hshutdown
      unfold ManagedMemory.reserve at hshutdown
      dsimp only at hshutdown
      repeat' split at hshutdown
      all_goals exact .inl hshutdown
    | release owner bytes =>
      change (m.release owner bytes).2.isShutdown = true at hshutdown
      unfold ManagedMemory.release at hshutdown
      split at hshutdown <;> exact .inl hshutdown
    | releaseAll owner => exact .inl hshutdown
    | shutdown => exact .inr rfl
  · rintro (hshutdown | rfl)
    · exact isShutdown_run use hshutdown
    · rfl

theorem Accounted.unused_run (h : m.Accounted) (use : MemoryUse) (hshutdown : m.isShutdown = true)
    (hunused : m.isUnused = true) : (use.run m).isUnused = true := by
  rw [isUnused_iff] at hunused ⊢
  have := h.used_run_le use hshutdown
  omega

end ManagedMemory

end WorkerSlots
