import WorkerSlots.Budget
import WorkerSlots.Proofs.Profiles

/-!
# Budgets dimension by dimension

* `reserve?_eq_some_iff`, `release?_eq_some_iff` : when a profile can be taken or given back, and
  what is taken then (`exists_reserve?_iff`, `reserve?_eq_none_iff`);
* `release?_of_reserve?` : giving back at once what was taken restores the budget as it was.
-/

namespace WorkerSlots.ResourceBudget

variable {b b' : ResourceBudget} {p : ResourceProfile}

theorem ext_units (ht : b.total = b'.total) (hr : ∀ d, b.reserved.units d = b'.reserved.units d) :
    b = b' := by
  have hr := ResourceProfile.ext_units hr
  cases b
  cases b'
  simp_all

theorem reserve?_eq_some_iff :
    b.reserve? p = some b' ↔
      b'.total = b.total ∧ (∀ d, b'.reserved.units d = b.reserved.units d + p.units d) ∧
        ∀ d, b.reserved.units d + p.units d ≤ b.total.units d := by
  unfold reserve?
  constructor
  · intro h
    split at h
    · rename_i reserved hadd
      have hsum := ResourceProfile.add?_eq_some_iff.1 hadd
      split at h
      · rename_i hfit
        obtain rfl := Option.some.inj h
        refine ⟨rfl, hsum, fun d => ?_⟩
        have := ResourceProfile.fitsWithin_iff.1 hfit d
        rw [← hsum d]
        exact this
      · cases h
    · cases h
  · rintro ⟨ht, hsum, hle⟩
    rw [ResourceProfile.add?_eq_some_iff.2 hsum]
    have hfit : b'.reserved.fitsWithin b.total = true :=
      ResourceProfile.fitsWithin_iff.2 fun d => by rw [hsum d]; exact hle d
    simp only [hfit, ↓reduceIte]
    exact congrArg some (ext_units ht.symm fun d => rfl)

/-- A profile can be taken iff it fits into what is left, in every dimension. -/
theorem exists_reserve?_iff :
    (∃ b', b.reserve? p = some b') ↔ ∀ d, b.reserved.units d + p.units d ≤ b.total.units d := by
  constructor
  · rintro ⟨b', h⟩
    exact (reserve?_eq_some_iff.1 h).2.2
  · intro hfit
    have hsize : ∀ d, b.reserved.units d + p.units d < UInt64.size := fun d =>
      Nat.lt_of_le_of_lt (hfit d) (b.total.amount d).toNat_lt_size
    obtain ⟨sum, hsum⟩ := ResourceProfile.exists_add? hsize
    exact ⟨⟨b.total, sum⟩, reserve?_eq_some_iff.2 ⟨rfl, ResourceProfile.add?_eq_some_iff.1 hsum, hfit⟩⟩

/-- It cannot be taken iff less is left in some dimension. -/
theorem reserve?_eq_none_iff :
    b.reserve? p = none ↔ ∃ d, b.total.units d < b.reserved.units d + p.units d := by
  rw [Option.eq_none_iff_forall_ne_some, ← not_exists, exists_reserve?_iff, not_forall]
  exact exists_congr fun d => Nat.not_le

theorem release?_eq_some_iff :
    b.release? p = some b' ↔
      b'.total = b.total ∧ ∀ d, b.reserved.units d = b'.reserved.units d + p.units d := by
  unfold release?
  rw [Option.map_eq_some_iff]
  constructor
  · rintro ⟨reserved, hsub, rfl⟩
    exact ⟨rfl, ResourceProfile.sub?_eq_some_iff.1 hsub⟩
  · rintro ⟨ht, hsub⟩
    exact ⟨b'.reserved, ResourceProfile.sub?_eq_some_iff.2 hsub, ext_units ht.symm fun d => rfl⟩

/-- Giving back at once what was taken restores the budget. -/
theorem release?_of_reserve? (h : b.reserve? p = some b') : b'.release? p = some b := by
  obtain ⟨ht, hsum, -⟩ := reserve?_eq_some_iff.1 h
  exact release?_eq_some_iff.2 ⟨ht.symm, hsum⟩

/-- What fits within the part that is taken can be given back. -/
theorem exists_release? (h : ∀ d, p.units d ≤ b.reserved.units d) :
    ∃ b', b.release? p = some b' := by
  refine ⟨⟨b.total, b.reserved.subSat p⟩, release?_eq_some_iff.2 ⟨rfl, fun d => ?_⟩⟩
  have := h d
  rw [ResourceProfile.units_subSat]
  omega

end WorkerSlots.ResourceBudget
