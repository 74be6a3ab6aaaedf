import WorkerSlots.Proofs.Profiles

/-!
# The laws of profile arithmetic

Profiles are added and subtracted in every dimension at once, and if one dimension fails there is no result at
all. Where there are results they obey the laws of numbers, and a failure is the same however the sum is
bracketed.

* `exists_add?_iff`, `add?_eq_none_iff`, `sub?_eq_none_iff` : when there is a sum or a difference, and when not;
* `sub?_eq_some_iff_add?`, `fitsWithin_iff_exists_add?` : differences and the order, in terms of sums;
* `add?_comm`, `bind_add?_eq_some_iff`, `add?_assoc` : a sum of three profiles has the sums of their units, and
  fails if one of these is too large for a word (`bind_add?_eq_none_iff`);
* `Laws`, `arithmetic_laws` : all of them for any three profiles.
-/

namespace WorkerSlots.ResourceProfile

variable {p q r s : ResourceProfile}

/-! ## When there is no result -/

/-- A sum exists if and only if it fits in every dimension. -/
theorem exists_add?_iff : (∃ r, p.add? q = some r) ↔ ∀ d, p.units d + q.units d < UInt64.size := by
  constructor
  · rintro ⟨sum, hsum⟩ d
    rw [← add?_eq_some_iff.1 hsum d]
    exact (sum.amount d).toNat_lt_size
  · exact exists_add?

theorem add?_eq_none_iff : p.add? q = none ↔ ∃ d, UInt64.size ≤ p.units d + q.units d := by
  rw [Option.eq_none_iff_forall_ne_some, ← not_exists, exists_add?_iff, not_forall]
  exact exists_congr fun d => Nat.not_lt

theorem fitsWithin_iff_sub? : q.fitsWithin p = true ↔ p.sub? q = some (p.subSat q) := by
  unfold sub?
  by_cases hfit : q.fitsWithin p = true <;> simp [hfit]

theorem sub?_eq_none_iff : p.sub? q = none ↔ ∃ d, p.units d < q.units d := by
  have hiff : p.sub? q = none ↔ ¬ q.fitsWithin p = true := by
    unfold sub?
    by_cases hfit : q.fitsWithin p = true <;> simp [hfit]
  rw [hiff, fitsWithin_iff, not_forall]
  exact exists_congr fun d => Nat.not_le

/-! ## Differences and the order -/

/-- Subtracting is the inverse of adding. -/
theorem sub?_eq_some_iff_add? : p.sub? q = some r ↔ r.add? q = some p :=
  sub?_eq_some_iff.trans add?_eq_some_iff.symm

theorem fitsWithin_iff_exists_sub? : q.fitsWithin p = true ↔ ∃ r, p.sub? q = some r := by
  constructor
  · intro hfit
    exact ⟨_, fitsWithin_iff_sub?.1 hfit⟩
  · rintro ⟨r, hr⟩
    refine fitsWithin_iff.2 fun d => ?_
    rw [sub?_eq_some_iff.1 hr d]
    exact Nat.le_add_left _ _

/-- A profile fits within those that are sums with it. -/
theorem fitsWithin_iff_exists_add? :
    q.fitsWithin p = true ↔ ∃ r : ResourceProfile, r.add? q = some p :=
  fitsWithin_iff_exists_sub?.trans (exists_congr fun _ => sub?_eq_some_iff_add?)

theorem subSat_of_sub? (h : p.sub? q = some r) : p.subSat q = r := by
  rw [fitsWithin_iff_sub?.1 (fitsWithin_iff_exists_sub?.2 ⟨r, h⟩)] at h
  exact Option.some.inj h

theorem fitsWithin_refl (p : ResourceProfile) : p.fitsWithin p = true :=
  fitsWithin_iff.2 fun _ => Nat.le_refl _

theorem fitsWithin_trans (hpq : p.fitsWithin q = true) (hqr : q.fitsWithin r = true) :
    p.fitsWithin r = true :=
  fitsWithin_iff.2 fun d => Nat.le_trans (fitsWithin_iff.1 hpq d) (fitsWithin_iff.1 hqr d)

/-- Profiles that fit within each other are equal. -/
theorem fitsWithin_antisymm_iff : p.fitsWithin q = true ∧ q.fitsWithin p = true ↔ p = q := by
  constructor
  · rintro ⟨hpq, hqp⟩
    exact ext_units fun d => Nat.le_antisymm (fitsWithin_iff.1 hpq d) (fitsWithin_iff.1 hqp d)
  · rintro rfl
    exact ⟨fitsWithin_refl p, fitsWithin_refl p⟩

theorem zero_fitsWithin (p : ResourceProfile) : zero.fitsWithin p = true := by
  refine fitsWithin_iff.2 fun d => ?_
  rw [units_zero]
  exact Nat.zero_le _

/-! ## Sums -/

theorem add?_comm (p q : ResourceProfile) : p.add? q = q.add? p := by
  refine Option.ext fun sum => ?_
  rw [add?_eq_some_iff, add?_eq_some_iff]
  exact forall_congr' fun d => by rw [Nat.add_comm]

theorem add?_zero (p : ResourceProfile) : p.add? zero = some p :=
  add?_eq_some_iff.2 fun d => by rw [units_zero, Nat.add_zero]

/-- The sum of three profiles. The sum of the first two fits in a word wherever that of all three does. -/
theorem bind_add?_eq_some_iff :
    (p.add? q).bind (·.add? r) = some s ↔ ∀ d, s.units d = p.units d + q.units d + r.units d := by
  rw [Option.bind_eq_some_iff]
  constructor
  · rintro ⟨sum, hsum, hs⟩ d
    rw [add?_eq_some_iff.1 hs d, add?_eq_some_iff.1 hsum d]
  · intro hunits
    have hsmall : ∀ d, p.units d + q.units d < UInt64.size := fun d => by
      have hd := hunits d
      have hlt : s.units d < UInt64.size := (s.amount d).toNat_lt_size
      omega
    obtain ⟨sum, hsum⟩ := exists_add? hsmall
    refine ⟨sum, hsum, add?_eq_some_iff.2 fun d => ?_⟩
    rw [hunits d, add?_eq_some_iff.1 hsum d]

theorem add?_assoc (p q r : ResourceProfile) :
    (p.add? q).bind (·.add? r) = (q.add? r).bind (p.add? ·) := by
  refine Option.ext fun sum => ?_
  have hright : (q.add? r).bind (p.add? ·) = (q.add? r).bind (·.add? p) :=
    congrArg (Option.bind _) (funext fun x => add?_comm p x)
  rw [hright, bind_add?_eq_some_iff, bind_add?_eq_some_iff]
  refine forall_congr' fun d => ?_
  have hsums : q.units d + r.units d + p.units d = p.units d + q.units d + r.units d := by omega
  rw [hsums]

/-- A sum of three profiles fails if the sum of the units in some dimension is too large for a word. -/
theorem bind_add?_eq_none_iff :
    (p.add? q).bind (·.add? r) = none ↔ ∃ d, UInt64.size ≤ p.units d + q.units d + r.units d := by
  cases hsum : p.add? q with
  | none =>
    obtain ⟨d, hd⟩ := add?_eq_none_iff.1 hsum
    exact iff_of_true rfl ⟨d, Nat.le_trans hd (Nat.le_add_right _ _)⟩
  | some sum =>
    rw [Option.bind_some, add?_eq_none_iff]
    refine exists_congr fun d => ?_
    rw [add?_eq_some_iff.1 hsum d]

/-! ## All laws -/

/-- The laws of sums, of differences and of the order, for three profiles. -/
structure Laws (a b c : ResourceProfile) : Prop where
  sub_iff_add : c.sub? b = some a ↔ a.add? b = some c
  fits_iff_sub : b.fitsWithin c = true ↔ ∃ x, c.sub? b = some x
  fits_iff_add : b.fitsWithin c = true ↔ ∃ x : ResourceProfile, x.add? b = some c
  fits_iff_units : b.fitsWithin c = true ↔ ∀ d, b.units d ≤ c.units d
  refl : a.fitsWithin a = true
  trans : a.fitsWithin b = true → b.fitsWithin c = true → a.fitsWithin c = true
  antisymm : a.fitsWithin b = true ∧ b.fitsWithin a = true ↔ a = b
  zero_least : zero.fitsWithin a = true
  add_comm : a.add? b = b.add? a
  add_zero : a.add? zero = some a
  zero_add : zero.add? a = some a
  /-- Both sums have the same result, or both have none. -/
  add_assoc : (a.add? b).bind (·.add? c) = (b.add? c).bind (a.add? ·)
  overflows : a.add? b = none ↔ ∃ d, UInt64.size ≤ a.units d + b.units d
  overflows_three :
    (a.add? b).bind (·.add? c) = none ↔ ∃ d, UInt64.size ≤ a.units d + b.units d + c.units d
  underflows : c.sub? b = none ↔ ∃ d, c.units d < b.units d
  subSat_of_sub : ∀ x, c.sub? b = some x → c.subSat b = x

/-- Any three profiles obey the laws. -/
theorem arithmetic_laws (a b c : ResourceProfile) : Laws a b c where
  sub_iff_add := sub?_eq_some_iff_add?
  fits_iff_sub := fitsWithin_iff_exists_sub?
  fits_iff_add := fitsWithin_iff_exists_add?
  fits_iff_units := fitsWithin_iff
  refl := fitsWithin_refl a
  trans := fitsWithin_trans
  antisymm := fitsWithin_antisymm_iff
  zero_least := zero_fitsWithin a
  add_comm := add?_comm a b
  add_zero := add?_zero a
  zero_add := (add?_comm zero a).trans (add?_zero a)
  add_assoc := add?_assoc a b c
  overflows := add?_eq_none_iff
  overflows_three := bind_add?_eq_none_iff
  underflows := sub?_eq_none_iff
  subSat_of_sub _ := subSat_of_sub?

end WorkerSlots.ResourceProfile
