import WorkerSlots.Profile
import WorkerSlots.Proofs.Maps

/-!
# Profiles as vectors of numbers

* `ResourceProfile.units p d` : the amount of `p` in the dimension `d`, as a number. A profile is
  determined by its units (`ext_units`), of which there may be infinitely many dimensions: one for
  every name of an extended resource;
* `amount_set`, `isZero_iff`, `fitsWithin_iff`, `add?_eq_some_iff`, `units_subSat`,
  `sub?_eq_some_iff` : the operations on profiles, dimension by dimension. A sum exists iff it fits
  in every dimension (`exists_add?`).
-/

namespace WorkerSlots

theorem Word.exists_add? {a b : UInt64} (h : a.toNat + b.toNat < UInt64.size) :
    ∃ w, Word.add? a b = some w :=
  ⟨UInt64.ofNatLT _ h, Word.add?_eq_some_iff.2 UInt64.toNat_ofNatLT⟩

theorem Word.add?_one_eq_none_iff {w : UInt64} : Word.add? w 1 = none ↔ w.toNat = 2 ^ 64 - 1 := by
  have hlt := w.toNat_lt_size
  have hone : (1 : UInt64).toNat = 1 := rfl
  have hsize : UInt64.size = 2 ^ 64 := rfl
  refine Word.ofNat?_eq_none_iff.trans ?_
  omega

/-! ## Named amounts -/

namespace Amounts

theorem amount_of_get? {a : Amounts} {name : String} {x : UInt64}
    (h : a.stored.get? name = some x) : a.amount name = x := by
  rw [amount, h]
  rfl

theorem ne_zero_of_mem {a : Amounts} {e : String × UInt64} (h : e ∈ a.toList) : e.2 ≠ 0 := by
  intro hzero
  refine a.positive e.1 ?_
  rw [← hzero]
  exact SortedMap.mem_entries_iff.1 h

/-- Amounts are empty if and only if every one of them is zero. -/
theorem isEmpty_iff {a : Amounts} : a.isEmpty = true ↔ ∀ name, a.amount name = 0 := by
  unfold isEmpty
  rw [SortedMap.isEmpty_iff]
  refine forall_congr' fun name => ?_
  have hpos := a.positive name
  unfold amount
  cases hget : a.stored.get? name with
  | none => simp
  | some x =>
    rw [hget] at hpos
    simpa using fun hx => hpos (congrArg some hx)

theorem le_iff {a b : Amounts} :
    a.le b = true ↔ ∀ name, (a.amount name).toNat ≤ (b.amount name).toNat := by
  unfold le toList
  rw [List.all_eq_true]
  constructor
  · intro h name
    cases hx : a.stored.get? name with
    | none =>
      rw [amount, hx]
      exact Nat.zero_le _
    | some x =>
      rw [amount_of_get? hx]
      have := h (name, x) (SortedMap.mem_entries_iff.2 hx)
      exact UInt64.le_iff_toNat_le.1 (of_decide_eq_true this)
  · rintro h ⟨name, x⟩ he
    have hx := h name
    rw [amount_of_get? (SortedMap.mem_entries_iff.1 he)] at hx
    exact decide_eq_true (UInt64.le_iff_toNat_le.2 hx)

theorem amount_subSat (a b : Amounts) (name : String) :
    (a.subSat b).amount name = Word.subSat (a.amount name) (b.amount name) := by
  unfold subSat
  refine amount_mapAmounts _ (fun name' => ?_) a name
  refine UInt64.toNat_inj.1 ?_
  rw [Word.toNat_subSat]
  exact Nat.zero_sub _

/-- A name below all others of some entries is not among them. -/
theorem find_eq_none_of_lt {name : String} {entries : List (String × UInt64)}
    (h : ∀ e ∈ entries, compare name e.1 = .lt)
    (hasc : entries.Pairwise fun a b => compare a.1 b.1 = .lt) :
    SortedMap.find name entries = .none := by
  cases hf : SortedMap.find name entries with
  | none => rfl
  | some y =>
    have hmem := (SortedMap.find_eq_some_iff hasc).1 hf
    have hlt : compare name name = .lt := h _ hmem
    simp at hlt

/-- Entry by entry, the sums are taken from the left; the names are distinct, so that every entry
is added to the amount that was there before. -/
theorem foldlM_add?_eq_some_iff {entries : List (String × UInt64)}
    (hasc : entries.Pairwise fun a b => compare a.1 b.1 = .lt) (a c : Amounts) :
    entries.foldlM (fun sum e => (Word.add? (sum.amount e.1) e.2).map (sum.set e.1)) a = some c ↔
      ∀ name, (c.amount name).toNat =
        (a.amount name).toNat + ((SortedMap.find name entries).getD 0).toNat := by
  induction entries generalizing a with
  | nil =>
    simp only [List.foldlM_nil, SortedMap.find, Option.getD_none]
    constructor
    · intro h name
      obtain rfl := Option.some.inj h
      rfl
    · intro h
      exact congrArg some (ext_amount fun name => (UInt64.toNat_inj.1 (h name)).symm)
  | cons e rest ih =>
    obtain ⟨name₀, x⟩ := e
    obtain ⟨hx, hrest⟩ := List.pairwise_cons.1 hasc
    have habsent := find_eq_none_of_lt hx hrest
    rw [List.foldlM_cons]
    cases hw : Word.add? (a.amount name₀) x with
    | none =>
      have hbig := Word.ofNat?_eq_none_iff.1 hw
      refine iff_of_false (fun h => by cases h) fun h => ?_
      have := h name₀
      have hlt := (c.amount name₀).toNat_lt_size
      simp only [SortedMap.find, ↓reduceIte, Option.getD_some] at this
      omega
    | some w =>
      have hw := Word.add?_eq_some_iff.1 hw
      show rest.foldlM _ (a.set name₀ w) = some c ↔ _
      rw [ih hrest]
      refine forall_congr' fun name => ?_
      rw [amount_set]
      by_cases hn : name = name₀
      · subst hn
        simp [SortedMap.find, habsent, hw]
      · simp [SortedMap.find, hn]

theorem add?_eq_some_iff {a b c : Amounts} :
    a.add? b = some c ↔
      ∀ name, (c.amount name).toNat = (a.amount name).toNat + (b.amount name).toNat :=
  foldlM_add?_eq_some_iff b.stored.ascending a c

theorem exists_foldlM_add? {entries : List (String × UInt64)}
    (hasc : entries.Pairwise fun a b => compare a.1 b.1 = .lt) (a : Amounts)
    (h : ∀ name, (a.amount name).toNat + ((SortedMap.find name entries).getD 0).toNat < UInt64.size) :
    ∃ c, entries.foldlM (fun sum e => (Word.add? (sum.amount e.1) e.2).map (sum.set e.1)) a =
      some c := by
  induction entries generalizing a with
  | nil => exact ⟨a, rfl⟩
  | cons e rest ih =>
    obtain ⟨name₀, x⟩ := e
    obtain ⟨hx, hrest⟩ := List.pairwise_cons.1 hasc
    have habsent := find_eq_none_of_lt hx hrest
    have hfirst : (a.amount name₀).toNat + x.toNat < UInt64.size := by
      simpa [SortedMap.find] using h name₀
    obtain ⟨w, hw⟩ := Word.exists_add? hfirst
    rw [List.foldlM_cons, hw]
    refine ih hrest (a.set name₀ w) fun name => ?_
    rw [amount_set]
    by_cases hn : name = name₀
    · subst hn
      rw [if_pos rfl, habsent, Word.add?_eq_some_iff.1 hw]
      exact hfirst
    · rw [if_neg hn]
      simpa [SortedMap.find, hn] using h name

/-- A sum exists if no amount is too large for a word. -/
theorem exists_add? {a b : Amounts}
    (h : ∀ name, (a.amount name).toNat + (b.amount name).toNat < UInt64.size) :
    ∃ c, a.add? b = some c :=
  exists_foldlM_add? b.stored.ascending a h

end Amounts

/-! ## Memory sizes -/

namespace MemorySize

theorem add?_eq_some_iff {a b c : MemorySize} :
    a.add? b = some c ↔ c.bytes.toNat = a.bytes.toNat + b.bytes.toNat := by
  unfold add?
  rw [Option.map_eq_some_iff]
  constructor
  · rintro ⟨w, hw, rfl⟩
    exact Word.add?_eq_some_iff.1 hw
  · intro h
    exact ⟨c.bytes, Word.add?_eq_some_iff.2 h, rfl⟩

theorem exists_add? {a b : MemorySize} (h : a.bytes.toNat + b.bytes.toNat < UInt64.size) :
    ∃ c, a.add? b = some c := by
  obtain ⟨w, hw⟩ := Word.exists_add? h
  exact ⟨⟨w⟩, add?_eq_some_iff.2 (Word.add?_eq_some_iff.1 hw)⟩

theorem toNat_subSat (a b : MemorySize) :
    (a.subSat b).bytes.toNat = a.bytes.toNat - b.bytes.toNat := Word.toNat_subSat _ _

end MemorySize

/-! ## Profiles -/

namespace ResourceProfile

/-- The amount in one dimension, as a number. -/
def units (p : ResourceProfile) (d : Dimension) : Nat := (p.amount d).toNat

theorem ext_units {p q : ResourceProfile} (h : ∀ d, p.units d = q.units d) : p = q :=
  ext_amount fun d => UInt64.toNat_inj.1 (h d)

@[simp] theorem units_zero (d : Dimension) : zero.units d = 0 := by
  cases d <;> rfl

/-- What holds in every dimension holds in each of the five and for every name, and conversely. -/
theorem forall_dimension {P : Dimension → Prop} :
    (∀ d, P d) ↔ P .cpuMillis ∧ P .taskHeap ∧ P .taskOffHeap ∧ P .managedMemory ∧
      P .networkMemory ∧ ∀ name, P (.extended name) := by
  constructor
  · intro h
    exact ⟨h _, h _, h _, h _, h _, fun name => h _⟩
  · rintro ⟨h1, h2, h3, h4, h5, h6⟩ d
    cases d with
    | cpuMillis => exact h1
    | taskHeap => exact h2
    | taskOffHeap => exact h3
    | managedMemory => exact h4
    | networkMemory => exact h5
    | extended name => exact h6 name

theorem amount_set (p : ResourceProfile) (d e : Dimension) (value : UInt64) :
    (p.set d value).amount e = if e = d then value else p.amount e := by
  cases d with
  | extended name =>
    cases e with
    | extended other =>
      show (p.extended.set name value).amount other = _
      rw [Amounts.amount_set]
      simp [amount]
    | _ => rfl
  | _ => cases e <;> rfl

theorem isZero_iff {p : ResourceProfile} : p.isZero = true ↔ ∀ d, p.amount d = 0 := by
  rw [forall_dimension]
  unfold isZero MemorySize.isZero
  simp only [Bool.and_eq_true, decide_eq_true_eq, Amounts.isEmpty_iff, and_assoc]
  exact Iff.rfl

theorem fitsWithin_iff {p q : ResourceProfile} :
    p.fitsWithin q = true ↔ ∀ d, p.units d ≤ q.units d := by
  rw [forall_dimension]
  unfold fitsWithin
  simp only [Bool.and_eq_true, decide_eq_true_eq, Amounts.le_iff, and_assoc]
  exact Iff.rfl

theorem add?_eq_some_iff {p q r : ResourceProfile} :
    p.add? q = some r ↔ ∀ d, r.units d = p.units d + q.units d := by
  rw [forall_dimension]
  unfold add?
  simp only [Option.bind_eq_bind, Option.bind_eq_some_iff, Option.pure_def, Option.some.injEq]
  constructor
  · rintro ⟨w1, h1, w2, h2, w3, h3, w4, h4, w5, h5, w6, h6, rfl⟩
    exact ⟨Word.add?_eq_some_iff.1 h1, MemorySize.add?_eq_some_iff.1 h2,
      MemorySize.add?_eq_some_iff.1 h3, MemorySize.add?_eq_some_iff.1 h4,
      MemorySize.add?_eq_some_iff.1 h5, Amounts.add?_eq_some_iff.1 h6⟩
  · rintro ⟨h1, h2, h3, h4, h5, h6⟩
    exact ⟨r.cpuMillis, Word.add?_eq_some_iff.2 h1, r.taskHeap, MemorySize.add?_eq_some_iff.2 h2,
      r.taskOffHeap, MemorySize.add?_eq_some_iff.2 h3, r.managedMemory,
      MemorySize.add?_eq_some_iff.2 h4, r.networkMemory, MemorySize.add?_eq_some_iff.2 h5,
      r.extended, Amounts.add?_eq_some_iff.2 h6, rfl⟩

/-- A sum exists if it fits in every dimension. -/
theorem exists_add? {p q : ResourceProfile} (h : ∀ d, p.units d + q.units d < UInt64.size) :
    ∃ r, p.add? q = some r := by
  obtain ⟨h1, h2, h3, h4, h5, h6⟩ := forall_dimension.1 h
  obtain ⟨w1, hw1⟩ := Word.exists_add? h1
  obtain ⟨w2, hw2⟩ := MemorySize.exists_add? h2
  obtain ⟨w3, hw3⟩ := MemorySize.exists_add? h3
  obtain ⟨w4, hw4⟩ := MemorySize.exists_add? h4
  obtain ⟨w5, hw5⟩ := MemorySize.exists_add? h5
  obtain ⟨w6, hw6⟩ := Amounts.exists_add? h6
  refine ⟨⟨w1, w2, w3, w4, w5, w6⟩, add?_eq_some_iff.2 (forall_dimension.2 ?_)⟩
  exact ⟨Word.add?_eq_some_iff.1 hw1, MemorySize.add?_eq_some_iff.1 hw2,
    MemorySize.add?_eq_some_iff.1 hw3, MemorySize.add?_eq_some_iff.1 hw4,
    MemorySize.add?_eq_some_iff.1 hw5, Amounts.add?_eq_some_iff.1 hw6⟩

theorem units_subSat (p q : ResourceProfile) (d : Dimension) :
    (p.subSat q).units d = p.units d - q.units d := by
  cases d with
  | cpuMillis => exact Word.toNat_subSat _ _
  | taskHeap => exact MemorySize.toNat_subSat _ _
  | taskOffHeap => exact MemorySize.toNat_subSat _ _
  | managedMemory => exact MemorySize.toNat_subSat _ _
  | networkMemory => exact MemorySize.toNat_subSat _ _
  | extended name =>
    show ((p.extended.subSat q.extended).amount name).toNat = _
    rw [Amounts.amount_subSat]
    exact Word.toNat_subSat _ _

theorem sub?_eq_some_iff {p q r : ResourceProfile} :
    p.sub? q = some r ↔ ∀ d, p.units d = r.units d + q.units d := by
  unfold sub?
  constructor
  · intro h d
    split at h
    · rename_i hfit
      obtain rfl := Option.some.inj h
      have := fitsWithin_iff.1 hfit d
      rw [units_subSat]
      omega
    · cases h
  · intro h
    have hfit : q.fitsWithin p = true := fitsWithin_iff.2 fun d => by have := h d; omega
    rw [if_pos hfit]
    refine congrArg some (ext_units fun d => ?_)
    have := h d
    rw [units_subSat]
    omega

end ResourceProfile

end WorkerSlots
