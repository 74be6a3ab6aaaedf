/-!
# Sorted maps

* `SortedMap K V` : a finite map, held as its entries in strictly ascending key order, so that
  two maps with the same look-ups are equal (`SortedMap.ext_get?`);
* `get?`, `insert`, `erase`, `filterMap` : each with its look-up equation (`get?_insert`, ...);
* `mem_entries_iff` : the entries are exactly the successful look-ups.
-/

namespace WorkerSlots

/-- A finite map as its entries in strictly ascending key order. -/
structure SortedMap (K V : Type) [Ord K] where
  entries : List (K × V)
  ascending : entries.Pairwise fun a b => compare a.1 b.1 = .lt

namespace SortedMap

variable {K V W : Type} [Ord K] [DecidableEq K]

/-! ## Entry lists -/

/-- The value of the first entry under `k`. -/
def find (k : K) : List (K × V) → Option V
  | [] => none
  | (k', v) :: rest => if k = k' then some v else find k rest

/-- Puts `v` under `k`, before the first larger key and in place of an equal one. -/
def put (k : K) (v : V) : List (K × V) → List (K × V)
  | [] => [(k, v)]
  | (k', v') :: rest =>
    match compare k k' with
    | .lt => (k, v) :: (k', v') :: rest
    | .eq => (k, v) :: rest
    | .gt => (k', v') :: put k v rest

/-- Drops the entries under `k`. -/
def drop (k : K) (entries : List (K × V)) : List (K × V) :=
  entries.filter fun e => decide (e.1 ≠ k)

omit [DecidableEq K] in
theorem mem_put {k : K} {v : V} {entries : List (K × V)} {e : K × V}
    (h : e ∈ put k v entries) : e = (k, v) ∨ e ∈ entries := by
  induction entries with
  | nil => simpa [put] using h
  | cons x rest ih =>
    simp only [put] at h
    split at h
    · simpa using h
    · rcases List.mem_cons.1 h with h | h
      · exact .inl h
      · exact .inr (List.mem_cons_of_mem _ h)
    · rcases List.mem_cons.1 h with h | h
      · exact .inr (by simp [h])
      · rcases ih h with h | h
        · exact .inl h
        · exact .inr (List.mem_cons_of_mem _ h)

section Lawful

variable [Std.TransOrd K] [Std.LawfulEqOrd K]

omit [DecidableEq K] in
theorem ascending_put (k : K) (v : V) {entries : List (K × V)}
    (h : entries.Pairwise fun a b => compare a.1 b.1 = .lt) :
    (put k v entries).Pairwise fun a b => compare a.1 b.1 = .lt := by
  induction entries with
  | nil => simp [put]
  | cons x rest ih =>
    obtain ⟨hx, hrest⟩ := List.pairwise_cons.1 h
    simp only [put]
    split
    · rename_i hlt
      refine List.pairwise_cons.2 ⟨fun e he => ?_, h⟩
      rcases List.mem_cons.1 he with rfl | he
      · exact hlt
      · exact Std.TransCmp.lt_trans hlt (hx e he)
    · rename_i heq
      have := Std.LawfulEqCmp.eq_of_compare heq
      subst this
      exact List.pairwise_cons.2 ⟨hx, hrest⟩
    · rename_i hgt
      refine List.pairwise_cons.2 ⟨fun e he => ?_, ih hrest⟩
      rcases mem_put he with rfl | he
      · exact Std.OrientedCmp.lt_of_gt hgt
      · exact hx e he

omit [Std.TransOrd K] in
theorem find_put (k k' : K) (v : V) (entries : List (K × V)) :
    find k' (put k v entries) = if k' = k then some v else find k' entries := by
  induction entries with
  | nil => simp [put, find]
  | cons x rest ih =>
    simp only [put]
    split
    · simp [find]
    · rename_i heq
      have := Std.LawfulEqCmp.eq_of_compare heq
      subst this
      by_cases h : k' = x.1 <;> simp [find, h]
    · rename_i hgt
      have hne : k ≠ x.1 := fun h => by simp [h] at hgt
      by_cases h : k' = x.1
      · subst h
        simp [find, Ne.symm hne]
      · simp [find, h, ih]

omit [Ord K] [Std.TransOrd K] [Std.LawfulEqOrd K] in
theorem find_drop (k k' : K) (entries : List (K × V)) :
    find k' (drop k entries) = if k' = k then none else find k' entries := by
  induction entries with
  | nil => simp [drop, find]
  | cons x rest ih =>
    simp only [drop] at ih
    by_cases hx : x.1 = k <;> by_cases h : k' = x.1 <;>
      simp_all [drop, find]

omit [Std.TransOrd K] in
theorem find_eq_some_iff {k : K} {v : V} {entries : List (K × V)}
    (h : entries.Pairwise fun a b => compare a.1 b.1 = .lt) :
    find k entries = some v ↔ (k, v) ∈ entries := by
  induction entries with
  | nil => simp [find]
  | cons x rest ih =>
    obtain ⟨hx, hrest⟩ := List.pairwise_cons.1 h
    by_cases hk : k = x.1
    · subst hk
      have : (x.1, v) ∉ rest := fun hm => by simpa using hx _ hm
      simp only [find, ↓reduceIte, List.mem_cons, this, or_false, Option.some.injEq]
      constructor
      · rintro rfl; rfl
      · intro he; rw [← he]
    · have : (k, v) ≠ x := fun he => hk (by rw [← he])
      simp [find, hk, this, ih hrest]

/-- Ascending entry lists with the same look-ups are equal. -/
theorem eq_of_find {l l' : List (K × V)} (h : l.Pairwise fun a b => compare a.1 b.1 = .lt)
    (h' : l'.Pairwise fun a b => compare a.1 b.1 = .lt) (hf : ∀ k, find k l = find k l') :
    l = l' := by
  have hm : ∀ e, e ∈ l ↔ e ∈ l' := fun e => by
    rw [← find_eq_some_iff h, ← find_eq_some_iff h', hf]
  induction l generalizing l' with
  | nil =>
    cases l' with
    | nil => rfl
    | cons y r' => exact absurd ((hm y).2 (by simp)) (by simp)
  | cons x r ih =>
    cases l' with
    | nil => exact absurd ((hm x).1 (by simp)) (by simp)
    | cons y r' =>
      obtain ⟨hx, hr⟩ := List.pairwise_cons.1 h
      obtain ⟨hy, hr'⟩ := List.pairwise_cons.1 h'
      have hxy : x = y := by
        rcases List.mem_cons.1 ((hm x).1 (by simp)) with hxy | hxm
        · exact hxy
        · rcases List.mem_cons.1 ((hm y).2 (by simp)) with hyx | hym
          · exact hyx.symm
          · have := Std.TransCmp.lt_trans (hx y hym) (hy x hxm)
            simp at this
      subst hxy
      have hm' : ∀ e, e ∈ r ↔ e ∈ r' := fun e => by
        constructor
        · intro he
          rcases List.mem_cons.1 ((hm e).1 (List.mem_cons_of_mem _ he)) with rfl | he'
          · have := hx _ he
            simp at this
          · exact he'
        · intro he
          rcases List.mem_cons.1 ((hm e).2 (List.mem_cons_of_mem _ he)) with rfl | he'
          · have := hy _ he
            simp at this
          · exact he'
      have hf' : ∀ k, find k r = find k r' := fun k => by
        cases hk : find k r' with
        | some v => exact (find_eq_some_iff hr).2 ((hm' _).2 ((find_eq_some_iff hr').1 hk))
        | none =>
          cases hk' : find k r with
          | none => rfl
          | some v =>
            have := (find_eq_some_iff hr').2 ((hm' _).1 ((find_eq_some_iff hr).1 hk'))
            simp [hk] at this
      rw [ih hr hr' hf' hm']

end Lawful

/-! ## Maps -/

def empty : SortedMap K V := ⟨[], .nil⟩

instance : EmptyCollection (SortedMap K V) := ⟨empty⟩

instance : Inhabited (SortedMap K V) := ⟨empty⟩

/-- The value under `k`. -/
def get? (m : SortedMap K V) (k : K) : Option V := find k m.entries

/-- Whether there is a value under `k`. -/
def contains (m : SortedMap K V) (k : K) : Bool := (m.get? k).isSome

def keys (m : SortedMap K V) : List K := m.entries.map Prod.fst

/-- The values in ascending order of their keys. -/
def values (m : SortedMap K V) : List V := m.entries.map Prod.snd

def size (m : SortedMap K V) : Nat := m.entries.length

def isEmpty (m : SortedMap K V) : Bool := m.entries.isEmpty

/-- Drops the entry under `k`, if there is one. -/
def erase (m : SortedMap K V) (k : K) : SortedMap K V :=
  ⟨drop k m.entries, m.ascending.filter _⟩

/-- Keeps the entries for which `f` gives a value, with that value. -/
def filterMap (f : K → V → Option W) (m : SortedMap K V) : SortedMap K W where
  entries := m.entries.filterMap fun e => (f e.1 e.2).map (e.1, ·)
  ascending := by
    refine List.Pairwise.filterMap _ (fun a b hab => ?_) m.ascending
    intro x hx y hy
    obtain ⟨v, _, rfl⟩ := Option.map_eq_some_iff.1 hx
    obtain ⟨w, _, rfl⟩ := Option.map_eq_some_iff.1 hy
    exact hab

def map (f : V → W) (m : SortedMap K V) : SortedMap K W := m.filterMap fun _ v => some (f v)

section Lawful

variable [Std.TransOrd K] [Std.LawfulEqOrd K]

/-- Puts `v` under `k`, in place of what was there. -/
def insert (m : SortedMap K V) (k : K) (v : V) : SortedMap K V :=
  ⟨put k v m.entries, ascending_put k v m.ascending⟩

/-- The map of a list of entries; the last one under a key counts. -/
def ofList (entries : List (K × V)) : SortedMap K V :=
  entries.foldl (fun m e => m.insert e.1 e.2) empty

omit [Std.TransOrd K] [Std.LawfulEqOrd K] in
@[simp] theorem get?_empty (k : K) : (empty : SortedMap K V).get? k = none := rfl

theorem get?_insert (m : SortedMap K V) (k k' : K) (v : V) :
    (m.insert k v).get? k' = if k' = k then some v else m.get? k' :=
  find_put k k' v m.entries

@[simp] theorem get?_insert_self (m : SortedMap K V) (k : K) (v : V) :
    (m.insert k v).get? k = some v := by simp [get?_insert]

omit [Std.TransOrd K] [Std.LawfulEqOrd K] in
theorem get?_erase (m : SortedMap K V) (k k' : K) :
    (m.erase k).get? k' = if k' = k then none else m.get? k' :=
  find_drop k k' m.entries

omit [Std.TransOrd K] [Std.LawfulEqOrd K] in
@[simp] theorem get?_erase_self (m : SortedMap K V) (k : K) : (m.erase k).get? k = none := by
  simp [get?_erase]

omit [Std.TransOrd K] in
theorem mem_entries_iff {m : SortedMap K V} {k : K} {v : V} :
    (k, v) ∈ m.entries ↔ m.get? k = some v :=
  (find_eq_some_iff m.ascending).symm

/-- Two maps with the same look-ups are equal. -/
theorem ext_get? {m m' : SortedMap K V} (h : ∀ k, m.get? k = m'.get? k) : m = m' := by
  obtain ⟨l, hl⟩ := m
  obtain ⟨l', hl'⟩ := m'
  have := eq_of_find hl hl' h
  subst this
  rfl

omit [Std.TransOrd K] in
theorem get?_filterMap (f : K → V → Option W) (m : SortedMap K V) (k : K) :
    (m.filterMap f).get? k = (m.get? k).bind (f k) := by
  cases hk : m.get? k with
  | some v =>
    have hv := mem_entries_iff.2 hk
    cases hf : f k v with
    | some w =>
      have : (k, w) ∈ (m.filterMap f).entries :=
        List.mem_filterMap.2 ⟨(k, v), hv, by simp [hf]⟩
      simp [mem_entries_iff.1 this, hf]
    | none =>
      cases hg : (m.filterMap f).get? k with
      | none => simp [hf]
      | some w =>
        obtain ⟨⟨k₁, v₁⟩, hm, he⟩ := List.mem_filterMap.1 (mem_entries_iff.2 hg)
        obtain ⟨w₁, hw, he⟩ := Option.map_eq_some_iff.1 he
        simp only [Prod.mk.injEq] at he
        obtain ⟨rfl, rfl⟩ := he
        have := mem_entries_iff.1 hm
        simp_all
  | none =>
    cases hg : (m.filterMap f).get? k with
    | none => rfl
    | some w =>
      obtain ⟨⟨k₁, v₁⟩, hm, he⟩ := List.mem_filterMap.1 (mem_entries_iff.2 hg)
      obtain ⟨w₁, hw, he⟩ := Option.map_eq_some_iff.1 he
      simp only [Prod.mk.injEq] at he
      obtain ⟨rfl, rfl⟩ := he
      have := mem_entries_iff.1 hm
      simp_all

end Lawful

instance [DecidableEq V] : DecidableEq (SortedMap K V) := fun m m' =>
  decidable_of_iff (m.entries = m'.entries) (by cases m; cases m'; simp)

end SortedMap

end WorkerSlots
