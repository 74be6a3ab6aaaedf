import Mathlib.Algebra.GroupWithZero.Nat
import Mathlib.Data.List.Nodup
import WorkerSlots.SortedMap

/-!
# Sorted maps: keys, values and totals

* `mem_keys_iff`, `mem_values_iff`, `isEmpty_iff` : the lists of a map by its look-ups;
* `nodup_values`, `filter_values_of_key` : the values of a map, where they carry their own keys;
* `get?_map`, `erase_insert_self`, `erase_insert_of_none`, `insert_insert_self`, `foldl_insert_eq` : equations
  between maps, by `ext_get?`;
* `erase_comm`, `insert_comm`, `erase_insert_comm` : changes under different keys in either order;
* `total f m` : the sum of `f` over the values of `m`, and how `insert` and `erase` change it
  (`total_eq_erase`, `total_insert`, `total_replace`).
-/

namespace WorkerSlots.SortedMap

variable {K V W : Type} [Ord K] [DecidableEq K]

/-- The sum of a quantity over the values of a map. -/
def total (f : V → Nat) (m : SortedMap K V) : Nat := (m.values.map f).sum

section Lawful

variable [Std.TransOrd K] [Std.LawfulEqOrd K]

/-! ## Keys and values -/

omit [Std.TransOrd K] in
theorem mem_keys_iff {m : SortedMap K V} {k : K} : k ∈ m.keys ↔ ∃ v, m.get? k = some v := by
  unfold keys
  rw [List.mem_map]
  constructor
  · rintro ⟨⟨k', v⟩, he, rfl⟩
    exact ⟨v, mem_entries_iff.1 he⟩
  · rintro ⟨v, hv⟩
    exact ⟨(k, v), mem_entries_iff.2 hv, rfl⟩

omit [Std.TransOrd K] in
theorem mem_values_iff {m : SortedMap K V} {v : V} : v ∈ m.values ↔ ∃ k, m.get? k = some v := by
  unfold values
  rw [List.mem_map]
  constructor
  · rintro ⟨⟨k, v'⟩, he, rfl⟩
    exact ⟨k, mem_entries_iff.1 he⟩
  · rintro ⟨k, hk⟩
    exact ⟨(k, v), mem_entries_iff.2 hk, rfl⟩

omit [DecidableEq K] [Std.TransOrd K] in
theorem nodup_keys (m : SortedMap K V) : m.keys.Nodup := by
  unfold keys
  rw [List.Nodup, List.pairwise_map]
  refine m.ascending.imp fun {a b} h hab => ?_
  rw [hab] at h
  simp at h

omit [Std.TransOrd K] in
/-- Values that carry their own keys are all different. -/
theorem nodup_values {m : SortedMap K V} {key : V → K} (hkey : ∀ {k v}, m.get? k = some v → key v = k) :
    m.values.Nodup := by
  unfold values
  rw [List.Nodup, List.pairwise_map]
  refine m.ascending.imp_of_mem fun {a b} ha hb h hab => ?_
  rw [← hkey (mem_entries_iff.1 ha), ← hkey (mem_entries_iff.1 hb), hab] at h
  simp at h

omit [Std.TransOrd K] in
/-- Of values that carry their own keys, one at most carries a given key. -/
theorem filter_values_of_key {m : SortedMap K V} {key : V → K}
    (hkey : ∀ {k v}, m.get? k = some v → key v = k) (k : K) :
    m.values.filter (key · = k) = (m.get? k).toList := by
  have hmem : ∀ v, v ∈ m.values.filter (key · = k) ↔ m.get? k = some v := by
    intro v
    rw [List.mem_filter, mem_values_iff, decide_eq_true_iff]
    constructor
    · rintro ⟨⟨k', hk'⟩, rfl⟩
      rw [hkey hk']
      exact hk'
    · exact fun hk => ⟨⟨k, hk⟩, hkey hk⟩
  cases hk : m.get? k with
  | none =>
    refine List.eq_nil_iff_forall_not_mem.2 fun v hv => ?_
    rw [hmem v, hk] at hv
    cases hv
  | some v =>
    refine List.perm_singleton.1 ((List.perm_ext_iff_of_nodup ?_ (List.nodup_singleton v)).2 fun w => ?_)
    · exact (nodup_values hkey).filter _
    · rw [hmem w, hk, List.mem_singleton, Option.some.injEq, eq_comm]

omit [Std.TransOrd K] in
theorem isEmpty_iff {m : SortedMap K V} : m.isEmpty = true ↔ ∀ k, m.get? k = none := by
  unfold isEmpty
  rw [List.isEmpty_iff]
  constructor
  · intro h k
    unfold get?
    rw [h]
    rfl
  · intro h
    refine List.eq_nil_iff_forall_not_mem.2 fun e he => ?_
    have := mem_entries_iff.1 he
    rw [h] at this
    cases this

omit [Std.TransOrd K] in
theorem isEmpty_eq_false_iff {m : SortedMap K V} :
    m.isEmpty = false ↔ ∃ k v, m.get? k = some v := by
  constructor
  · intro h
    by_cases hm : ∃ k v, m.get? k = some v
    · exact hm
    · have he : m.isEmpty = true := isEmpty_iff.2 fun k => by
        cases hk : m.get? k with
        | none => rfl
        | some v => exact absurd ⟨k, v, hk⟩ hm
      rw [h] at he
      cases he
  · rintro ⟨k, v, hk⟩
    cases he : m.isEmpty with
    | false => rfl
    | true =>
      rw [isEmpty_iff.1 he k] at hk
      cases hk

omit [Std.TransOrd K] [Std.LawfulEqOrd K] in
theorem contains_iff {m : SortedMap K V} {k : K} :
    m.contains k = true ↔ ∃ v, m.get? k = some v := by
  unfold contains
  rw [Option.isSome_iff_exists]

/-! ## Equations -/

omit [Std.TransOrd K] in
theorem get?_map (f : V → W) (m : SortedMap K V) (k : K) : (m.map f).get? k = (m.get? k).map f := by
  unfold map
  rw [get?_filterMap]
  cases m.get? k <;> rfl

theorem erase_insert_self (m : SortedMap K V) (k : K) (v : V) : (m.insert k v).erase k = m.erase k := by
  refine ext_get? fun k' => ?_
  simp only [get?_erase, get?_insert]
  split <;> rfl

/-- Dropping a new entry restores the map. -/
theorem erase_insert_of_none {m : SortedMap K V} {k : K} (h : m.get? k = none) (v : V) :
    (m.insert k v).erase k = m := by
  refine ext_get? fun k' => ?_
  simp only [get?_erase, get?_insert]
  split
  · rename_i hk
    rw [hk, h]
  · rfl

theorem insert_insert_self (m : SortedMap K V) (k : K) (v w : V) :
    (m.insert k v).insert k w = m.insert k w := by
  refine ext_get? fun k' => ?_
  simp only [get?_insert]
  split <;> rfl

theorem erase_comm (m : SortedMap K V) (k k' : K) : (m.erase k).erase k' = (m.erase k').erase k := by
  refine ext_get? fun j => ?_
  simp only [get?_erase]
  split <;> split <;> rfl

theorem insert_comm (m : SortedMap K V) {k k' : K} (h : k ≠ k') (v w : V) :
    (m.insert k v).insert k' w = (m.insert k' w).insert k v := by
  refine ext_get? fun j => ?_
  simp only [get?_insert]
  by_cases hj : j = k
  · rw [if_pos hj, if_pos hj, if_neg (hj ▸ h)]
  · rw [if_neg hj, if_neg hj]

theorem erase_insert_comm (m : SortedMap K V) {k k' : K} (h : k ≠ k') (v : V) :
    (m.insert k v).erase k' = (m.erase k').insert k v := by
  refine ext_get? fun j => ?_
  simp only [get?_erase, get?_insert]
  by_cases hj : j = k
  · rw [if_neg (hj ▸ h), if_pos hj, if_pos hj]
  · rw [if_neg hj, if_neg hj]

/-- Some entries are put one after the other: what comes out is known by its look-ups. -/
theorem foldl_insert_eq {entries : List (K × V)} {m m' : SortedMap K V}
    (hin : ∀ e ∈ entries, m'.get? e.1 = some e.2)
    (hout : ∀ k, (∀ v, (k, v) ∉ entries) → m'.get? k = m.get? k) :
    entries.foldl (fun m e => m.insert e.1 e.2) m = m' := by
  induction entries generalizing m with
  | nil =>
    refine ext_get? fun k => ?_
    exact (hout k fun v hv => nomatch hv).symm
  | cons e rest ih =>
    refine ih (fun e' he' => hin e' (List.mem_cons_of_mem _ he')) fun k hk => ?_
    rw [get?_insert]
    by_cases hke : k = e.1
    · rw [if_pos hke, hke]
      exact hin e List.mem_cons_self
    · rw [if_neg hke]
      refine hout k fun v hv => ?_
      rcases List.mem_cons.1 hv with hv | hv
      · exact hke (congrArg Prod.fst hv)
      · exact hk v hv

/-! ## Totals -/

omit [DecidableEq K] [Std.TransOrd K] in
/-- A key below all others is not among them. -/
theorem ne_of_lt_all {k : K} {entries : List (K × V)}
    (h : ∀ e ∈ entries, compare k e.1 = .lt) {e : K × V} (he : e ∈ entries) : e.1 ≠ k := by
  intro hk
  have := h e he
  rw [hk] at this
  simp at this

omit [Std.TransOrd K] in
theorem sum_eq_sum_drop (f : V → Nat) (k : K) {entries : List (K × V)}
    (h : entries.Pairwise fun a b => compare a.1 b.1 = .lt) :
    (entries.map fun e => f e.2).sum =
      ((find k entries).map f).getD 0 + ((drop k entries).map fun e => f e.2).sum := by
  induction entries with
  | nil => rfl
  | cons x rest ih =>
    obtain ⟨hx, hrest⟩ := List.pairwise_cons.1 h
    by_cases hk : k = x.1
    · subst hk
      have hdrop : drop x.1 (x :: rest) = rest := by
        unfold drop
        rw [List.filter_cons_of_neg (by simp)]
        exact List.filter_eq_self.2 fun e he => by simpa using ne_of_lt_all hx he
      rw [hdrop]
      simp [find]
    · have hdrop : drop k (x :: rest) = x :: drop k rest := by
        unfold drop
        rw [List.filter_cons_of_pos (by simpa using Ne.symm hk)]
      rw [hdrop, List.map_cons, List.sum_cons, List.map_cons, List.sum_cons, ih hrest]
      have hfind : find k (x :: rest) = find k rest := by simp [find, hk]
      rw [hfind]
      omega

omit [Std.TransOrd K] in
/-- What a key contributes to a total, and the rest. -/
theorem total_eq_erase (f : V → Nat) (m : SortedMap K V) (k : K) :
    total f m = ((m.get? k).map f).getD 0 + total f (m.erase k) := by
  have h := sum_eq_sum_drop f k m.ascending
  unfold total values
  rw [List.map_map, List.map_map]
  exact h

theorem total_insert (f : V → Nat) {m : SortedMap K V} {k : K} (v : V) (h : m.get? k = none) :
    total f (m.insert k v) = f v + total f m := by
  rw [total_eq_erase f (m.insert k v) k, total_eq_erase f m k, erase_insert_self, get?_insert_self, h]
  simp

/-- A value that counts the same in place of another leaves the total as it is. -/
theorem total_replace (f : V → Nat) {m : SortedMap K V} {k : K} {v w : V} (h : m.get? k = some v)
    (hf : f w = f v) : total f (m.insert k w) = total f m := by
  rw [total_eq_erase f (m.insert k w) k, total_eq_erase f m k, erase_insert_self, get?_insert_self, h]
  simp [hf]

omit [Std.TransOrd K] in
theorem total_of_get? (f : V → Nat) {m : SortedMap K V} {k : K} {v : V} (h : m.get? k = some v) :
    total f m = f v + total f (m.erase k) := by
  rw [total_eq_erase f m k, h]
  rfl

end Lawful

end WorkerSlots.SortedMap
