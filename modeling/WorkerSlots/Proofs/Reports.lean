import WorkerSlots.Proofs.StaticSlots

/-!
# Slot reports and the live slots

A report is made in two passes: over the static indices, each of which is looked up, and over the live slots,
of which the dynamic ones are kept. That no slot is lost or named twice is because the books by index say the
same as the live slots.

* `report_eq_append` : the two passes;
* `Books.staticStatus_of_live`, `Books.staticStatus_of_free`, `Books.mem_dynamicSlots_iff` : what each of
  them names;
* `Books.nodup_slotIds`, `Books.taken_perm` : no slot is named twice, and the entries that are taken are
  those of the live slots;
* `Reported` : what a report says of the live slots, in every run (`reported_of_new`).
-/

namespace WorkerSlots.SlotTable

variable {t : SlotTable} {a : AllocationId} {s : TaskSlot} {resourceId : ResourceId}

/-- The live slots at dynamic indices. -/
def dynamicSlots (t : SlotTable) : List TaskSlot := t.slots.values.filter fun s => t.isDynamicIndex s.index

theorem report_eq_append (t : SlotTable) (resourceId : ResourceId) : t.report resourceId =
    (firstIndices t.config.numberSlots.toNat).map (t.staticStatus resourceId) ++
      t.dynamicSlots.map (status resourceId) := by
  unfold report firstIndices dynamicSlots
  rw [List.map_map]
  rfl

/-! ## The pass over the static indices -/

theorem mem_staticIndices_iff {i : SlotIndex} :
    i ∈ firstIndices t.config.numberSlots.toNat ↔ i < t.config.numberSlots := by
  rw [mem_firstIndices_iff (Nat.le_of_lt (UInt64.toNat_lt_size _)), UInt64.lt_iff_toNat_lt]

@[simp] theorem slotId_staticStatus (t : SlotTable) (resourceId : ResourceId) (i : SlotIndex) :
    (t.staticStatus resourceId i).slotId = ⟨resourceId, i⟩ := by
  unfold staticStatus
  cases t.slotAt? i <;> rfl

theorem Books.staticStatus_of_live (h : t.Books) (hlive : t.slots.get? a = some s)
    (resourceId : ResourceId) : t.staticStatus resourceId s.index = status resourceId s := by
  obtain rfl := h.keyed hlive
  unfold staticStatus
  rw [h.slotAt?_iff.2 ⟨hlive, rfl⟩]
  rfl

theorem Books.staticStatus_of_free (h : t.Books) {i : SlotIndex} (hfree : t.isSlotFree i = true)
    (resourceId : ResourceId) :
    t.staticStatus resourceId i = ⟨⟨resourceId, i⟩, t.config.defaultSlotProfile, none, none⟩ := by
  have hnone : t.slotAt? i = none := by
    refine Option.eq_none_iff_forall_not_mem.2 fun s hs => ?_
    obtain ⟨hlive, hi⟩ := h.slotAt?_iff.1 hs
    exact h.isSlotFree_iff.1 hfree _ s hlive hi
  unfold staticStatus
  rw [hnone]

/-- An index is free, or it is that of a live slot. -/
theorem Books.free_or_live (h : t.Books) (i : SlotIndex) :
    t.isSlotFree i = true ∨ ∃ a s, t.slots.get? a = some s ∧ s.index = i := by
  by_cases hlive : ∃ a s, t.slots.get? a = some s ∧ s.index = i
  · exact .inr hlive
  · exact .inl (h.isSlotFree_iff.2 fun a s hs hi => hlive ⟨a, s, hs, hi⟩)

theorem Books.not_free_of_live (h : t.Books) (hlive : t.slots.get? a = some s) :
    t.isSlotFree s.index = false := by
  rw [← Bool.not_eq_true]
  exact fun hfree => h.isSlotFree_iff.1 hfree a s hlive rfl

theorem report_getElem?_of_lt (resourceId : ResourceId) {i : SlotIndex} (hi : i < t.config.numberSlots) :
    (t.report resourceId)[i.toNat]? = some (t.staticStatus resourceId i) := by
  have hlt := UInt64.lt_iff_toNat_lt.1 hi
  unfold report
  rw [List.getElem?_append_left (by simpa using hlt), List.getElem?_map, List.getElem?_range hlt]
  simp

/-! ## The pass over the live slots -/

theorem Books.mem_dynamicSlots_iff (h : t.Books) :
    s ∈ t.dynamicSlots ↔ t.slots.get? s.allocation = some s ∧ t.config.numberSlots ≤ s.index := by
  unfold dynamicSlots isDynamicIndex
  rw [List.mem_filter, SortedMap.mem_values_iff, decide_eq_true_iff]
  constructor
  · rintro ⟨⟨a, hlive⟩, hi⟩
    obtain rfl := h.keyed hlive
    exact ⟨hlive, hi⟩
  · rintro ⟨hlive, hi⟩
    exact ⟨⟨_, hlive⟩, hi⟩

/-- Live slots at the same index are the same. -/
theorem Books.eq_of_index (h : t.Books) {s s' : TaskSlot} (hs : t.slots.get? s.allocation = some s)
    (hs' : t.slots.get? s'.allocation = some s') (hindex : s.index = s'.index) : s = s' := by
  have hat := h.slotAt?_iff.2 ⟨hs, hindex⟩
  rw [h.slotAt?_iff.2 ⟨hs', rfl⟩] at hat
  exact (Option.some.inj hat).symm

/-- No slot is named twice: the static indices are below the dynamic ones, and no index has two slots. -/
theorem Books.nodup_slotIds (h : t.Books) (resourceId : ResourceId) :
    ((t.report resourceId).map (·.slotId)).Nodup := by
  rw [report_eq_append, List.map_append, List.map_map, List.map_map, List.nodup_append']
  refine ⟨?_, ?_, ?_⟩
  · refine List.Nodup.map (fun i j hij => ?_) (nodup_firstIndices (Nat.le_of_lt (UInt64.toNat_lt_size _)))
    simpa using hij
  · refine List.Nodup.map_on (fun s hs s' hs' hsame => ?_) ((SortedMap.nodup_values h.keyed).filter _)
    obtain ⟨hlive, -⟩ := h.mem_dynamicSlots_iff.1 hs
    obtain ⟨hlive', -⟩ := h.mem_dynamicSlots_iff.1 hs'
    exact h.eq_of_index hlive hlive' (congrArg SlotId.index hsame)
  · rw [List.disjoint_left]
    rintro id hstatic hdynamic
    obtain ⟨i, hi, rfl⟩ := List.mem_map.1 hstatic
    obtain ⟨s, hs, hid⟩ := List.mem_map.1 hdynamic
    obtain ⟨-, hge⟩ := h.mem_dynamicSlots_iff.1 hs
    have hindex : s.index = i := by simpa [status] using hid
    rw [hindex] at hge
    exact UInt64.not_le.2 (mem_staticIndices_iff.1 hi) hge

/-! ## Both passes -/

/-- An entry is that of a live slot, or that of a free static index. -/
theorem Books.mem_report_iff (h : t.Books) {entry : SlotStatus} : entry ∈ t.report resourceId ↔
    (∃ a s, t.slots.get? a = some s ∧ entry = status resourceId s) ∨
      ∃ i, i < t.config.numberSlots ∧ t.isSlotFree i = true ∧
        entry = ⟨⟨resourceId, i⟩, t.config.defaultSlotProfile, none, none⟩ := by
  rw [report_eq_append, List.mem_append, List.mem_map, List.mem_map]
  constructor
  · rintro (⟨i, hi, rfl⟩ | ⟨s, hs, rfl⟩)
    · obtain hfree | ⟨a, s, hlive, rfl⟩ := h.free_or_live i
      · exact .inr ⟨i, mem_staticIndices_iff.1 hi, hfree, h.staticStatus_of_free hfree _⟩
      · exact .inl ⟨a, s, hlive, h.staticStatus_of_live hlive _⟩
    · exact .inl ⟨_, s, (h.mem_dynamicSlots_iff.1 hs).1, rfl⟩
  · rintro (⟨a, s, hlive, rfl⟩ | ⟨i, hi, hfree, rfl⟩)
    · obtain rfl := h.keyed hlive
      by_cases hi : s.index < t.config.numberSlots
      · exact .inl ⟨s.index, mem_staticIndices_iff.2 hi, h.staticStatus_of_live hlive _⟩
      · exact .inr ⟨s, h.mem_dynamicSlots_iff.2 ⟨hlive, UInt64.not_lt.1 hi⟩, rfl⟩
    · exact .inl ⟨i, mem_staticIndices_iff.2 hi, h.staticStatus_of_free hfree _⟩

/-- The entries that are taken are those of the live slots. -/
theorem Books.taken_perm (h : t.Books) (resourceId : ResourceId) :
    ((t.report resourceId).filter (!·.isFree)).Perm (t.slots.values.map (status resourceId)) := by
  have hvalues : (t.slots.values.map (status resourceId)).Nodup := by
    refine List.Nodup.map_on (fun s hs s' hs' hsame => ?_) (SortedMap.nodup_values h.keyed)
    obtain ⟨a, ha⟩ := SortedMap.mem_values_iff.1 hs
    obtain ⟨b, hb⟩ := SortedMap.mem_values_iff.1 hs'
    obtain rfl := h.keyed ha
    obtain rfl := h.keyed hb
    exact h.eq_of_index ha hb (congrArg (·.slotId.index) hsame)
  refine (List.perm_ext_iff_of_nodup ((List.Nodup.of_map _ (h.nodup_slotIds resourceId)).filter _)
    hvalues).2 fun entry => ?_
  rw [List.mem_filter, h.mem_report_iff, List.mem_map]
  constructor
  · rintro ⟨⟨a, s, hlive, rfl⟩ | ⟨i, -, -, rfl⟩, htaken⟩
    · exact ⟨s, SortedMap.mem_values_iff.2 ⟨a, hlive⟩, rfl⟩
    · cases htaken
  · rintro ⟨s, hs, rfl⟩
    obtain ⟨a, hlive⟩ := SortedMap.mem_values_iff.1 hs
    exact ⟨.inl ⟨a, s, hlive, rfl⟩, rfl⟩

/-- The entries for an allocation: one if it has a live slot, and else none. -/
theorem Books.filter_report (h : t.Books) (resourceId : ResourceId) (a : AllocationId) :
    (t.report resourceId).filter (·.allocationId = some a) =
      (t.slots.get? a).toList.map (status resourceId) := by
  have hperm := (h.taken_perm resourceId).filter (·.allocationId = some a)
  have hvalues : (t.slots.values.map (status resourceId)).filter (·.allocationId = some a) =
      (t.slots.get? a).toList.map (status resourceId) := by
    rw [← SortedMap.filter_values_of_key h.keyed a, List.filter_map]
    congr 1
    refine List.filter_congr fun s _ => ?_
    simp [status]
  have htaken : ((t.report resourceId).filter (!·.isFree)).filter (·.allocationId = some a) =
      (t.report resourceId).filter (·.allocationId = some a) := by
    rw [List.filter_filter]
    refine List.filter_congr fun entry _ => ?_
    cases hentry : entry.allocationId <;> simp [SlotStatus.isFree, hentry]
  rw [hvalues, htaken] at hperm
  cases hslot : t.slots.get? a with
  | none =>
    rw [hslot] at hperm
    exact List.perm_nil.1 hperm
  | some s =>
    rw [hslot] at hperm
    exact List.perm_singleton.1 hperm

/-! ## What a report says -/

/-- What a report says of the live slots: the static indices in their order, then the dynamic slots. -/
structure Reported (t : SlotTable) (config : TableConfig) (resourceId : ResourceId) : Prop where
  length : (t.report resourceId).length =
    config.numberSlots.toNat + (t.slots.values.filter fun s => config.numberSlots ≤ s.index).length
  taken : ∀ a s, t.slot? a = some s → s.index < config.numberSlots →
    (t.report resourceId)[s.index.toNat]? = some ⟨⟨resourceId, s.index⟩, s.profile, some s.job, some a⟩
  vacant : ∀ i, i < config.numberSlots → (∀ a s, t.slot? a = some s → s.index ≠ i) →
    (t.report resourceId)[i.toNat]? = some ⟨⟨resourceId, i⟩, config.defaultSlotProfile, none, none⟩
  dynamic : ∀ entry, entry ∈ (t.report resourceId).drop config.numberSlots.toNat ↔
    ∃ a s, t.slot? a = some s ∧ config.numberSlots ≤ s.index ∧
      entry = ⟨⟨resourceId, s.index⟩, s.profile, some s.job, some a⟩
  /-- No slot is reported twice. -/
  nodup : ((t.report resourceId).map (·.slotId)).Nodup
  /-- A live allocation is reported once, and no other is reported. -/
  once : ∀ a, (t.report resourceId).filter (·.allocationId = some a) =
    (t.slot? a).toList.map fun s => ⟨⟨resourceId, s.index⟩, s.profile, some s.job, some a⟩
  free : ∀ entry ∈ t.report resourceId, entry.slotId.resourceId = resourceId ∧
    entry.isFree = t.isSlotFree entry.slotId.index
  reserved : ∀ d, (((t.report resourceId).filter (!·.isFree)).map (·.resourceProfile.units d)).sum =
    t.budget.reserved.units d

theorem Books.reported (h : t.Books) (resourceId : ResourceId) : t.Reported t.config resourceId where
  length := by
    rw [report_eq_append, List.length_append, List.length_map, List.length_map]
    unfold firstIndices
    rw [List.length_map, List.length_range]
    rfl
  taken a s hlive hi := by
    rw [report_getElem?_of_lt resourceId hi, h.staticStatus_of_live hlive]
    obtain rfl := h.keyed hlive
    rfl
  vacant i hi hnone := by
    rw [report_getElem?_of_lt resourceId hi, h.staticStatus_of_free (h.isSlotFree_iff.2 hnone)]
  dynamic entry := by
    have hlength : ((firstIndices t.config.numberSlots.toNat).map (t.staticStatus resourceId)).length =
        t.config.numberSlots.toNat := by
      unfold firstIndices
      rw [List.length_map, List.length_map, List.length_range]
    rw [report_eq_append, List.drop_left' hlength, List.mem_map]
    constructor
    · rintro ⟨s, hs, rfl⟩
      obtain ⟨hlive, hi⟩ := h.mem_dynamicSlots_iff.1 hs
      exact ⟨_, s, hlive, hi, rfl⟩
    · rintro ⟨a, s, hlive, hi, rfl⟩
      obtain rfl := h.keyed hlive
      exact ⟨s, h.mem_dynamicSlots_iff.2 ⟨hlive, hi⟩, rfl⟩
  nodup := h.nodup_slotIds resourceId
  once a := by
    rw [h.filter_report resourceId a]
    refine List.map_congr_left fun s hs => ?_
    obtain rfl := h.keyed (Option.mem_toList.1 hs)
    rfl
  free entry hentry := by
    obtain ⟨a, s, hlive, rfl⟩ | ⟨i, -, hfree, rfl⟩ := h.mem_report_iff.1 hentry
    · exact ⟨rfl, (h.not_free_of_live hlive).symm⟩
    · exact ⟨rfl, hfree.symm⟩
  reserved d := by
    rw [((h.taken_perm resourceId).map _).sum_nat, List.map_map, h.reserved d]
    rfl

/-- In every run of a table, a report names every static index and every live slot, each once and as it is. -/
theorem reported_of_new {config : TableConfig} {timers : Timers AllocationId} {table : SlotTable}
    (hnew : new config timers = .ok table) (listening : Bool) (events : List TableEvent)
    (resourceId : ResourceId) :
    (((TableRun.new table listening).afterAll events).table).Reported config resourceId := by
  obtain ⟨hsound, hconfig⟩ := Sound.ofNew hnew listening events
  rw [← hconfig]
  exact hsound.reported resourceId

/-- Of two static slots one is being given back and one is free, and there is a dynamic slot. -/
theorem reported_of_new_draining : ∃ table,
    new (.evenlyDivided 2 TableConfig.standardProfile) (.new 0) = .ok table ∧
    let t := ((TableRun.new table true).afterAll
      [.operation .start, .operation (.allocate ⟨.fixed 0, ⟨0⟩, ⟨1⟩, none, 5⟩),
        .operation (.markActive ⟨1⟩), .operation (.addTask ⟨⟨7⟩, ⟨0⟩, ⟨1⟩⟩),
        .operation (.allocate ⟨.dynamic, ⟨4⟩, ⟨2⟩, none, 5⟩), .operation (.free ⟨1⟩ "")]).table
    (t.report ⟨"worker"⟩).map (fun entry => (entry.slotId.index, entry.jobId, entry.allocationId)) =
        [(0, some ⟨0⟩, some ⟨1⟩), (1, none, none), (2, some ⟨4⟩, some ⟨2⟩)] ∧
      t.Reported (.evenlyDivided 2 TableConfig.standardProfile) ⟨"worker"⟩ :=
  ⟨_, rfl, by decide +kernel, reported_of_new rfl true _ _⟩

end WorkerSlots.SlotTable
