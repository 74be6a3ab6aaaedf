import WorkerSlots.Proofs.Shutdowns

/-!
# The lives of agents

* `Claimed.report_eq`, `Claimed.activeAllocations_perm`, `Claimed.tasks_perm` : what can be seen of a table
  whose first static slots are claimed;
* `Agent.Lives` : what the life of an agent comes to that claims so many slots;
* `Agent.lives_amid` : an agent of a table just created lives such a life, whatever timeouts come late. It claims
  as many static slots as there is room for;
* `Agent.lives_of_ofText` : every usable configuration leads to such a life, whatever time passes.
-/

namespace WorkerSlots

open SlotTable

/-! ## What can be seen of claimed slots -/

/-- The status of a static slot where the slots below `k` are claimed. -/
def AgentIds.status (ids : AgentIds) (config : TableConfig) (k : Nat) (resourceId : ResourceId)
    (i : SlotIndex) : SlotStatus :=
  if i.toNat < k then ⟨⟨resourceId, i⟩, config.defaultSlotProfile, some ids.job, some (ids.allocation i)⟩
  else ⟨⟨resourceId, i⟩, config.defaultSlotProfile, none, none⟩

theorem eraseDups_of_forall_eq {α : Type} [BEq α] [LawfulBEq α] {x : α} {l : List α} (hne : l ≠ [])
    (h : ∀ y ∈ l, y = x) : l.eraseDups = [x] := by
  cases l with
  | nil => exact absurd rfl hne
  | cons y rest =>
    obtain rfl := h y List.mem_cons_self
    have hrest : rest.filter (fun z => !z == y) = [] := by
      rw [List.filter_eq_nil_iff]
      intro z hz
      rw [h z (List.mem_cons_of_mem _ hz), beq_self_eq_true]
      nofun
    rw [List.eraseDups_cons, hrest]
    rfl

namespace SlotTable.Claimed

variable {t : SlotTable} {config : TableConfig} {ids : AgentIds} {k : Nat}

theorem slotAt?_of_lt (h : Claimed config ids k t) {i : SlotIndex} (hi : i.toNat < k) :
    ∃ s, t.slotAt? i = some s ∧ s.IsClaimed config ids ∧ s.allocation = ids.allocation i := by
  obtain ⟨s, hs, rfl⟩ := h.taken i hi
  have hkey := h.sound.keyed hs
  refine ⟨s, h.sound.slotAt?_iff.2 ⟨?_, rfl⟩, (h.live hs).2, hkey⟩
  rw [hkey]
  exact hs

theorem slotAt?_of_le (h : Claimed config ids k t) {i : SlotIndex} (hi : k ≤ i.toNat) :
    t.slotAt? i = none := by
  cases hs : t.slotAt? i with
  | none => rfl
  | some s =>
    obtain ⟨hlive, rfl⟩ := h.sound.slotAt?_iff.1 hs
    exact absurd (h.live hlive).1 (Nat.not_lt.2 hi)

theorem staticStatus_eq (h : Claimed config ids k t) (resourceId : ResourceId) (i : SlotIndex) :
    t.staticStatus resourceId i = ids.status config k resourceId i := by
  unfold staticStatus AgentIds.status
  by_cases hi : i.toNat < k
  · obtain ⟨s, hs, hclaimed, hallocation⟩ := h.slotAt?_of_lt hi
    rw [hs, if_pos hi]
    unfold SlotTable.status
    dsimp only
    rw [hclaimed.profile, hclaimed.job, hallocation]
  · rw [h.slotAt?_of_le (Nat.not_lt.1 hi), if_neg hi, h.configured]

/-- The slots below `k` are reported as claimed, and all others as free. -/
theorem report_eq (h : Claimed config ids k t) (hk : k ≤ config.numberSlots.toNat)
    (resourceId : ResourceId) : t.report resourceId =
      (firstIndices config.numberSlots.toNat).map (ids.status config k resourceId) := by
  have hdynamic : (t.slots.values.filter fun slot => t.isDynamicIndex slot.index) = [] := by
    rw [List.filter_eq_nil_iff]
    intro s hs
    obtain ⟨a, ha⟩ := SortedMap.mem_values_iff.1 hs
    have hlt := Nat.lt_of_lt_of_le (h.live ha).1 hk
    unfold isDynamicIndex
    rw [h.configured, decide_eq_true_iff]
    exact UInt64.not_le.2 (UInt64.lt_iff_toNat_lt.2 hlt)
  unfold SlotTable.report firstIndices
  rw [hdynamic, h.configured, List.map_nil, List.append_nil, List.map_map]
  exact List.map_congr_left fun n _ => h.staticStatus_eq resourceId (.ofNat n)

/-- There is one active slot at each of the first indices, and no other. -/
theorem indices_perm (h : Claimed config ids k t) (hk : k ≤ UInt64.size) {as : List AllocationId}
    (hnodup : as.Nodup) (hall : ∀ {a s}, t.slots.get? a = some s → a ∈ as) :
    ((t.slotsInState as .active).map (·.index)).Perm (firstIndices k) := by
  have hlive : ∀ s ∈ t.slotsInState as .active, t.slots.get? s.allocation = some s := by
    intro s hs
    obtain ⟨⟨a, -, ha⟩, -⟩ := mem_slotsInState_iff.1 hs
    rw [h.sound.keyed ha]
    exact ha
  have hindices : ((t.slotsInState as .active).map (·.index)).Nodup := by
    refine List.Nodup.map_on (fun s hs s' hs' heq => ?_) (h.sound.nodup_slotsInState hnodup _)
    have hsame : t.slotAt? s.index = some s' := h.sound.slotAt?_iff.2 ⟨hlive s' hs', heq.symm⟩
    rw [h.sound.slotAt?_iff.2 ⟨hlive s hs, rfl⟩] at hsame
    exact Option.some.inj hsame
  rw [List.perm_ext_iff_of_nodup hindices (nodup_firstIndices hk)]
  intro i
  rw [mem_firstIndices_iff hk, List.mem_map]
  constructor
  · rintro ⟨s, hs, rfl⟩
    exact (h.live (hlive s hs)).1
  · intro hi
    obtain ⟨s, hs, rfl⟩ := h.taken i hi
    exact ⟨s, mem_slotsInState_iff.2 ⟨⟨_, hall hs, hs⟩, (h.live hs).2.state⟩, rfl⟩

theorem isClaimed_of_mem (h : Claimed config ids k t) {as : List AllocationId} {s : TaskSlot}
    (hs : s ∈ t.slotsInState as .active) : s.IsClaimed config ids := by
  obtain ⟨⟨a, -, ha⟩, -⟩ := mem_slotsInState_iff.1 hs
  exact (h.live ha).2

/-- Every claimed slot is active. -/
theorem activeAllocations_perm (h : Claimed config ids k t) (hk : k ≤ UInt64.size) :
    t.activeAllocations.Perm ((firstIndices k).map ids.allocation) := by
  have hperm := h.indices_perm hk h.sound.nodup_listed fun hs => h.sound.mem_listed_iff.2 ⟨_, hs⟩
  have heq : t.activeAllocations =
      ((t.slotsInState t.listed .active).map (·.index)).map ids.allocation := by
    rw [List.map_map]
    exact List.map_congr_left fun s hs => (h.isClaimed_of_mem hs).allocation
  rw [heq]
  exact hperm.map _

/-- Every claimed slot has one task. -/
theorem tasks_perm (h : Claimed config ids k t) (hk : k ≤ UInt64.size) :
    (t.tasks ids.job).Perm ((firstIndices k).map ids.task) := by
  have hperm := h.indices_perm hk (t.nodup_jobAllocations ids.job) fun hs =>
    h.sound.jobs.2 ⟨_, hs, (h.live hs).2.job⟩
  have heq : t.tasks ids.job =
      ((t.slotsInState (t.jobAllocations ids.job) .active).map (·.index)).map ids.task := by
    rw [List.map_map, List.map_eq_flatMap]
    refine List.flatMap_congr fun s hs => ?_
    rw [(h.isClaimed_of_mem hs).tasks]
    rfl
  rw [heq]
  exact hperm.map _

/-- The only job is reported if it has a slot. -/
theorem jobs_eq (h : Claimed config ids k t) (hk : k ≤ config.numberSlots.toNat) (resourceId : ResourceId) :
    ((t.report resourceId).filterMap (·.jobId)).eraseDups = if k = 0 then [] else [ids.job] := by
  have hstatus : ∀ i, (ids.status config k resourceId i).jobId =
      if i.toNat < k then some ids.job else none := by
    intro i
    unfold AgentIds.status
    split <;> rfl
  rw [h.report_eq hk, List.filterMap_map]
  by_cases hzero : k = 0
  · subst hzero
    have hnone : (firstIndices config.numberSlots.toNat).filterMap
        ((·.jobId) ∘ ids.status config 0 resourceId) = [] := by
      rw [List.filterMap_eq_nil_iff]
      exact fun i _ => hstatus i
    rw [hnone]
    rfl
  · rw [if_neg hzero]
    have hpos := Nat.pos_of_ne_zero hzero
    have hfirst : (0 : SlotIndex) ∈ firstIndices config.numberSlots.toNat :=
      (mem_firstIndices_iff config.numberSlots.toNat_lt_size.le).2 (Nat.lt_of_lt_of_le hpos hk)
    refine eraseDups_of_forall_eq ?_ fun j hj => ?_
    · exact List.ne_nil_of_mem (List.mem_filterMap.2 ⟨0, hfirst, (hstatus 0).trans (if_pos hpos)⟩)
    · obtain ⟨i, -, hi⟩ := List.mem_filterMap.1 hj
      have hsome := (hstatus i).symm.trans hi
      split at hsome
      · exact (Option.some.inj hsome).symm
      · cases hsome

/-- The tasks that are seen are those of the claimed slots. -/
theorem seen_tasks_perm (h : Claimed config ids k t) (hk : k ≤ config.numberSlots.toNat)
    (resourceId : ResourceId) :
    (((t.report resourceId).filterMap (·.jobId)).eraseDups.flatMap t.tasks).Perm
      ((firstIndices k).map ids.task) := by
  rw [h.jobs_eq hk]
  split
  · rename_i hzero
    subst hzero
    exact .refl _
  · rw [List.flatMap_singleton]
    exact h.tasks_perm (hk.trans config.numberSlots.toNat_lt_size.le)

end SlotTable.Claimed

/-! ## The life of an agent -/

namespace Agent

/-- What the life of an agent comes to that claims the static slots below `k`, and no others. -/
structure Lives (config : TableConfig) (ids : AgentIds) (resourceId : ResourceId) (k : Nat)
    (outcome : AgentOutcome) : Prop where
  greatest : IsGreatest {k | k ≤ config.numberSlots.toNat ∧ config.HasRoom k} k
  claimed : outcome.claimed = some (.ok ⟨⟩) ↔ k = config.numberSlots.toNat
  exhausted : k ≠ config.numberSlots.toNat → outcome.claimed = some (.error (.table
    (.resourceExhausted config.defaultSlotProfile outcome.seen.budget.available config.totalResources)))
  reported : outcome.reported = true
  report : outcome.seen.report =
    (firstIndices config.numberSlots.toNat).map (ids.status config k resourceId)
  active : outcome.seen.active.Perm ((firstIndices k).map ids.allocation)
  tasks : outcome.seen.tasks.Perm ((firstIndices k).map ids.task)
  total : outcome.seen.budget.total = config.totalResources
  reserved : ∀ d, outcome.seen.budget.reserved.units d = k * config.defaultSlotProfile.units d
  closed : outcome.table.state = .closed
  emptied : outcome.table.Emptied

/-- The agent of a table when it has claimed static slots, lived for some time and made its last report. -/
def lived (config : AgentConfig) (ids : AgentIds) (resourceId : ResourceId) (ms : UInt64) (table : SlotTable) :
    Agent :=
  ((Timed.advance ms (claimStaticSlots (new table) config ids).2).report resourceId).2

variable {a : Agent} {config : AgentConfig} {ids : AgentIds} {k : Nat}

/-- A report can be made of an agent at rest, and changes nothing. -/
theorem Resting.report (h : a.Resting) (resourceId : ResourceId) :
    ∃ a', a.report resourceId = (true, a') ∧ a'.Resting ∧ a'.table = a.table := by
  have hrun : (reportCommand resourceId).run a.supervisor.run.now a.table =
      ⟨.ok (.reported (a.table.report resourceId) a.table.budget.available), a.table, [], []⟩ := rfl
  obtain ⟨a', hcall, hrest, htable⟩ := h.call hrun h.supervisor.running h.supervisor.still
  refine ⟨a', ?_, hrest, htable⟩
  unfold Agent.report
  rw [hcall]

theorem Resting.report_straggle (h : a.Resting) (late : List (AllocationId × Ticket)) (resourceId : ResourceId) :
    (a.straggle late).report resourceId = (a.heard late).report resourceId := by
  unfold Agent.report
  rw [h.call_straggle]

/-- An agent that has claimed as many slots as it could, and has kept its table until it shut down, has lived such a
life. -/
theorem ClaimedAll.lives {config : TableConfig} {result : Except ClaimError Unit} {a a' a'' : Agent}
    (hall : ClaimedAll config ids k result a) (hkept : a'.table = a.table) (hover : a''.supervisor.Over)
    (resourceId : ResourceId) :
    Lives config ids resourceId k ⟨some result, true, a'.view resourceId, a''.table⟩ := by
  have hclaimed : Claimed config ids k a'.table := hkept ▸ hall.claimed
  obtain ⟨hk, -⟩ := hall.greatest.1
  have hsize : k ≤ UInt64.size := hk.trans config.numberSlots.toNat_lt_size.le
  have hexhausted : k ≠ config.numberSlots.toNat → result = .error (.table (.resourceExhausted
      config.defaultSlotProfile a'.table.budget.available config.totalResources)) := by
    intro hne
    rw [hkept]
    exact hall.exhausted (Nat.lt_of_le_of_ne hk hne)
  have hclaims_iff : result = .ok ⟨⟩ ↔ k = config.numberSlots.toNat := by
    refine ⟨fun hok => ?_, hall.done⟩
    by_contra hne
    cases hok.symm.trans (hexhausted hne)
  exact
    { greatest := hall.greatest
      claimed := Option.some_inj.trans hclaims_iff
      exhausted := fun hne => congrArg some (hexhausted hne)
      reported := rfl
      report := hclaimed.report_eq hk resourceId
      active := hclaimed.activeAllocations_perm hsize
      tasks := hclaimed.seen_tasks_perm hk resourceId
      total := hclaimed.sound.capacity.trans (congrArg _ hclaimed.configured)
      reserved := hclaimed.reserved
      closed := hover.closed
      emptied := hover.emptied }

/-- The timeouts that come late in the life of an agent. -/
structure Stragglers where
  /-- Before it claims a slot. -/
  claiming : SlotIndex → List (AllocationId × Ticket)
  /-- Before time passes. -/
  waiting : List (AllocationId × Ticket)
  reporting : List (AllocationId × Ticket)
  closing : List (AllocationId × Ticket)

/-- No timeout comes late. -/
def Stragglers.none : Stragglers := ⟨fun _ => [], [], [], []⟩

/-- The agent that has lived while timeouts came late, and is to shut down while more of them come. -/
def livedAmid (late : Stragglers) (config : AgentConfig) (ids : AgentIds) (resourceId : ResourceId) (ms : UInt64)
    (table : SlotTable) : Agent :=
  let (_, a) := (new table).claimAmid ids config.slotTimeoutMs late.claiming (staticIndices config.table)
  let (_, a) := ((Timed.advance ms (a.straggle late.waiting)).straggle late.reporting).report resourceId
  a.straggle late.closing

/-- What the life of an agent that claims its static slots comes to while timeouts come late. -/
def liveAmid (late : Stragglers) (config : AgentConfig) (ids : AgentIds) (resourceId : ResourceId) (ms : UInt64)
    (table : SlotTable) : AgentOutcome :=
  let (claimed, a) := (new table).claimAmid ids config.slotTimeoutMs late.claiming (staticIndices config.table)
  let (reported, a) := ((Timed.advance ms (a.straggle late.waiting)).straggle late.reporting).report resourceId
  { claimed := some claimed, reported, seen := a.view resourceId, table := (a.straggle late.closing).shutdown.table }

theorem lived_eq_livedAmid (config : AgentConfig) (ids : AgentIds) (resourceId : ResourceId) (ms : UInt64)
    (table : SlotTable) : lived config ids resourceId ms table = livedAmid .none config ids resourceId ms table := by
  unfold lived claimStaticSlots
  rw [claim_eq_claimAmid]
  rfl

theorem live_eq_liveAmid {table : SlotTable} (hnew : SlotTable.new config.table (.new 0) = .ok table)
    (hclaims : config.claimsStaticSlots = true) (resourceId : ResourceId) (ms : UInt64) :
    live config ids resourceId ms = .ok (liveAmid .none config ids resourceId ms table) := by
  unfold live claimStaticSlots
  rw [hnew]
  dsimp only
  rw [if_pos hclaims, claim_eq_claimAmid]
  rfl

/-- The agent claims the slots for which there is room, keeps them whatever time passes and whatever timeouts come
late, and gives them back when it shuts down, which comes to an end. -/
theorem lives_amid {table : SlotTable} (hnew : SlotTable.new config.table (.new 0) = .ok table)
    (hids : ids.Distinct config.table.numberSlots) (late : Stragglers) (resourceId : ResourceId) (ms : UInt64) :
    ∃ k, Lives config.table ids resourceId k (liveAmid late config ids resourceId ms table) ∧
      (liveAmid late config ids resourceId ms table).table =
        (livedAmid late config ids resourceId ms table).shutdown.table ∧
      (livedAmid late config ids resourceId ms table).shutdown.supervisor.isStopped = true := by
  obtain ⟨k, result, a, hclaim, hall⟩ := claimAll_of_new hnew hids late.claiming
  obtain ⟨hwaiting, hwaited⟩ := hall.resting.heard late.waiting
  obtain ⟨hlater, htable⟩ := hwaiting.advance ms
  obtain ⟨hreporting, hheard⟩ := hlater.heard late.reporting
  obtain ⟨a', hreport, hrest, hsame⟩ := hreporting.report resourceId
  have hkept : a'.table = a.table := hsame.trans (hheard.trans (htable.trans hwaited))
  have hclaimed : Claimed config.table ids k a'.table := hkept ▸ hall.claimed
  obtain ⟨hclosing, hleft⟩ := hrest.heard late.closing
  have hover := hclosing.shutdown (hleft ▸ hclaimed)
  rw [← hrest.shutdown_straggle hclaimed] at hover
  have hreported : ((Timed.advance ms (a.straggle late.waiting)).straggle late.reporting).report resourceId =
      (true, a') := by
    rw [hall.resting.advance_straggle, hlater.report_straggle, hreport]
  have hlived : livedAmid late config ids resourceId ms table = a'.straggle late.closing := by
    unfold livedAmid
    rw [hclaim]
    dsimp only
    rw [hreported]
  have hlive : liveAmid late config ids resourceId ms table =
      ⟨some result, true, a'.view resourceId, (a'.straggle late.closing).shutdown.table⟩ := by
    unfold liveAmid
    rw [hclaim]
    dsimp only
    rw [hreported]
  rw [hlive, hlived]
  exact ⟨k, hall.lives hkept hover resourceId, rfl, decide_eq_true hover.stopped⟩

/-- So it does if none come late. -/
theorem lives_of_new {table : SlotTable} (hnew : SlotTable.new config.table (.new 0) = .ok table)
    (hclaims : config.claimsStaticSlots = true) (hids : ids.Distinct config.table.numberSlots)
    (resourceId : ResourceId) (ms : UInt64) :
    ∃ k outcome, live config ids resourceId ms = .ok outcome ∧
      Lives config.table ids resourceId k outcome ∧
      outcome.table = (lived config ids resourceId ms table).shutdown.table ∧
      (lived config ids resourceId ms table).shutdown.supervisor.isStopped = true := by
  obtain ⟨k, hlives, htable, hstopped⟩ := lives_amid hnew hids .none resourceId ms
  rw [← lived_eq_livedAmid] at htable hstopped
  exact ⟨k, _, live_eq_liveAmid hnew hclaims resourceId ms, hlives, htable, hstopped⟩

/-- Whatever configuration an agent reads and whatever time passes, it lives such a life, unless its table
would be too large; and timeouts that come late change nothing of it. -/
theorem lives_of_ofText {text : String} (hconfig : AgentConfig.ofText text = .ok config)
    (hclaims : config.claimsStaticSlots = true) (hids : ids.Distinct config.table.numberSlots)
    (resourceId : ResourceId) (ms : UInt64) :
    (maxSlots < config.table.numberSlots.toNat →
      live config ids resourceId ms = .error (.broken .tooManySlots)) ∧
    (config.table.numberSlots.toNat ≤ maxSlots →
      ∃ table k outcome, SlotTable.new config.table (.new 0) = .ok table ∧
        live config ids resourceId ms = .ok outcome ∧ Lives config.table ids resourceId k outcome ∧
        outcome.table = (lived config ids resourceId ms table).shutdown.table ∧
        (lived config ids resourceId ms table).shutdown.supervisor.isStopped = true ∧
        ∀ late, Lives config.table ids resourceId k (liveAmid late config ids resourceId ms table) ∧
          (livedAmid late config ids resourceId ms table).shutdown.supervisor.isStopped = true) := by
  have hvalid : config.table.problem? = none := by
    unfold AgentConfig.ofText at hconfig
    split at hconfig
    · cases hconfig
    · split at hconfig
      · cases hconfig
      · rename_i hvalid
        obtain rfl := Except.ok.inj hconfig
        exact hvalid
  constructor
  · intro hmany
    unfold live SlotTable.new
    rw [hvalid]
    dsimp only
    rw [if_pos hmany]
  · intro hroom
    obtain ⟨table, hnew⟩ := exists_new hvalid hroom (.new 0)
    obtain ⟨k, outcome, hlive, hlives, htable, hstopped⟩ := lives_of_new hnew hclaims hids resourceId ms
    refine ⟨table, k, outcome, hnew, hlive, hlives, htable, hstopped, fun late => ?_⟩
    obtain ⟨k', hlives', -, hstopped'⟩ := lives_amid hnew hids late resourceId ms
    obtain rfl := hlives'.greatest.unique hlives.greatest
    exact ⟨hlives', hstopped'⟩

/-- There is room for two of three slots, and each has to be claimed at once. -/
theorem lives_of_ofText_crowded : ∃ config outcome,
    AgentConfig.ofText ("\x7b\"slotTimeoutMs\":0,\"table\":\x7b\"numberSlots\":3," ++
      "\"defaultSlotProfile\":\x7b\"cpuMillis\":400\x7d\x7d\x7d") = .ok config ∧
    live config (.numbered ⟨9⟩) ⟨"worker"⟩ 20000 = .ok outcome ∧
    Lives config.table (.numbered ⟨9⟩) ⟨"worker"⟩ 2 outcome := by
  have hconfig : AgentConfig.ofText
      ("\x7b\"slotTimeoutMs\":0,\"table\":\x7b\"numberSlots\":3," ++
        "\"defaultSlotProfile\":\x7b\"cpuMillis\":400\x7d\x7d\x7d") = .ok { AgentConfig.standard with
      slotTimeoutMs := 0
      table := { TableConfig.standard with
        numberSlots := 3
        defaultSlotProfile := { ResourceProfile.zero with cpuMillis := 400 } } } := by
    decide +kernel
  obtain ⟨-, hlives⟩ := lives_of_ofText hconfig rfl (AgentIds.distinct_numbered ⟨9⟩ _) ⟨"worker"⟩ 20000
  obtain ⟨table, k, outcome, -, hlive, houtcome, -⟩ := hlives (by decide)
  -- two slots of 400 fit within 1000, and three do not
  obtain rfl : k = 2 := houtcome.greatest.unique (isGreatest_of_end (by decide)
    (ResourceProfile.forall_dimension.2
      ⟨by decide, by decide, by decide, by decide, by decide, fun _ => Nat.zero_le _⟩)
    fun _ hroom => absurd (hroom .cpuMillis) (by decide))
  exact ⟨_, outcome, hconfig, hlive, houtcome⟩

end Agent

end WorkerSlots
