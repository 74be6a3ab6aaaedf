import Mathlib.Order.Bounds.Basic
import WorkerSlots.Proofs.Agreement
import WorkerSlots.Proofs.Bindings
import WorkerSlots.Proofs.LateTimeouts

/-!
# Static slots that an agent claims

An agent claims the static slots in the order of their indices, each with one command of three operations,
up to the first for which there is no room.

* `TableConfig.HasRoom` : how many slots with the default profile there is room for;
* `Claimed` : the table when the slots below some index are claimed;
* `Claimed.claim`, `Claimed.refuse` : what the next command comes to. The timeout of a slot is registered
  and taken back by the same command, so that it never expires;
* `Agent.claimAmid` : the same while timeouts come late, and `Agent.claim_from` : the agent claims as many slots
  as there is room for.
-/

namespace WorkerSlots

open SlotTable

/-! ## What is to be claimed -/

/-- So many slots with the default profile fit within the total resources, in every dimension. -/
def TableConfig.HasRoom (c : TableConfig) (k : Nat) : Prop :=
  ∀ d, k * c.defaultSlotProfile.units d ≤ c.totalResources.units d

theorem TableConfig.HasRoom.mono {c : TableConfig} {j k : Nat} (h : c.HasRoom k) (hle : j ≤ k) :
    c.HasRoom j := fun d => Nat.le_trans (Nat.mul_le_mul_right _ hle) (h d)

/-- The first indices. -/
def firstIndices (k : Nat) : List SlotIndex := (List.range k).map .ofNat

theorem mem_firstIndices_iff {k : Nat} (hk : k ≤ UInt64.size) {i : SlotIndex} :
    i ∈ firstIndices k ↔ i.toNat < k := by
  unfold firstIndices
  rw [List.mem_map]
  constructor
  · rintro ⟨n, hn, rfl⟩
    have hlt := List.mem_range.1 hn
    rw [UInt64.toNat_ofNat_of_lt' (Nat.lt_of_lt_of_le hlt hk)]
    exact hlt
  · intro hi
    exact ⟨i.toNat, List.mem_range.2 hi, UInt64.ofNat_toNat⟩

theorem nodup_firstIndices {k : Nat} (hk : k ≤ UInt64.size) : (firstIndices k).Nodup := by
  refine List.Nodup.map_on (fun n hn m hm heq => ?_) List.nodup_range
  have hn := List.mem_range.1 hn
  have hm := List.mem_range.1 hm
  have hnat := congrArg UInt64.toNat heq
  rwa [UInt64.toNat_ofNat_of_lt' (Nat.lt_of_lt_of_le hn hk),
    UInt64.toNat_ofNat_of_lt' (Nat.lt_of_lt_of_le hm hk)] at hnat

namespace AgentIds

/-- The task that an agent binds to the slot at an index. -/
def task (ids : AgentIds) (i : SlotIndex) : Task := ⟨ids.execution i, ids.job, ids.allocation i⟩

/-- The identities that are made up for the static slots are all different. -/
structure Distinct (ids : AgentIds) (numberSlots : SlotIndex) : Prop where
  allocation : Set.InjOn ids.allocation {i | i < numberSlots}
  execution : Set.InjOn ids.execution {i | i < numberSlots}

/-- No smaller index has the same identity. -/
theorem ne_of_toNat_lt {kind : IdKind} {f : SlotIndex → Id kind} {numberSlots i j : SlotIndex}
    (hinj : Set.InjOn f {i | i < numberSlots}) (hi : i < numberSlots) (hlt : j.toNat < i.toNat) : f j ≠ f i := by
  have hj : j < numberSlots := UInt64.lt_trans (UInt64.lt_iff_toNat_lt.2 hlt) hi
  intro hsame
  rw [hinj hj hi hsame] at hlt
  exact Nat.lt_irrefl _ hlt

/-- Identities that carry the index of their slot. -/
def numbered (job : JobId) : AgentIds where
  job
  allocation i := ⟨.ofNat 128 i.toNat⟩
  execution i := ⟨.ofNat 128 i.toNat⟩

theorem distinct_numbered (job : JobId) (numberSlots : SlotIndex) :
    (numbered job).Distinct numberSlots := by
  have hinj : Function.Injective fun i : SlotIndex => BitVec.ofNat 128 i.toNat := by
    intro i j heq
    have hnat := congrArg BitVec.toNat heq
    simp only [BitVec.toNat_ofNat] at hnat
    have hsize : UInt64.size < 2 ^ 128 := by decide
    rw [Nat.mod_eq_of_lt (Nat.lt_trans i.toNat_lt_size hsize),
      Nat.mod_eq_of_lt (Nat.lt_trans j.toNat_lt_size hsize)] at hnat
    exact UInt64.toNat_inj.1 hnat
  refine ⟨fun i _ j _ heq => hinj ?_, fun i _ j _ heq => hinj ?_⟩
  · exact congrArg Id.value heq
  · exact congrArg Id.value heq

end AgentIds

/-- A slot as an agent claims it: active, with one task, and nobody has used its memory. -/
structure TaskSlot.IsClaimed (config : TableConfig) (ids : AgentIds) (s : TaskSlot) : Prop where
  allocation : s.allocation = ids.allocation s.index
  job : s.job = ids.job
  profile : s.profile = config.defaultSlotProfile
  state : s.state = .active
  tasks : s.tasks = SortedMap.empty.insert (ids.execution s.index) (ids.task s.index)
  teardown : s.teardown = .idle
  memory : s.memory.isUnused = true

theorem TaskSlot.fresh_of_new? {grant : Nat} {index : SlotIndex} {profile : ResourceProfile}
    {pageSize graceMs : UInt64} {job : JobId} {allocation : AllocationId} {s : TaskSlot}
    (h : new? grant index profile pageSize job allocation graceMs = some s) :
    s.teardown = .idle ∧ s.memory.isUnused = true := by
  obtain ⟨memory, hmemory, rfl⟩ := Option.map_eq_some_iff.1 h
  unfold ManagedMemory.new? at hmemory
  split at hmemory
  · cases hmemory
  · obtain rfl := Option.some.inj hmemory
    exact ⟨rfl, rfl⟩

/-- A service that runs registers every timeout. -/
theorem Timers.exists_register {K : Type} [Ord K] [Std.TransOrd K] [Std.LawfulEqOrd K] {t : Timers K}
    (hstarted : t.started = true) (hcancelled : t.cancelled = false) (now : Nat) (key : K)
    (delay : UInt64) : ∃ ticket t', t.register now key delay = .ok (ticket, t') := by
  unfold register
  rw [hstarted, hcancelled]
  exact ⟨_, _, rfl⟩

namespace SlotTable

/-- The slots below `k` are claimed, and no others are live. -/
structure Claimed (config : TableConfig) (ids : AgentIds) (k : Nat) (t : SlotTable) : Prop where
  sound : t.Sound
  configured : t.config = config
  running : t.state = .running
  registrations : t.timers.registrations = .empty
  retired : t.retired = .empty
  started : t.timers.started = true
  uncancelled : t.timers.cancelled = false
  live : ∀ {a s}, t.slots.get? a = some s → s.index.toNat < k ∧ s.IsClaimed config ids
  taken : ∀ i : SlotIndex, i.toNat < k → ∃ s, t.slots.get? (ids.allocation i) = some s ∧ s.index = i
  listed : ∀ i : SlotIndex, i.toNat < k → t.taskOwners.get? (ids.execution i) = some (ids.allocation i)
  reserved : ∀ d, t.budget.reserved.units d = k * config.defaultSlotProfile.units d

/-- The table when a slot has been granted, claimed and given its task. -/
structure Claims (t : SlotTable) (s : TaskSlot) (task : Task) (budget : ResourceBudget) (t' : SlotTable) :
    Prop where
  slots : t'.slots = t.slots.insert s.allocation s
  owners : t'.taskOwners = t.taskOwners.insert task.execution s.allocation
  budget : t'.budget = budget
  state : t'.state = t.state
  retired : t'.retired = t.retired
  started : t'.timers.started = t.timers.started
  cancelled : t'.timers.cancelled = t.timers.cancelled
  registrations : t'.timers.registrations = t.timers.registrations.erase s.allocation

variable {t : SlotTable} {config : TableConfig} {ids : AgentIds} {now : Nat} {ms : UInt64}
  {i : SlotIndex} {k : Nat}

/-- The table once a live slot is active. -/
def activated (t : SlotTable) (s : TaskSlot) : SlotTable :=
  { t with
    slots := t.slots.insert s.allocation { s with state := .active }
    timers := t.timers.unregister s.allocation }

/-- The table once a task is bound to a live slot. -/
def withTask (t : SlotTable) (s : TaskSlot) (task : Task) : SlotTable :=
  { t with
    slots := t.slots.insert task.allocation { s with tasks := s.tasks.insert task.execution task }
    taskOwners := t.taskOwners.insert task.execution task.allocation }

/-- A slot that is granted and not claimed yet can be claimed. -/
theorem markActive_of_allocated {s : TaskSlot} (hstate : t.state = .running)
    (hlive : t.slots.get? s.allocation = some s) (hallocated : s.state = .allocated) :
    t.markActive s.allocation = .answer (t.activated s) true := by
  unfold markActive whenRunning activate TaskSlot.activate?
  rw [if_pos hstate, hlive]
  dsimp only
  rw [if_pos hallocated]
  rfl

/-- A slot that has been granted is claimed, and gets its task. -/
theorem run_of_granted {s : TaskSlot} (hstate : t.state = .running)
    (hlive : t.slots.get? s.allocation = some s) (hallocated : s.state = .allocated)
    (hempty : s.tasks = .empty) (hjob : s.job = ids.job) (hallocation : s.allocation = ids.allocation i) :
    Command.run now (do
      let _ ← Command.operate (.markActive (ids.allocation i))
      let isNew ← Command.operate (.addTask (ids.task i))
      return AgentAnswer.claimed isNew) t =
    .answer ((t.activated s).withTask { s with state := .active } (ids.task i)) (.claimed true) := by
  have hactivate : TableOperation.run now t (.markActive (ids.allocation i)) =
      .answer (t.activated s) true := by
    rw [← hallocation]
    exact markActive_of_allocated hstate hlive hallocated
  have hactive : (t.activated s).slots.get? (ids.task i).allocation = some { s with state := .active } := by
    show _ = some _
    rw [show (ids.task i).allocation = s.allocation from hallocation.symm]
    exact SortedMap.get?_insert_self _ _ _
  have hbind : TableOperation.run now (t.activated s) (.addTask (ids.task i)) =
      .answer ((t.activated s).withTask { s with state := .active } (ids.task i)) true := by
    refine addTask_of_bindable hstate hactive (TaskSlot.isActive_iff.2 ⟨rfl, hjob, hallocation⟩) ?_
    show s.tasks.get? _ = none
    rw [hempty]
    rfl
  exact (Command.run_operate_bind_of_answer hactivate).trans (Command.run_operate_bind_of_answer hbind)

namespace Claimed

theorem still (h : Claimed config ids k t) : t.Still := by
  refine ⟨h.registrations, fun hs => ?_⟩
  rw [h.retired] at hs
  cases hs

theorem key (h : Claimed config ids k t) {a : AllocationId} {s : TaskSlot} (hs : t.slots.get? a = some s) :
    ids.allocation s.index = a := (h.live hs).2.allocation.symm.trans (h.sound.keyed hs)

/-! ## One command -/

theorem not_live (h : Claimed config ids i.toNat t) (hids : ids.Distinct config.numberSlots)
    (hi : i < config.numberSlots) : t.slots.get? (ids.allocation i) = none := by
  cases hs : t.slots.get? (ids.allocation i) with
  | none => rfl
  | some s =>
    exact absurd (h.key hs) (AgentIds.ne_of_toNat_lt hids.allocation hi (h.live hs).1)

/-- The next static index is free. -/
theorem nextDynamicAfter (h : Claimed config ids i.toNat t) (hi : i < config.numberSlots) :
    t.nextDynamicAfter i = .ok t.nextDynamic := by
  have hfree : t.indices.get? i = none := by
    cases ha : t.indices.get? i with
    | none => rfl
    | some a =>
      obtain ⟨s, hs, rfl⟩ := h.sound.indexed.1 ha
      exact absurd (h.live hs).1 (Nat.lt_irrefl _)
  have hstatic : t.isDynamicIndex i = false := by
    unfold isDynamicIndex
    rw [h.configured]
    exact decide_eq_false (UInt64.not_le.2 hi)
  unfold SlotTable.nextDynamicAfter
  rw [hfree]
  dsimp only
  rw [hstatic]
  rfl

/-- What is requested for the slot at an index. -/
def request (ids : AgentIds) (ms : UInt64) (i : SlotIndex) : SlotRequest :=
  ⟨.fixed i, ids.job, ids.allocation i, none, ms⟩

theorem allocate_eq (h : Claimed config ids i.toNat t) (hids : ids.Distinct config.numberSlots)
    (hi : i < config.numberSlots) :
    t.allocate now (request ids ms i) = t.grant now (request ids ms i) i t.nextDynamic :=
  h.sound.allocate_of_next now h.running (h.not_live hids hi) (h.nextDynamicAfter hi)

theorem requestedProfile (h : Claimed config ids k t) (ms : UInt64) (i : SlotIndex) :
    t.requestedProfile (request ids ms i) = config.defaultSlotProfile :=
  congrArg TableConfig.defaultSlotProfile h.configured

/-- There is room for one more slot iff what it holds can be reserved. -/
theorem hasRoom_iff (h : Claimed config ids k t) :
    config.HasRoom (k + 1) ↔ ∃ budget, t.budget.reserve? config.defaultSlotProfile = some budget := by
  rw [ResourceBudget.exists_reserve?_iff]
  refine forall_congr' fun d => ?_
  rw [h.reserved d, h.sound.capacity, h.configured, Nat.succ_mul]

/-- A slot for which there is no room is refused, and the table is left as it is. -/
theorem refuse (h : Claimed config ids i.toNat t) (hids : ids.Distinct config.numberSlots)
    (hi : i < config.numberSlots) (hfull : ¬ config.HasRoom (i.toNat + 1)) (now : Nat) (ms : UInt64) :
    (Agent.claimCommand ids ms i).run now t =
      .refuse t (.resourceExhausted config.defaultSlotProfile t.budget.available config.totalResources) := by
  have hbudget : t.budget.reserve? config.defaultSlotProfile = none := by
    rw [h.hasRoom_iff, not_exists] at hfull
    exact Option.eq_none_iff_forall_ne_some.2 hfull
  rw [← h.requestedProfile ms i] at hbudget
  have hallocate : TableOperation.run now t (.allocate (request ids ms i)) =
      .refuse t (.resourceExhausted config.defaultSlotProfile t.budget.available config.totalResources) := by
    refine (h.allocate_eq hids hi).trans ?_
    rw [grant_of_exhausted now hbudget, h.requestedProfile, h.sound.capacity, h.configured]
  exact Command.run_operate_bind_of_refuse hallocate

/-- The slot is granted, made active, and given its task. -/
theorem exists_claims (h : Claimed config ids i.toNat t) (hids : ids.Distinct config.numberSlots)
    (hi : i < config.numberSlots) {budget : ResourceBudget}
    (hbudget : t.budget.reserve? config.defaultSlotProfile = some budget) (now : Nat) (ms : UInt64) :
    ∃ s t', (Agent.claimCommand ids ms i).run now t = .answer t' (.claimed true) ∧
      s.index = i ∧ s.IsClaimed config ids ∧ Claims t s (ids.task i) budget t' := by
  rw [← h.requestedProfile ms i] at hbudget
  obtain ⟨ticket, timers, htimers⟩ :=
    Timers.exists_register h.started h.uncancelled now (ids.allocation i) ms
  obtain ⟨s, hslot, hgrant⟩ : ∃ s, _ ∧ t.grant now (request ids ms i) i t.nextDynamic = _ :=
    h.sound.exists_grant now hbudget htimers
  obtain ⟨-, hindex, hprofile, hjob, hallocation, hallocated, htasks⟩ := TaskSlot.new?_eq_some hslot
  obtain ⟨hidle, hunused⟩ := TaskSlot.fresh_of_new? hslot
  obtain rfl := Timers.register_eq_ok htimers
  have hallocation : s.allocation = ids.allocation i := hallocation
  have hprofile : s.profile = config.defaultSlotProfile := hprofile.trans (h.requestedProfile ms i)
  have hallocate : TableOperation.run now t (.allocate (request ids ms i)) = _ :=
    (h.allocate_eq hids hi).trans hgrant
  refine ⟨{ s with state := .active, tasks := s.tasks.insert (ids.execution i) (ids.task i) }, _,
    (Command.run_operate_bind_of_answer hallocate).trans
      (run_of_granted h.running ?_ hallocated htasks hjob hallocation), hindex, ?_, ?_⟩
  · exact SortedMap.get?_insert_self _ _ _
  · refine ⟨?_, hjob, hprofile, rfl, ?_, hidle, hunused⟩
    · show s.allocation = ids.allocation s.index
      rw [hallocation, hindex]
    · show s.tasks.insert _ _ = SortedMap.empty.insert (ids.execution s.index) (ids.task s.index)
      rw [htasks, hindex]
  · refine ⟨?_, ?_, rfl, rfl, rfl, rfl, rfl, ?_⟩
    · show ((t.slots.insert s.allocation s).insert s.allocation _).insert (ids.allocation i) _ = _
      rw [← hallocation, SortedMap.insert_insert_self, SortedMap.insert_insert_self]
      rfl
    · show t.taskOwners.insert _ (ids.allocation i) = t.taskOwners.insert _ s.allocation
      rw [hallocation]
    · show (t.timers.registrations.insert (ids.allocation i) _).erase s.allocation = _
      rw [hallocation]
      exact SortedMap.erase_insert_self _ _ _

/-- So a slot for which there is room is claimed. -/
theorem claim (h : Claimed config ids i.toNat t) (hids : ids.Distinct config.numberSlots)
    (hi : i < config.numberSlots) (hroom : config.HasRoom (i.toNat + 1)) (now : Nat) (ms : UInt64) :
    ∃ t', (Agent.claimCommand ids ms i).run now t = .answer t' (.claimed true) ∧
      Claimed config ids (i.toNat + 1) t' := by
  obtain ⟨budget, hbudget⟩ := h.hasRoom_iff.1 hroom
  obtain ⟨s, t', hrun, hindex, hclaimed, hclaims⟩ := h.exists_claims hids hi hbudget now ms
  have hsound := h.sound.command (Agent.claimCommand ids ms i) now
  rw [hrun] at hsound
  have hallocation : s.allocation = ids.allocation i := hindex ▸ hclaimed.allocation
  refine ⟨t', hrun, hsound.1, hsound.2.trans h.configured, hclaims.state.trans h.running, ?_,
    hclaims.retired.trans h.retired, hclaims.started.trans h.started,
    hclaims.cancelled.trans h.uncancelled, fun {a x} hx => ?_,
    fun j hj => ?_, fun j hj => ?_, fun d => ?_⟩
  · rw [hclaims.registrations, h.registrations]
    rfl
  · rw [hclaims.slots, SortedMap.get?_insert] at hx
    split at hx
    · obtain rfl := Option.some.inj hx
      rw [hindex]
      exact ⟨Nat.lt_succ_self _, hclaimed⟩
    · obtain ⟨hlt, hx⟩ := h.live hx
      exact ⟨Nat.lt_succ_of_lt hlt, hx⟩
  · rw [hclaims.slots, SortedMap.get?_insert]
    obtain hlt | heq := Nat.lt_succ_iff_lt_or_eq.1 hj
    · rw [hallocation, if_neg (AgentIds.ne_of_toNat_lt hids.allocation hi hlt)]
      exact h.taken j hlt
    · obtain rfl := UInt64.toNat_inj.1 heq
      exact ⟨s, if_pos hallocation.symm, hindex⟩
  · rw [hclaims.owners, SortedMap.get?_insert]
    obtain hlt | heq := Nat.lt_succ_iff_lt_or_eq.1 hj
    · have hne : ids.execution j ≠ (ids.task i).execution := AgentIds.ne_of_toNat_lt hids.execution hi hlt
      rw [if_neg hne]
      exact h.listed j hlt
    · obtain rfl := UInt64.toNat_inj.1 heq
      exact (if_pos rfl).trans (congrArg some hallocation)
  · rw [hclaims.budget, (ResourceBudget.reserve?_eq_some_iff.1 hbudget).2.1 d, h.reserved d, Nat.succ_mul]

theorem hasRoom (h : Claimed config ids k t) : config.HasRoom k := by
  intro d
  rw [← h.reserved d, ← h.configured, ← h.sound.capacity]
  exact h.sound.within d

end Claimed

end SlotTable

/-! ## All commands -/

namespace Agent

variable {config : TableConfig} {ids : AgentIds} {a : Agent}

/-- How far an agent has come when it has claimed as many slots as it could. -/
structure ClaimedAll (config : TableConfig) (ids : AgentIds) (k : Nat) (result : Except ClaimError Unit)
    (a : Agent) : Prop where
  resting : a.Resting
  claimed : Claimed config ids k a.table
  greatest : IsGreatest {k | k ≤ config.numberSlots.toNat ∧ config.HasRoom k} k
  done : k = config.numberSlots.toNat → result = .ok ⟨⟩
  exhausted : k < config.numberSlots.toNat → result = .error (.table
    (.resourceExhausted config.defaultSlotProfile a.table.budget.available config.totalResources))

/-- Where the next slot is the last or has no room, no more can be claimed. -/
theorem isGreatest_of_end {k : Nat} (hk : k ≤ config.numberSlots.toNat) (hroom : config.HasRoom k)
    (hend : k < config.numberSlots.toNat → ¬ config.HasRoom (k + 1)) :
    IsGreatest {k | k ≤ config.numberSlots.toNat ∧ config.HasRoom k} k := by
  refine ⟨⟨hk, hroom⟩, ?_⟩
  rintro j ⟨hj, hroom'⟩
  apply Nat.le_of_not_lt
  intro hlt
  exact hend (Nat.lt_of_lt_of_le hlt hj) (hroom'.mono hlt)

/-- Claims slots at some indices, up to the first that cannot be claimed, while timeouts come late before each
claim. -/
def claimAmid (ids : AgentIds) (timeoutMs : UInt64) (late : SlotIndex → List (AllocationId × Ticket)) :
    List SlotIndex → Agent → Except ClaimError Unit × Agent
  | [], a => (.ok (), a)
  | index :: rest, a =>
    match (a.straggle (late index)).call (claimCommand ids timeoutMs index) with
    | (.carriedOut (.ok _), a) => claimAmid ids timeoutMs late rest a
    | (.carriedOut (.error e), a) => (.error (.table e), a)
    | (.stopped, a) => (.error .stopped, a)

theorem claim_eq_claimAmid (ids : AgentIds) (ms : UInt64) (indices : List SlotIndex) (a : Agent) :
    claim ids ms indices a = claimAmid ids ms (fun _ => []) indices a := by
  induction indices generalizing a with
  | nil => rfl
  | cons index rest ih =>
    unfold claim claimAmid
    rw [straggle_nil]
    obtain ⟨answer, a'⟩ := a.call (claimCommand ids ms index)
    cases answer with
    | stopped => rfl
    | carriedOut result =>
      cases result with
      | error e => rfl
      | ok answer => exact ih a'

/-- One command after the other, up to the first that is refused. -/
theorem claim_from (hids : ids.Distinct config.numberSlots) (ms : UInt64)
    (late : SlotIndex → List (AllocationId × Ticket)) (m : Nat) {k : Nat}
    (hk : k + m = config.numberSlots.toNat) (h : a.Resting) (hclaimed : Claimed config ids k a.table) :
    ∃ j result a', a.claimAmid ids ms late ((List.range' k m).map .ofNat) = (result, a') ∧
      ClaimedAll config ids j result a' := by
  induction m generalizing k a with
  | zero =>
    refine ⟨k, .ok ⟨⟩, a, rfl, h, hclaimed, isGreatest_of_end (Nat.le_of_eq hk) hclaimed.hasRoom ?_,
      fun _ => rfl, ?_⟩
    all_goals
      intro hlt
      omega
  | succ m ih =>
    have hsize := config.numberSlots.toNat_lt_size
    have hindex : (UInt64.ofNat k).toNat = k := UInt64.toNat_ofNat_of_lt' (by omega)
    have hstatic : UInt64.ofNat k < config.numberSlots := UInt64.lt_iff_toNat_lt.2 (by omega)
    rw [List.range'_succ, List.map_cons]
    unfold Agent.claimAmid
    rw [h.call_straggle]
    obtain ⟨hheard, hsame⟩ := h.heard (late (.ofNat k))
    rw [← hsame] at hclaimed
    generalize a.heard (late (.ofNat k)) = a₁ at hheard hclaimed
    rw [← hindex] at hclaimed
    by_cases hroom : config.HasRoom (k + 1)
    · rw [← hindex] at hroom
      obtain ⟨t', hrun, hclaimed'⟩ := hclaimed.claim hids hstatic hroom a₁.supervisor.run.now ms
      obtain ⟨a', hcall, hrest, rfl⟩ := hheard.call hrun hclaimed'.running hclaimed'.still
      rw [hcall]
      rw [hindex] at hclaimed'
      exact ih (by omega) hrest hclaimed'
    · have hfull := hroom
      rw [← hindex] at hfull
      have hrun := hclaimed.refuse hids hstatic hfull a₁.supervisor.run.now ms
      obtain ⟨a', hcall, hrest, htable⟩ := hheard.call hrun hclaimed.running hclaimed.still
      rw [hcall]
      rw [hindex] at hclaimed
      refine ⟨k, _, a', rfl, hrest, htable ▸ hclaimed,
        isGreatest_of_end (by omega) hclaimed.hasRoom fun _ => hroom, ?_, ?_⟩
      · intro heq
        omega
      · intro _
        rw [htable]

/-- An agent of a table just created is at rest, and has claimed nothing. -/
theorem resting_of_new {table : SlotTable} (hnew : SlotTable.new config (.new 0) = .ok table)
    (ids : AgentIds) :
    (Agent.new table).Resting ∧ Claimed config ids 0 (Agent.new table).table := by
  obtain ⟨hsound, hconfig⟩ := Sound.new hnew
  have hstarted := hsound.after (r := .new table true) (.operation .start)
  obtain rfl := eq_of_new hnew
  refine ⟨⟨⟨rfl, rfl, rfl, rfl, rfl, rfl, ⟨rfl, nofun⟩, nofun⟩, rfl, rfl⟩,
    hstarted.1, rfl, rfl, rfl, rfl, rfl, rfl, nofun, nofun, nofun, fun d => ?_⟩
  rw [Nat.zero_mul]
  exact ResourceProfile.units_zero d

/-- An agent claims as many static slots as there is room for. -/
theorem claimAll_of_new {config : AgentConfig} {table : SlotTable}
    (hnew : SlotTable.new config.table (.new 0) = .ok table)
    (hids : ids.Distinct config.table.numberSlots) (late : SlotIndex → List (AllocationId × Ticket)) :
    ∃ k result a, (Agent.new table).claimAmid ids config.slotTimeoutMs late (staticIndices config.table) =
      (result, a) ∧ ClaimedAll config.table ids k result a := by
  obtain ⟨hrest, hclaimed⟩ := resting_of_new hnew ids
  obtain ⟨k, result, a, hclaim, hall⟩ :=
    claim_from hids config.slotTimeoutMs late _ (Nat.zero_add _) hrest hclaimed
  refine ⟨k, result, a, ?_, hall⟩
  rw [← hclaim, ← List.range_eq_range']
  rfl

end Agent

end WorkerSlots
