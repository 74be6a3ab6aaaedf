import WorkerSlots.Proofs.Grants

/-!
# Indices of slots

* `Allocation` : what a request for a slot comes to, and why; nothing but a grant changes the table
  (`Sound.allocate_cases`);
* `TableRun.grantedIndices` : the indices at which the slots of a run are granted, one after the other;
* `Numbered` : a slot has the index of its grant. The counter is above every dynamic index that has been
  granted, so that these grow from grant to grant;
* `dynamic_indices_of_new` : hence no dynamic index is used twice, and one that is asked for is there until
  there is no number left.
-/

namespace WorkerSlots

namespace SlotTable

/-! ## What a request comes to -/

/-- What a request for a slot comes to, and why. -/
inductive Allocation (now : Nat) (t : SlotTable) (request : SlotRequest) : Reply SlotIndex → Prop where
  /-- The allocation has the slot that is requested. -/
  | known {s : TaskSlot} (hlive : t.slots.get? request.allocation = some s)
      (hasked : t.isAsRequested s request = true) : Allocation now t request (.answer t s.index)
  | granted {next : SlotIndex} {budget : ResourceBudget} {ticket : Ticket}
      {timers : Timers AllocationId} {s : TaskSlot} (hstate : t.state = .running)
      (hfree : t.slots.get? request.allocation = none)
      (hnext : t.nextDynamicAfter s.index = .ok next)
      (hbudget : t.budget.reserve? s.profile = some budget)
      (htimers : t.timers.register now request.allocation request.timeoutMs = .ok (ticket, timers))
      (hslot : TaskSlot.new? t.grants (t.requestedIndex request.index) (t.requestedProfile request)
        t.config.memoryPageSize request.job request.allocation t.config.memoryReleaseGraceMs =
          some s) :
      Allocation now t request
        (.answer { t.insertSlot s with budget, timers, nextDynamic := next } s.index)
  /-- The allocation has another slot. -/
  | other {s : TaskSlot} (hlive : t.slots.get? request.allocation = some s)
      (hasked : t.isAsRequested s request = false) :
      Allocation now t request (.refuse t (.allocationConflict
        (.grantedOtherwise s.allocation s.profile s.job s.index)))
  /-- No slot can be granted at the index. -/
  | unavailable {conflict : Conflict} (hfree : t.slots.get? request.allocation = none)
      (hnext : t.nextDynamicAfter (t.requestedIndex request.index) = .error conflict) :
      Allocation now t request (.refuse t (.allocationConflict conflict))
  /-- No slot is granted at all, or not with what is requested. -/
  | refused {error : TableError} (h : ∀ conflict, error ≠ .allocationConflict conflict) :
      Allocation now t request (.refuse t error)

variable {t : SlotTable}

theorem Sound.allocate_cases (h : t.Sound) (now : Nat) (request : SlotRequest) :
    Allocation now t request (t.allocate now request) := by
  by_cases hstate : t.state = .running
  · cases hfree : t.slots.get? request.allocation with
    | some s =>
      rw [h.allocate_of_live now hstate hfree]
      cases hasked : t.isAsRequested s request with
      | true => exact .known hfree hasked
      | false => exact .other hfree hasked
    | none =>
      cases hnext : t.nextDynamicAfter (t.requestedIndex request.index) with
      | error conflict =>
        rw [h.allocate_of_conflict now hstate hfree hnext]
        exact .unavailable hfree hnext
      | ok next =>
        rw [h.allocate_of_next now hstate hfree hnext]
        cases hbudget : t.budget.reserve? (t.requestedProfile request) with
        | none =>
          rw [grant_of_exhausted now hbudget]
          exact .refused nofun
        | some budget =>
          cases htimers : t.timers.register now request.allocation request.timeoutMs with
          | error e =>
            rw [grant_of_untimed now hbudget htimers]
            exact .refused nofun
          | ok registered =>
            obtain ⟨s, hslot, heq⟩ := h.exists_grant now hbudget htimers
            obtain ⟨-, hindex, hprofile, -⟩ := TaskSlot.new?_eq_some hslot
            rw [heq]
            rw [← hindex] at hnext ⊢
            rw [← hprofile] at hbudget
            exact .granted hstate hfree hnext hbudget htimers hslot
  · rw [allocate_of_not_running now hstate]
    exact .refused nofun

/-- A slot can be granted at a free index that is static, or above all that were granted. -/
theorem nextDynamicAfter_eq_ok {index next : SlotIndex} (h : t.nextDynamicAfter index = .ok next) :
    t.indices.get? index = none ∧
      (index < t.config.numberSlots ∧ next = t.nextDynamic ∨
        t.config.numberSlots ≤ index ∧ t.nextDynamic ≤ index ∧ next.toNat = index.toNat + 1) := by
  refine ⟨free_of_nextDynamicAfter h, ?_⟩
  unfold nextDynamicAfter isDynamicIndex at h
  rw [free_of_nextDynamicAfter h] at h
  by_cases hdynamic : t.config.numberSlots ≤ index
  · by_cases hspent : index < t.nextDynamic
    · simp [hdynamic, hspent] at h
    · cases hadd : Word.add? index 1 with
      | none => simp [hdynamic, hspent, hadd] at h
      | some w =>
        simp only [hdynamic, hspent, hadd, decide_true, Bool.not_true, Bool.false_eq_true, ↓reduceIte,
          Except.ok.injEq] at h
        subst h
        exact .inr ⟨hdynamic, UInt64.not_lt.1 hspent, Word.add?_eq_some_iff.1 hadd⟩
  · simp only [hdynamic, decide_false, Bool.not_false, ↓reduceIte, Except.ok.injEq] at h
    exact .inl ⟨UInt64.not_le.1 hdynamic, h.symm⟩

/-! ## The indices that are granted -/

/-- The index of the slot that an event grants, if it grants one. -/
def grantedIndex? (now : Nat) (t : SlotTable) : TableEvent → Option SlotIndex
  | .operation (.allocate request) =>
    match t.slots.get? request.allocation with
    | some _ => none
    | none => (t.allocate now request).result.toOption
  | _ => none

/-- The numbers of grants and of dynamic indices change with a grant only. -/
theorem Step.counters {t' : SlotTable} {now : Nat} {e : TableEvent} {actions : List SlotAction}
    {failures : List TaskFailure} (h : Step now t e actions failures t')
    (he : ∀ request, e ≠ .operation (.allocate request)) :
    t'.nextDynamic = t.nextDynamic ∧ t'.grants = t.grants := by
  cases h with
  | grant => exact absurd rfl (he _)
  | start | activate | deactivate | deactivateUntimed | retire | drain | bind | unbind | notify
  | closeUnstarted | beginClose | awaitAll | expire | straggle | teardown | finish | useLive
  | useRetired | cancel => exact ⟨rfl, rfl⟩

theorem counters_of_moves {r r' : TableRun} {e : TableEvent} (h : r.Moves e r')
    (he : ∀ request, e ≠ .operation (.allocate request)) :
    r'.table.nextDynamic = r.table.nextDynamic ∧ r'.table.grants = r.table.grants := by
  have hall := h.lift (R := fun t e t' => (∀ request, e ≠ .operation (.allocate request)) →
      t'.nextDynamic = t.nextDynamic ∧ t'.grants = t.grants)
    (fun _ _ _ => ⟨rfl, rfl⟩) (fun hstep => hstep.counters)
    (fun {_ _ _ _ p} _ hp hu hv he => by
      have hpe : ∀ request, p ≠ .operation (.allocate request) := by
        rintro request rfl
        obtain hp | ⟨a, hp⟩ := hp <;> cases hp
      exact ⟨(hv hpe).1.trans (hu he).1, (hv hpe).2.trans (hu he).2⟩)
  exact hall he

/-- The indices of a table by the numbers of their grants. -/
structure Numbered (t : SlotTable) (granted : List SlotIndex) : Prop where
  least : t.config.numberSlots ≤ t.nextDynamic
  below : ∀ i ∈ granted, t.config.numberSlots ≤ i → i < t.nextDynamic
  rising : granted.Pairwise fun i j => t.config.numberSlots ≤ i → t.config.numberSlots ≤ j → i < j
  count : granted.length = t.grants
  live : ∀ {a s}, t.slots.get? a = some s → granted[s.grant]? = some s.index
  retired : ∀ {g s}, t.retired.get? g = some s → granted[g]? = some s.index

variable {granted : List SlotIndex}

theorem Numbered.new {config : TableConfig} {timers : Timers AllocationId}
    (h : SlotTable.new config timers = .ok t) : t.Numbered [] := by
  obtain rfl := eq_of_new h
  exact ⟨UInt64.le_refl _, nofun, .nil, rfl, nofun, nofun⟩

/-- An event by which no slot is granted. -/
theorem Numbered.keep (h : t.Numbered granted) {t' : SlotTable} {now : Nat} {e : TableEvent}
    (hpassage : Passage now t e t') (hnext : t'.nextDynamic = t.nextDynamic)
    (hgrants : t'.grants = t.grants) : t'.Numbered granted := by
  have hconfig := hpassage.config
  refine ⟨?_, ?_, ?_, h.count.trans hgrants.symm, fun hs => ?_, fun hs => ?_⟩
  · rw [hconfig, hnext]
    exact h.least
  · rw [hconfig, hnext]
    exact h.below
  · rw [hconfig]
    exact h.rising
  · obtain ⟨s, hlive, hlater⟩ | ⟨-, hgranting⟩ := hpassage.origin hs
    · rw [hlater.grant, hlater.index]
      exact h.live hlive
    · have := hgranting.grants
      omega
  · obtain ⟨s, hretired, hsame⟩ | ⟨a, s, hlive, rfl, hsame, -⟩ := hpassage.source hs
    · rw [hsame.index]
      exact h.retired hretired
    · rw [hsame.index]
      exact h.live hlive

/-- A slot is granted at an index that is static, or above all that were granted. -/
theorem Numbered.grant (h : t.Numbered granted) {s : TaskSlot} {budget : ResourceBudget}
    {timers : Timers AllocationId} {next : SlotIndex} (hnumber : s.grant = t.grants)
    (hnext : t.nextDynamicAfter s.index = .ok next) :
    Numbered { t.insertSlot s with budget, timers, nextDynamic := next } (granted ++ [s.index]) := by
  obtain ⟨-, hcases⟩ := nextDynamicAfter_eq_ok hnext
  have hleast := h.least
  have hle : t.nextDynamic ≤ next := by
    obtain ⟨-, rfl⟩ | ⟨-, habove, hsucc⟩ := hcases
    · exact UInt64.le_refl _
    · rw [UInt64.le_iff_toNat_le] at habove ⊢
      omega
  have hearlier : ∀ {g : Nat} {i}, granted[g]? = some i → (granted ++ [s.index])[g]? = some i := by
    intro g i hg
    rw [List.getElem?_append_left (List.getElem?_eq_some_iff.1 hg).1]
    exact hg
  refine ⟨UInt64.le_trans hleast hle, fun i hi hdynamic => ?_, ?_, ?_, fun {a x} hx => ?_, fun hx => ?_⟩
  · show i < next
    obtain hi | hi := List.mem_append.1 hi
    · exact UInt64.lt_of_lt_of_le (h.below i hi hdynamic) hle
    · obtain rfl := List.mem_singleton.1 hi
      obtain ⟨hstatic, -⟩ | ⟨-, -, hsucc⟩ := hcases
      · exact absurd hdynamic (UInt64.not_le.2 hstatic)
      · rw [UInt64.lt_iff_toNat_lt]
        omega
  · refine List.pairwise_append.2 ⟨h.rising, List.pairwise_singleton _ _, fun i hi j hj hi' hj' => ?_⟩
    obtain rfl := List.mem_singleton.1 hj
    obtain ⟨hstatic, -⟩ | ⟨-, habove, -⟩ := hcases
    · exact absurd hj' (UInt64.not_le.2 hstatic)
    · exact UInt64.lt_of_lt_of_le (h.below i hi hi') habove
  · rw [List.length_append, h.count]
    rfl
  · have hslots : (t.slots.insert s.allocation s).get? a = some x := hx
    rw [SortedMap.get?_insert] at hslots
    split at hslots
    · obtain rfl := Option.some.inj hslots
      rw [hnumber, ← h.count, List.getElem?_append_right (Nat.le_refl _), Nat.sub_self]
      rfl
    · exact hearlier (h.live hslots)
  · exact hearlier (h.retired hx)

theorem Numbered.allocate (h : t.Numbered granted) (hsound : t.Sound) (now : Nat)
    (request : SlotRequest) :
    (t.allocate now request).table.Numbered
      (granted ++ (grantedIndex? now t (.operation (.allocate request))).toList) := by
  have hcases := hsound.allocate_cases now request
  have hnone : t.Numbered (granted ++ (none : Option SlotIndex).toList) := by
    rw [Option.toList_none, List.append_nil]
    exact h
  unfold grantedIndex?
  dsimp only
  generalize t.allocate now request = reply at hcases ⊢
  cases hcases with
  | known hlive | other hlive =>
    rw [hlive]
    exact hnone
  | unavailable hfree =>
    rw [hfree]
    exact hnone
  | refused => cases t.slots.get? request.allocation <;> exact hnone
  | granted hstate hfree hnext hbudget htimers hslot =>
    rw [hfree]
    exact h.grant (TaskSlot.new?_eq_some hslot).1 hnext

end SlotTable

/-! ## Runs -/

/-- The indices of the slots that some events grant, one after the other. -/
def TableRun.grantedIndices (r : TableRun) : List TableEvent → List SlotIndex
  | [] => []
  | e :: rest => (SlotTable.grantedIndex? r.now r.table e).toList ++ (r.after e).grantedIndices rest

open SlotTable TableRun

theorem TableRun.grantedIndices_append (r : TableRun) (before rest : List TableEvent) :
    r.grantedIndices (before ++ rest) =
      r.grantedIndices before ++ (r.afterAll before).grantedIndices rest := by
  induction before generalizing r with
  | nil => rfl
  | cons e before ih =>
    rw [List.cons_append, grantedIndices, grantedIndices, ih, afterAll_cons, List.append_assoc]

namespace SlotTable

theorem Numbered.after {r : TableRun} {granted : List SlotIndex} (h : r.table.Numbered granted)
    (hsound : r.table.Sound) (hgranted : r.table.Granted) (e : TableEvent) :
    (r.after e).table.Numbered (granted ++ (grantedIndex? r.now r.table e).toList) := by
  by_cases he : ∃ request, e = .operation (.allocate request)
  · obtain ⟨request, rfl⟩ := he
    exact h.allocate hsound r.now request
  · have hother : ∀ request, e ≠ .operation (.allocate request) := fun request hrequest =>
      he ⟨request, hrequest⟩
    have hnone : grantedIndex? r.now r.table e = none := by
      unfold grantedIndex?
      split
      · exact absurd rfl (hother _)
      · rfl
    obtain ⟨hnext, hgrants⟩ := counters_of_moves (after_moves hsound e) hother
    rw [hnone, Option.toList_none, List.append_nil]
    exact h.keep (hgranted.passage hsound e) hnext hgrants

theorem Numbered.afterAll {r : TableRun} {granted : List SlotIndex} (h : r.table.Numbered granted)
    (hsound : r.table.Sound) (hgranted : r.table.Granted) (events : List TableEvent) :
    (r.afterAll events).table.Numbered (granted ++ r.grantedIndices events) := by
  induction events generalizing r granted with
  | nil =>
    unfold grantedIndices
    rw [List.append_nil]
    exact h
  | cons e rest ih =>
    unfold grantedIndices
    rw [← List.append_assoc]
    exact ih (h.after hsound hgranted e) (hsound.after e).1 (hgranted.after hsound e)

variable {t : SlotTable} {granted : List SlotIndex}

/-- A dynamic index is that of one grant. -/
theorem Numbered.grant_unique (h : t.Numbered granted) {g g' : Nat} {i : SlotIndex}
    (hg : granted[g]? = some i) (hg' : granted[g']? = some i) (hi : t.config.numberSlots ≤ i) :
    g = g' := by
  have hrising := List.pairwise_iff_getElem.1 h.rising
  obtain ⟨hlt, heq⟩ := List.getElem?_eq_some_iff.1 hg
  obtain ⟨hlt', heq'⟩ := List.getElem?_eq_some_iff.1 hg'
  apply Nat.le_antisymm
  · apply Nat.le_of_not_lt
    intro hlater
    have := hrising g' g hlt' hlt hlater
    rw [heq, heq'] at this
    exact absurd (this hi hi) (UInt64.lt_irrefl _)
  · apply Nat.le_of_not_lt
    intro hlater
    have := hrising g g' hlt hlt' hlater
    rw [heq, heq'] at this
    exact absurd (this hi hi) (UInt64.lt_irrefl _)

/-- The next dynamic index is free, and there is another one above it unless it is the last. -/
theorem Numbered.nextDynamicAfter_error (h : t.Numbered granted) (hsound : t.Sound)
    {conflict : Conflict} (hconflict : t.nextDynamicAfter t.nextDynamic = .error conflict) :
    t.nextDynamic.toNat = 2 ^ 64 - 1 ∧ conflict = .lastIndex t.nextDynamic := by
  have hfree : t.indices.get? t.nextDynamic = none := by
    cases howner : t.indices.get? t.nextDynamic with
    | none => rfl
    | some a =>
      obtain ⟨s, hlive, hindex⟩ := hsound.indexed.1 howner
      have hmem := List.mem_of_getElem? (h.live hlive)
      rw [hindex] at hmem
      exact absurd (h.below _ hmem h.least) (UInt64.lt_irrefl _)
  unfold nextDynamicAfter isDynamicIndex at hconflict
  rw [hfree] at hconflict
  simp only [h.least, decide_true, Bool.not_true, Bool.false_eq_true, ↓reduceIte,
    UInt64.lt_irrefl] at hconflict
  cases hadd : Word.add? t.nextDynamic 1 with
  | some next =>
    rw [hadd] at hconflict
    cases hconflict
  | none =>
    rw [hadd] at hconflict
    exact ⟨Word.add?_one_eq_none_iff.1 hadd, (Except.error.inj hconflict).symm⟩

/-! ## Requests for a dynamic index -/

section Requests

variable {now : Nat} {request : SlotRequest}

/-- A request that grants no slot changes nothing. -/
theorem Sound.allocate_table (h : t.Sound)
    (hnone : t.slots.get? request.allocation ≠ none ∨
      ∃ error, (t.allocate now request).result = .error error) :
    (t.allocate now request).table = t := by
  have hcases := h.allocate_cases now request
  generalize t.allocate now request = reply at hcases hnone ⊢
  cases hcases with
  | known | other | unavailable | refused => rfl
  | granted hstate hfree =>
    obtain hlive | ⟨error, herror⟩ := hnone
    · exact absurd hfree hlive
    · cases herror

/-- There is a conflict about a dynamic index for a new slot only if there is no number left. -/
theorem Numbered.conflict_of_dynamic (h : t.Numbered granted) (hsound : t.Sound)
    (hdynamic : request.index = .dynamic) (hfree : t.slots.get? request.allocation = none)
    {conflict : Conflict}
    (hconflict : (t.allocate now request).result = .error (.allocationConflict conflict)) :
    t.nextDynamic.toNat = 2 ^ 64 - 1 := by
  have hcases := hsound.allocate_cases now request
  generalize t.allocate now request = reply at hcases hconflict
  cases hcases with
  | known | granted => cases hconflict
  | other hlive =>
    rw [hfree] at hlive
    cases hlive
  | unavailable _ hnext =>
    rw [hdynamic] at hnext
    exact (h.nextDynamicAfter_error hsound hnext).1
  | refused hother =>
    have := Except.error.inj hconflict
    exact absurd this (hother conflict)

/-- Where there is no number left, no slot is granted at a dynamic index. -/
theorem Numbered.refused_of_dynamic (h : t.Numbered granted) (hsound : t.Sound)
    (hdynamic : request.index = .dynamic) (hfree : t.slots.get? request.allocation = none)
    (hlast : t.nextDynamic.toNat = 2 ^ 64 - 1) :
    ∃ error, t.allocate now request = .refuse t error := by
  have hcases := hsound.allocate_cases now request
  generalize t.allocate now request = reply at hcases
  cases hcases with
  | known hlive =>
    rw [hfree] at hlive
    cases hlive
  | other | unavailable | refused => exact ⟨_, rfl⟩
  | @granted next _ _ _ s hstate _ hnext hbudget htimers hslot =>
    obtain ⟨-, hindex, -⟩ := TaskSlot.new?_eq_some hslot
    rw [hdynamic] at hindex
    have hindex : s.index = t.nextDynamic := hindex
    rw [hindex] at hnext
    obtain ⟨hstatic, -⟩ | ⟨-, -, hsucc⟩ := (nextDynamicAfter_eq_ok hnext).2
    · exact absurd h.least (UInt64.not_le.2 hstatic)
    · have hlt := next.toNat_lt_size
      have hbound : UInt64.size = 2 ^ 64 := rfl
      omega

end Requests

/-- In the order of their grants, the slots of a run have dynamic indices that grow, so that no two slots
share one, whether or not they are live at the same time. The counter is above them and above all static
indices, and a request that grants no slot leaves the table as it is. A dynamic index for a new slot meets
no conflict, unless the counter has come to the largest number; then it is refused. -/
theorem dynamic_indices_of_new {config : TableConfig} {timers : Timers AllocationId}
    {table : SlotTable} (hnew : SlotTable.new config timers = .ok table) (listening : Bool)
    (events : List TableEvent) :
    let start := TableRun.new table listening
    let r := start.afterAll events
    let granted := start.grantedIndices events
    (granted.length = r.table.grants ∧
      (∀ a s, r.table.slots.get? a = some s → granted[s.grant]? = some s.index) ∧
      ∀ g s, r.table.retired.get? g = some s → granted[g]? = some s.index) ∧
    (granted.filter (config.numberSlots ≤ ·)).Pairwise (· < ·) ∧
    (∀ before rest a b s s', events = before ++ rest →
      (start.afterAll before).table.slots.get? a = some s → r.table.slots.get? b = some s' →
      config.numberSlots ≤ s.index → s.index = s'.index → s.grant = s'.grant) ∧
    config.numberSlots ≤ r.table.nextDynamic ∧
    (∀ i ∈ granted, config.numberSlots ≤ i → i < r.table.nextDynamic) ∧
    ∀ request : SlotRequest,
      ((r.table.slots.get? request.allocation ≠ none ∨
        ∃ error, (r.table.allocate r.now request).result = .error error) →
        (r.table.allocate r.now request).table = r.table) ∧
      (request.index = .dynamic → r.table.slots.get? request.allocation = none →
        (∀ conflict, (r.table.allocate r.now request).result = .error (.allocationConflict conflict) →
          r.table.nextDynamic.toNat = 2 ^ 64 - 1) ∧
        (r.table.nextDynamic.toNat = 2 ^ 64 - 1 →
          ∃ error, r.table.allocate r.now request = .refuse r.table error)) := by
  intro start r granted
  have hbegin : start.table.Sound := (Sound.new hnew).1
  have hnumbered : ∀ events, (start.afterAll events).table.Numbered (start.grantedIndices events) :=
    (Numbered.new hnew).afterAll (r := start) hbegin (Granted.new hnew)
  obtain ⟨hsound, hconfig⟩ := Sound.ofNew hnew listening events
  have h : r.table.Numbered granted := hnumbered events
  have hrising := h.rising
  have hbelow := h.below
  have hleast := h.least
  rw [hconfig] at hrising hbelow hleast
  refine ⟨⟨h.count, fun a s => h.live, fun g s => h.retired⟩, ?_, ?_, hleast, hbelow, fun request =>
    ⟨hsound.allocate_table, fun hdynamic hfree => ⟨fun conflict => ?_, ?_⟩⟩⟩
  · rw [List.pairwise_filter]
    simpa only [decide_eq_true_iff] using hrising
  · rintro before rest a b s s' rfl hs hs' hdynamic hindex
    have hbefore := (hnumbered before).live hs
    have hlater := h.live hs'
    rw [← hindex] at hlater
    refine h.grant_unique (i := s.index) ?_ hlater (hconfig.symm ▸ hdynamic)
    show (start.grantedIndices (before ++ rest))[s.grant]? = some s.index
    rw [grantedIndices_append, List.getElem?_append_left (List.getElem?_eq_some_iff.1 hbefore).1]
    exact hbefore
  · exact h.conflict_of_dynamic hsound hdynamic hfree
  · exact h.refused_of_dynamic hsound hdynamic hfree

/-- Three dynamic indices are granted, one of them by name; the first is given back before the second. -/
theorem dynamic_indices_of_new_freed : ∃ table,
    SlotTable.new (.evenlyDivided 4 TableConfig.standardProfile) (.new 0) = .ok table ∧
    let r := TableRun.new table true
    let events : List TableEvent :=
      [.operation .start, .operation (.allocate ⟨.dynamic, ⟨0⟩, ⟨1⟩, none, 5⟩),
        .operation (.free ⟨1⟩ ""), .operation (.allocate ⟨.fixed 9, ⟨0⟩, ⟨2⟩, none, 5⟩),
        .operation (.allocate ⟨.fixed 0, ⟨0⟩, ⟨3⟩, none, 5⟩),
        .operation (.allocate ⟨.dynamic, ⟨0⟩, ⟨1⟩, none, 5⟩)]
    r.grantedIndices events = [4, 9, 0, 10] ∧
      ((r.grantedIndices events).filter ((4 : SlotIndex) ≤ ·)).Pairwise (· < ·) ∧
      (r.afterAll events).table.nextDynamic = 11 := by
  have hnew : SlotTable.new (.evenlyDivided 4 TableConfig.standardProfile) (.new 0) = .ok _ := rfl
  refine ⟨_, hnew, ?_⟩
  intro r events
  exact ⟨by decide, (dynamic_indices_of_new hnew true events).2.1, by decide⟩

end SlotTable

end WorkerSlots
