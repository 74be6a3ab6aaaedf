import WorkerSlots.Proofs.Indices

/-!
# Requests that are repeated

* `SlotRequest.units`, `IndexRequest.Admits`, `SlotRequest.Asks` : what a request asks for. It does not matter
  how its profile is written, nor how long its timeout is;
* `isAsRequested_iff` : a slot is the one that a request asks for if it is of the job and the index, and holds
  the units that are asked for;
* `Sound.asks_of_allocate`, `live_of_grant` : the slot that is granted is the one that was asked for, and stays so
  as long as it is there;
* `Repeatable` : what requests for an allocation come to while it has its slot, `Sound.repeatable`;
* `repeatable_of_new` : all of this in every run.
-/

namespace WorkerSlots

open SlotTable TableRun

/-! ## What a request asks for -/

/-- The units that a request asks for in one dimension; the default ones if it does not say. -/
def SlotRequest.units (request : SlotRequest) (config : TableConfig) (d : Dimension) : Nat :=
  (request.profile.getD config.defaultSlotProfile).units d

/-- A slot at an index may be the one that is requested: a dynamic one if any is, or the one that is named. -/
def IndexRequest.Admits (config : TableConfig) (i : SlotIndex) : IndexRequest → Prop
  | .dynamic => config.numberSlots ≤ i
  | .fixed index => index = i

/-- A request asks for a slot: for its job, at its index, and with what it holds. -/
structure SlotRequest.Asks (request : SlotRequest) (config : TableConfig) (s : TaskSlot) : Prop where
  job : request.job = s.job
  units : ∀ d, request.units config d = s.profile.units d
  index : request.index.Admits config s.index

variable {config : TableConfig} {request request' : SlotRequest} {i : SlotIndex} {s s' : TaskSlot}

/-- What is asked for is asked for at any later time, too. -/
theorem SlotRequest.Asks.of_sameGrant (h : request.Asks config s) (hsame : s.SameGrant s') :
    request.Asks config s' := by
  refine ⟨?_, fun d => ?_, ?_⟩
  · rw [hsame.job]
    exact h.job
  · rw [hsame.profile]
    exact h.units d
  · rw [hsame.index]
    exact h.index

namespace SlotTable

variable {t : SlotTable} {now : Nat}

theorem isAsRequested_iff : t.isAsRequested s request = true ↔ request.Asks t.config s := by
  have hprofile : s.profile = t.requestedProfile request ↔
      ∀ d, request.units t.config d = s.profile.units d := by
    constructor
    · intro heq d
      rw [heq]
      rfl
    · intro hunits
      exact ResourceProfile.ext_units fun d => (hunits d).symm
  have hindex : (match request.index with
      | .dynamic => t.isDynamicIndex s.index
      | .fixed index => decide (s.index = index)) = true ↔ request.index.Admits t.config s.index := by
    cases request.index with
    | dynamic => exact decide_eq_true_iff
    | fixed index => exact decide_eq_true_iff.trans eq_comm
  unfold isAsRequested
  rw [Bool.and_eq_true, Bool.and_eq_true, decide_eq_true_iff, decide_eq_true_iff, hprofile]
  constructor
  · rintro ⟨⟨hjob, hunits⟩, hadmits⟩
    exact ⟨hjob.symm, hunits, hindex.1 hadmits⟩
  · intro h
    exact ⟨⟨h.job.symm, h.units⟩, hindex.2 h.index⟩

/-- The slot that a request is answered with is the one that it asks for. -/
theorem Sound.asks_of_allocate (h : t.Sound) (hleast : t.config.numberSlots ≤ t.nextDynamic)
    (hok : (t.allocate now request).result = .ok i)
    (hs : (t.allocate now request).table.slots.get? request.allocation = some s) :
    s.index = i ∧ request.Asks t.config s := by
  have hcases := h.allocate_cases now request
  generalize t.allocate now request = reply at hcases hok hs
  cases hcases with
  | @known x hlive hasked =>
    obtain rfl : s = x := Option.some.inj (hs.symm.trans hlive)
    exact ⟨Except.ok.inj hok, isAsRequested_iff.1 hasked⟩
  | other | unavailable | refused => cases hok
  | @granted next budget ticket timers x _ _ _ _ _ hslot =>
    obtain ⟨-, hindex, hprofile, hjob, hallocation, -⟩ := TaskSlot.new?_eq_some hslot
    rw [← hallocation] at hs
    obtain rfl : x = s := Option.some.inj ((SortedMap.get?_insert_self _ _ _).symm.trans hs)
    refine ⟨Except.ok.inj hok, hjob.symm, fun d => ?_, ?_⟩
    · rw [hprofile]
      rfl
    · rw [hindex]
      cases request.index with
      | dynamic => exact hleast
      | fixed index => rfl

/-! ## As long as the slot is there -/

/-- The slot of a grant that is live at the end of a run is a later version of what it was at first. -/
theorem Granted.later_of_grant {r : TableRun} (h : r.table.Granted) (hsound : r.table.Sound)
    {a : AllocationId} {events : List TableEvent} (hs : r.table.slots.get? a = some s)
    (hs' : (r.afterAll events).table.slots.get? a = some s') (hgrant : s'.grant = s.grant) : s.Later s' := by
  obtain ⟨x, hx, hlater⟩ | ⟨x, hx, -⟩ := h.carried_or_retired hsound hs events
  · obtain rfl : x = s' := Option.some.inj (hx.symm.trans hs')
    exact hlater
  · have hapart := (h.afterAll hsound events).apart hs'
    rw [hgrant, hx] at hapart
    cases hapart

/-- What requests for an allocation come to while the slot that it was granted at an index by `request` is there.
No request changes anything. -/
structure Repeatable (r : TableRun) (config : TableConfig) (request : SlotRequest) (i : SlotIndex) (s : TaskSlot) :
    Prop where
  /-- The request itself may be repeated, whatever its timeout is now. -/
  admits : request.index.Admits config i
  again : ∀ request', request'.allocation = request.allocation → request'.job = request.job →
    (∀ d, request'.units config d = request.units config d) → request'.index.Admits config i →
      (r.perform (.allocate request')).1 = .ok i
  /-- Another job, another profile, or an index that the slot does not have. -/
  conflict : ∀ request', request'.allocation = request.allocation →
    request'.job ≠ request.job ∨ (∃ d, request'.units config d ≠ request.units config d) ∨
      ¬ request'.index.Admits config i →
    (r.perform (.allocate request')).1 =
      .error (.allocationConflict (.grantedOtherwise request.allocation s.profile request.job i))
  unchanged : ∀ request', request'.allocation = request.allocation → (r.perform (.allocate request')).2 = r

theorem Sound.repeatable {r : TableRun} (h : r.table.Sound) (hstate : r.table.state = .running)
    (hlive : r.table.slots.get? request.allocation = some s) (hasks : request.Asks r.table.config s) :
    Repeatable r r.table.config request s.index s := by
  have heq : ∀ request' : SlotRequest, request'.allocation = request.allocation →
      r.table.allocate r.now request' =
        if r.table.isAsRequested s request' then .answer r.table s.index
        else .refuse r.table (.allocationConflict
          (.grantedOtherwise s.allocation s.profile s.job s.index)) := by
    intro request' hallocation
    rw [← hallocation] at hlive
    exact h.allocate_of_live r.now hstate hlive
  refine ⟨hasks.index, fun request' hallocation hjob hunits hadmits => ?_,
    fun request' hallocation hother => ?_, fun request' hallocation => ?_⟩
  · have hasked : r.table.isAsRequested s request' = true := isAsRequested_iff.2
      ⟨hjob.trans hasks.job, fun d => (hunits d).trans (hasks.units d), hadmits⟩
    show (r.table.allocate r.now request').result = _
    rw [heq request' hallocation, if_pos hasked]
    rfl
  · have hasked : ¬ r.table.isAsRequested s request' = true := by
      intro hasked
      have hasks' := isAsRequested_iff.1 hasked
      obtain hjob | ⟨d, hunits⟩ | hindex := hother
      · exact hjob (hasks'.job.trans hasks.job.symm)
      · exact hunits ((hasks'.units d).trans (hasks.units d).symm)
      · exact hindex hasks'.index
    show (r.table.allocate r.now request').result = _
    rw [heq request' hallocation, if_neg hasked, h.keyed hlive, ← hasks.job]
    rfl
  · show r.absorb (r.table.allocate r.now request') = r
    rw [heq request' hallocation]
    split
    · exact r.absorb_answer _
    · exact r.absorb_refuse _

end SlotTable

/-! ## Every run -/

/-- In every run of a table, a request that was answered with an index may be repeated as long as the slot is
there and the table runs: it has the same answer, any other request for the allocation is refused as a conflict,
and nothing changes. -/
theorem repeatable_of_new {timers : Timers AllocationId} {table : SlotTable}
    (hnew : SlotTable.new config timers = .ok table) (listening : Bool) (before after : List TableEvent)
    {s₀ : TaskSlot}
    (hok : (((TableRun.new table listening).afterAll before).perform (.allocate request)).1 = .ok i)
    (hgranted : ((TableRun.new table listening).afterAll
      (before ++ [.operation (.allocate request)])).table.slot? request.allocation = some s₀)
    (hlive : ((TableRun.new table listening).afterAll
      (before ++ .operation (.allocate request) :: after)).table.slot? request.allocation = some s)
    (hgrant : s.grant = s₀.grant)
    (hrunning : ((TableRun.new table listening).afterAll
      (before ++ .operation (.allocate request) :: after)).table.state = .running) :
    Repeatable ((TableRun.new table listening).afterAll (before ++ .operation (.allocate request) :: after))
      config request i s := by
  obtain ⟨hsound₀, hconfig₀⟩ := Sound.ofNew hnew listening before
  obtain ⟨hsound, hconfig⟩ := Sound.ofNew hnew listening (before ++ .operation (.allocate request) :: after)
  have hnumbered := (Numbered.new hnew).afterAll (r := .new table listening) (Sound.new hnew).1
    (Granted.new hnew) before
  have hafter : (TableRun.new table listening).afterAll (before ++ .operation (.allocate request) :: after) =
      ((TableRun.new table listening).afterAll (before ++ [.operation (.allocate request)])).afterAll after := by
    rw [← afterAll_append, List.append_assoc]
    rfl
  obtain ⟨hindex, hasks⟩ : s₀.index = i ∧ request.Asks config s₀ := by
    rw [afterAll_concat] at hgranted
    rw [← hconfig₀]
    exact hsound₀.asks_of_allocate hnumbered.least hok hgranted
  have hlater : s₀.Later s := by
    rw [hafter] at hlive
    exact Granted.later_of_grant ((Granted.new hnew).afterAll (r := .new table listening) (Sound.new hnew).1 _)
      (Sound.ofNew hnew listening _).1 hgranted hlive hgrant
  rw [← hindex, ← hlater.index]
  have hrepeatable := hsound.repeatable hrunning hlive (hconfig ▸ hasks.of_sameGrant hlater.toSameGrant)
  rw [hconfig] at hrepeatable
  exact hrepeatable

/-- A slot with a task is being given back. Its request is repeated with the default profile written out and
another timeout, and then for another job. -/
theorem repeatable_of_new_draining : ∃ table,
    SlotTable.new (.evenlyDivided 2 TableConfig.standardProfile) (.new 0) = .ok table ∧
    let config := TableConfig.evenlyDivided 2 TableConfig.standardProfile
    let request : SlotRequest := ⟨.dynamic, ⟨0⟩, ⟨1⟩, none, 5⟩
    let r := (TableRun.new table true).afterAll
      ([.operation .start] ++ .operation (.allocate request) ::
        [.operation (.markActive ⟨1⟩), .operation (.addTask ⟨⟨7⟩, ⟨0⟩, ⟨1⟩⟩), .operation (.free ⟨1⟩ "")])
    ∃ s, r.table.slot? ⟨1⟩ = some s ∧ s.state = .releasing ∧ Repeatable r config request 2 s ∧
      (r.perform (.allocate ⟨.dynamic, ⟨0⟩, ⟨1⟩, some config.defaultSlotProfile, 9⟩)).1 = .ok 2 ∧
      (r.perform (.allocate ⟨.dynamic, ⟨1⟩, ⟨1⟩, none, 5⟩)).1 =
        .error (.allocationConflict (.grantedOtherwise ⟨1⟩ s.profile ⟨0⟩ 2)) := by
  have hnew : SlotTable.new (.evenlyDivided 2 TableConfig.standardProfile) (.new 0) = .ok _ := rfl
  refine ⟨_, hnew, ?_⟩
  intro config request r
  have hslot : (r.table.slot? ⟨1⟩).map (fun s => (s.state, s.grant)) = some (.releasing, 0) := by decide +kernel
  obtain ⟨s, hs, hfields⟩ := Option.map_eq_some_iff.1 hslot
  obtain ⟨hstate, hgrant⟩ := Prod.mk.inj hfields
  have hrepeatable : Repeatable r config request 2 s :=
    repeatable_of_new hnew true [.operation .start] _ (by decide +kernel) rfl hs hgrant (by decide +kernel)
  exact ⟨s, hs, hstate, hrepeatable,
    hrepeatable.again _ rfl rfl (fun _ => rfl) hrepeatable.admits,
    hrepeatable.conflict _ rfl (.inl (by decide))⟩

end WorkerSlots
