import WorkerSlots.Proofs.Closing
import WorkerSlots.Proofs.Unclaimed

/-!
# The timeouts of the live slots

* `timeouts` : how many timeouts an allocation has registered, which is one at most;
* `KeepsTimeouts` : an event leaves the timeout of a slot to be given back as it was, and a slot is to be given
  back only after somebody asked for it (`AsksBack`); `keepsTimeouts_of_moves` : every event is like this;
* `Covered.afterAll` : the slots that are not claimed have timeouts in every run;
* `MarkedFrom` : the slot as it was when it was asked back, which decides on the timeout of a slot to be given
  back (`timeouts_of_markedFrom`);
* `timeouts_of_new` : all of this in every run.
-/

namespace WorkerSlots

open SlotTable TableRun

/-- An event asks for the slot of an allocation to be given back, by itself or with all others. -/
def TableEvent.AsksBack (e : TableEvent) (a : AllocationId) : Prop :=
  (∃ cause, e = .operation (.free a cause)) ∨ e.Closes

variable {t t' u : SlotTable} {r start : TableRun} {now : Nat} {e : TableEvent} {actions : List SlotAction}
  {failures : List TaskFailure} {a b : AllocationId} {s s' s₀ : TaskSlot} {history events : List TableEvent}

namespace SlotTable

/-! ## How many timeouts an allocation has -/

/-- How many timeouts an allocation has registered. -/
def timeouts (t : SlotTable) (a : AllocationId) : Nat := t.timers.registrations.keys.count a

theorem timeouts_eq : t.timeouts a = if (t.registration? a).isSome then 1 else 0 := by
  unfold timeouts registration?
  rw [List.Nodup.count t.timers.registrations.nodup_keys]
  refine if_congr ?_ rfl rfl
  rw [SortedMap.mem_keys_iff, Option.isSome_iff_exists]

theorem timeouts_eq_one_iff : t.timeouts a = 1 ↔ ∃ reg, t.registration? a = some reg := by
  rw [timeouts_eq, ← Option.isSome_iff_exists]
  cases (t.registration? a).isSome <;> simp

theorem timeouts_eq_zero_iff : t.timeouts a = 0 ↔ t.registration? a = none := by
  rw [timeouts_eq]
  cases t.registration? a <;> simp

theorem timeouts_congr (h : t'.registration? a = t.registration? a) : t'.timeouts a = t.timeouts a := by
  rw [timeouts_eq, timeouts_eq, h]

/-! ## What an event does to the timeouts of slots to be given back -/

/-- A slot that is to be given back after an event, or that is left when the table closes, was there before and
has its timeout if it had one then. If it was not to be given back before, the event has asked for it. -/
structure KeepsTimeouts (t : SlotTable) (e : TableEvent) (t' : SlotTable) : Prop where
  kept : ∀ {a s'}, t'.slots.get? a = some s' → s'.state = .releasing ∨ e.Closes ∨ e.IsOfClosing →
    t'.timeouts a = t.timeouts a ∧ ∃ s, t.slots.get? a = some s ∧ s'.grant = s.grant ∧
      (s'.state = .releasing → s.state = .releasing ∨ e.AsksBack a)

theorem KeepsTimeouts.same (hs : t'.slots = t.slots) (ht : ∀ a, t'.timeouts a = t.timeouts a) :
    KeepsTimeouts t e t' := by
  refine ⟨fun {a s'} hlive _ => ?_⟩
  rw [hs] at hlive
  exact ⟨ht a, s', hlive, rfl, fun hstate => .inl hstate⟩

/-- A slot is replaced by another version, which is to be given back only if the slot was or is asked back. -/
theorem KeepsTimeouts.replace (hlive : t.slots.get? b = some s) (hs : t'.slots = t.slots.insert b s')
    (ht : t'.timers = t.timers) (hgrant : s'.grant = s.grant)
    (hasked : s'.state = .releasing → s.state = .releasing ∨ e.AsksBack b) : KeepsTimeouts t e t' := by
  refine ⟨fun {a x} hx _ => ?_⟩
  have htimeouts : t'.timeouts a = t.timeouts a := by
    unfold timeouts
    rw [ht]
  rw [hs, SortedMap.get?_insert] at hx
  split at hx
  · rename_i hab
    obtain rfl := Option.some.inj hx
    subst hab
    exact ⟨htimeouts, s, hlive, hgrant, hasked⟩
  · exact ⟨htimeouts, x, hx, rfl, fun hstate => .inl hstate⟩

/-- The slot of one allocation and its timeout change, and after that the slot is not to be given back. -/
theorem KeepsTimeouts.change (hs : ∀ a ≠ b, t'.slots.get? a = t.slots.get? a)
    (ht : ∀ a ≠ b, t'.registration? a = t.registration? a)
    (hb : ∀ s', t'.slots.get? b = some s' → s'.state ≠ .releasing ∧ ¬ e.Closes ∧ ¬ e.IsOfClosing) :
    KeepsTimeouts t e t' := by
  refine ⟨fun {a x} hx hor => ?_⟩
  by_cases hab : a = b
  · subst hab
    obtain ⟨hstate, hcloses, hclosing⟩ := hb x hx
    rcases hor with h | h | h <;> contradiction
  · rw [hs a hab] at hx
    exact ⟨timeouts_congr (ht a hab), x, hx, rfl, fun hstate => .inl hstate⟩

theorem registration?_unregister_of_ne {timers : Timers AllocationId} (hab : a ≠ b) :
    (timers.unregister b).registrations.get? a = timers.registrations.get? a := by
  show (timers.registrations.erase b).get? a = _
  rw [SortedMap.get?_erase, if_neg hab]

/-- An expired timeout stays registered. -/
theorem timeouts_deliver? {ticket : Ticket} {timers : Timers AllocationId}
    (h : t.timers.deliver? now b = some (ticket, timers)) (a : AllocationId) :
    SlotTable.timeouts { t with timers } a = t.timeouts a := by
  obtain ⟨reg, hreg, -, -, rfl⟩ := Timers.deliver?_eq_some h
  rw [timeouts_eq, timeouts_eq]
  unfold registration?
  show (if ((t.timers.registrations.insert b { reg with expired := true }).get? a).isSome then 1 else 0) = _
  rw [SortedMap.get?_insert]
  by_cases hab : a = b
  · rw [if_pos hab, hab, hreg]
    rfl
  · rw [if_neg hab]

theorem Step.keepsTimeouts (h : Step now t e actions failures t') : KeepsTimeouts t e t' := by
  cases h with
  | start hstate htimers =>
    obtain ⟨-, -, rfl⟩ := Timers.start_eq_ok htimers
    exact .same rfl fun _ => rfl
  | @grant request next budget ticket timers x hstate hfree hnext hbudget htimers hslot =>
    obtain ⟨-, -, -, -, hallocation, hallocated, -⟩ := TaskSlot.new?_eq_some hslot
    obtain rfl := Timers.register_eq_ok htimers
    refine .change (b := x.allocation) (fun a ha => ?_) (fun a ha => ?_) fun y hy => ?_
    · show (t.slots.insert x.allocation x).get? a = _
      rw [SortedMap.get?_insert, if_neg ha]
    · show (t.timers.registrations.insert request.allocation _).get? a = _
      rw [SortedMap.get?_insert, if_neg (hallocation ▸ ha)]
      rfl
    · change (t.slots.insert x.allocation x).get? x.allocation = some y at hy
      rw [SortedMap.get?_insert_self] at hy
      obtain rfl := Option.some.inj hy
      refine ⟨by rw [hallocated]; nofun, ?_, ?_⟩ <;> rintro (he | ⟨_, he⟩) <;> cases he
  | @activate _ x he hlive hallocated =>
    refine .change (b := x.allocation) (fun a ha => ?_) (fun a ha => registration?_unregister_of_ne ha)
      fun y hy => ?_
    · rw [SortedMap.get?_insert, if_neg ha]
    · rw [SortedMap.get?_insert_self] at hy
      obtain rfl := Option.some.inj hy
      rcases he with rfl | ⟨_, rfl⟩ <;> refine ⟨nofun, ?_, ?_⟩ <;> rintro (he | ⟨_, he⟩) <;> cases he
  | @deactivate x timeoutMs ticket timers hlive hactive htimers =>
    obtain rfl := Timers.register_eq_ok htimers
    refine .change (b := x.allocation) (fun a ha => ?_) (fun a ha => ?_) fun y hy => ?_
    · rw [SortedMap.get?_insert, if_neg ha]
    · show (t.timers.registrations.insert x.allocation _).get? a = _
      rw [SortedMap.get?_insert, if_neg ha]
      rfl
    · rw [SortedMap.get?_insert_self] at hy
      obtain rfl := Option.some.inj hy
      refine ⟨nofun, ?_, ?_⟩ <;> rintro (he | ⟨_, he⟩) <;> cases he
  | retire hlive =>
    refine .change (fun a ha => ?_) (fun a ha => registration?_unregister_of_ne ha) fun y hy => ?_
    · rw [SortedMap.get?_erase, if_neg ha]
    · rw [SortedMap.get?_erase_self] at hy
      cases hy
  | @drain x cause hlive =>
    exact .replace hlive rfl rfl (TaskSlot.SameGrant.close x now cause).grant
      fun _ => .inr (.inl ⟨cause, rfl⟩)
  | deactivateUntimed hlive => exact .replace hlive rfl rfl rfl nofun
  | bind hstate hlive => exact .replace hlive rfl rfl rfl fun hx => .inl hx
  | unbind hlive howner htask =>
    obtain ⟨-, rfl⟩ := TaskSlot.remove?_eq_some_iff.1 htask
    exact .replace hlive rfl rfl rfl fun hx => .inl hx
  | useLive hlive => exact .replace hlive rfl rfl rfl fun hx => .inl hx
  | expire htimers => exact .same rfl (timeouts_deliver? htimers)
  | notify | straggle | closeUnstarted | beginClose | awaitAll | teardown | finish | useRetired | cancel =>
    exact .same rfl fun _ => rfl

/-- Closing marks the slots one by one. -/
theorem KeepsTimeouts.then_closing {p : TableEvent} (h : KeepsTimeouts t e u) (he : e.Closes)
    (hp : p.IsOfClosing) (hclosing : KeepsTimeouts u p t') : KeepsTimeouts t e t' := by
  refine ⟨fun {a x} hx _ => ?_⟩
  obtain ⟨htimeouts, y, hy, hgrant, -⟩ := hclosing.kept hx (.inr (.inr hp))
  obtain ⟨htimeouts₀, z, hz, hgrant₀, -⟩ := h.kept hy (.inr (.inl he))
  exact ⟨htimeouts.trans htimeouts₀, z, hz, hgrant.trans hgrant₀, fun _ => .inr (.inr he)⟩

theorem keepsTimeouts_of_moves {r' : TableRun} (h : r.Moves e r') : KeepsTimeouts r.table e r'.table :=
  h.lift (R := fun t e t' => KeepsTimeouts t e t') (fun _ _ => .same rfl fun _ => rfl)
    (fun hstep => hstep.keepsTimeouts) fun he hp hu hv => hu.then_closing he hp hv

/-! ## Slots that are not claimed -/

theorem Covered.afterAll (h : r.table.Covered fun _ _ => True) (hsound : r.table.Sound)
    (hcancel : .happening .cancel ∉ events) : (r.afterAll events).table.Covered fun _ _ => True := by
  induction events generalizing r with
  | nil => exact h
  | cons e rest ih =>
    have he : e ≠ .happening .cancel := fun he => hcancel (he ▸ List.mem_cons_self)
    refine ih ?_ (hsound.after e).1 fun hrest => hcancel (List.mem_cons_of_mem _ hrest)
    have hmoves := after_moves hsound e
    generalize r.after e = r' at hmoves
    cases hmoves with
    | tick | take | leave => exact h
    | change hparts hsteps =>
      exact (hsteps.covered hparts hsound he h).mono fun _ _ _ => trivial

/-- A slot that is not to be given back is in a table that runs. -/
theorem Ending.running (h : t.Ending) (hsound : t.Sound) (hs : t.slots.get? a = some s)
    (hstate : s.state ≠ .releasing) : t.state = .running := by
  cases hst : t.state with
  | running => rfl
  | created => exact absurd hst (hsound.not_created hs)
  | closing => exact absurd (h.marked hst hs).1 hstate
  | closed =>
    rw [h.gone hst a] at hs
    cases hs

/-- As long as nobody has asked for a slot to be given back, it has a timeout if and only if it is not claimed. -/
theorem timeouts_of_live (hcovered : t.Covered fun _ _ => True) (hending : t.Ending) (hsound : t.Sound)
    (hactive : ∀ {a reg}, t.registration? a = some reg → ∃ s, t.slot? a = some s ∧ s.state ≠ .active)
    (hs : t.slots.get? a = some s) (hstate : s.state ≠ .releasing) :
    t.timeouts a = if s.state = .allocated then 1 else 0 := by
  cases hst : s.state with
  | releasing => exact absurd hst hstate
  | allocated =>
    obtain ⟨-, -, hslots⟩ := hcovered (hending.running hsound hs hstate)
    obtain ⟨reg, hreg, -⟩ := hslots a s hs hst
    exact timeouts_eq_one_iff.2 ⟨reg, hreg⟩
  | active =>
    refine timeouts_eq_zero_iff.2 ?_
    cases hreg : t.registration? a with
    | none => rfl
    | some reg =>
      obtain ⟨x, hx, hinactive⟩ := hactive hreg
      obtain rfl : s = x := Option.some.inj (hs.symm.trans hx)
      exact absurd hst hinactive

end SlotTable

namespace TableRun

/-! ## Slots to be given back -/

/-- Somebody asked for the slot of a grant in a run, when it was `s₀`, and it was marked as to be given back. -/
def MarkedFrom (start : TableRun) (history : List TableEvent) (a : AllocationId) (grant : Nat) (s₀ : TaskSlot) :
    Prop :=
  ∃ before e rest s₁, history = before ++ e :: rest ∧ e.AsksBack a ∧
    (start.afterAll before).table.slot? a = some s₀ ∧ s₀.grant = grant ∧ s₀.state ≠ .releasing ∧
    (start.afterAll (before ++ [e])).table.slot? a = some s₁ ∧ s₁.grant = grant ∧ s₁.state = .releasing

/-- A slot is to be given back only if somebody has asked for it. -/
theorem exists_markedFrom (hsound : start.table.Sound) (hfresh : ∀ a, start.table.slots.get? a = none)
    (hs : (start.afterAll history).table.slots.get? a = some s) (hstate : s.state = .releasing) :
    ∃ s₀, MarkedFrom start history a s.grant s₀ := by
  induction history using List.reverseRecOn generalizing s with
  | nil =>
    rw [afterAll_nil, hfresh] at hs
    cases hs
  | append_singleton history e ih =>
    have hmoves := after_moves (hsound.afterAll history).1 e
    rw [← afterAll_concat] at hmoves
    obtain ⟨-, x, hx, hgrant, hasked⟩ := (keepsTimeouts_of_moves hmoves).kept hs (.inl hstate)
    by_cases hreleasing : x.state = .releasing
    · obtain ⟨s₀, before, e', rest, s₁, rfl, hrest⟩ := ih hx hreleasing
      refine ⟨s₀, before, e', rest ++ [e], s₁, by rw [List.append_assoc, List.cons_append], ?_⟩
      rw [hgrant]
      exact hrest
    · exact ⟨x, history, e, [], s, rfl, (hasked hstate).resolve_left hreleasing, hx, hgrant.symm, hreleasing, hs,
        rfl, hstate⟩

/-- The timeout of a slot to be given back stays as it is, as long as the slot is there. -/
theorem timeouts_afterAll (hsound : r.table.Sound) (hgranted : r.table.Granted)
    (hs : r.table.slots.get? a = some s) (hstate : s.state = .releasing)
    (hs' : (r.afterAll events).table.slots.get? a = some s') (hgrant : s'.grant = s.grant) :
    (r.afterAll events).table.timeouts a = r.table.timeouts a := by
  induction events generalizing r s with
  | nil => rfl
  | cons e rest ih =>
    have hsound' := (hsound.after e).1
    have hgranted' := hgranted.after hsound e
    obtain ⟨x, hx, hlater⟩ | ⟨-, x, hx, -⟩ := (hgranted.passage hsound e).fate hs
    · have hreleasing := hlater.releasing hstate
      obtain ⟨hkept, -⟩ := (keepsTimeouts_of_moves (after_moves hsound e)).kept hx (.inl hreleasing)
      exact (ih hsound' hgranted' hx hreleasing hs' (hgrant.trans hlater.grant.symm)).trans hkept
    · -- a slot that has left the table does not come back
      obtain ⟨y, hy, -⟩ := hgranted'.stays_afterAll hsound' hx rest
      have hapart := (hgranted'.afterAll hsound' rest).apart hs'
      rw [hgrant, hy] at hapart
      cases hapart

/-- A slot to be given back has the timeout that it had when it was asked back. -/
theorem timeouts_of_markedFrom (hsound : start.table.Sound) (hgranted : start.table.Granted)
    (hlive : ∀ before rest, history = before ++ rest → ∀ s,
      (start.afterAll before).table.slots.get? a = some s → s.state ≠ .releasing →
        (start.afterAll before).table.timeouts a = if s.state = .allocated then 1 else 0)
    (hs : (start.afterAll history).table.slots.get? a = some s)
    (hmarked : MarkedFrom start history a s.grant s₀) :
    (start.afterAll history).table.timeouts a = if s₀.state = .allocated then 1 else 0 := by
  obtain ⟨before, e, rest, s₁, rfl, -, hs₀, hgrant₀, hstate₀, hs₁, hgrant₁, hstate₁⟩ := hmarked
  have hmoves := after_moves (hsound.afterAll before).1 e
  rw [← afterAll_concat] at hmoves
  have hmid : start.afterAll (before ++ e :: rest) = (start.afterAll (before ++ [e])).afterAll rest := by
    rw [← afterAll_append, List.append_assoc]
    rfl
  rw [hmid] at hs ⊢
  calc ((start.afterAll (before ++ [e])).afterAll rest).table.timeouts a
      = (start.afterAll (before ++ [e])).table.timeouts a :=
        timeouts_afterAll (hsound.afterAll _).1 (hgranted.afterAll hsound _) hs₁ hstate₁ hs hgrant₁.symm
    _ = (start.afterAll before).table.timeouts a := ((keepsTimeouts_of_moves hmoves).kept hs₁ (.inl hstate₁)).1
    _ = if s₀.state = .allocated then 1 else 0 := hlive before (e :: rest) rfl s₀ hs₀ hstate₀

/-! ## Every run -/

/-- The timeouts of a table are those of its live slots that are not claimed, and of those to be given back that
were not claimed when they were asked back. -/
structure TimeoutsByState (start : TableRun) (history : List TableEvent) : Prop where
  live : ∀ a ∈ (start.afterAll history).table.timers.registrations.keys,
    ∃ s, (start.afterAll history).table.slot? a = some s
  allocated : ∀ {a s}, (start.afterAll history).table.slot? a = some s → s.state = .allocated →
    (start.afterAll history).table.timeouts a = 1
  active : ∀ {a s}, (start.afterAll history).table.slot? a = some s → s.state = .active →
    (start.afterAll history).table.timeouts a = 0
  /-- There is a slot `s₀` as in `releasing`. -/
  marked : ∀ {a s}, (start.afterAll history).table.slot? a = some s → s.state = .releasing →
    ∃ s₀, MarkedFrom start history a s.grant s₀
  releasing : ∀ {a s s₀}, (start.afterAll history).table.slot? a = some s → s.state = .releasing →
    MarkedFrom start history a s.grant s₀ →
      (start.afterAll history).table.timeouts a = if s₀.state = .allocated then 1 else 0

/-- In every run in which nobody else stops the timers, the timeouts are those of live slots: one of each that
is not claimed, none of a claimed one, and one of each to be given back that was not claimed when it was asked
back. -/
theorem timeouts_of_new {config : TableConfig} {timers : Timers AllocationId} {table : SlotTable}
    (hnew : SlotTable.new config timers = .ok table) (hempty : timers.registrations = .empty)
    (listening : Bool) (history : List TableEvent) (hcancel : .happening .cancel ∉ history) :
    TimeoutsByState (TableRun.new table listening) history := by
  have hsound : (TableRun.new table listening).table.Sound := (Sound.new hnew).1
  have hgranted := Granted.new hnew
  have hnone : ∀ a, (TableRun.new table listening).table.registration? a = none := by
    intro a
    show table.timers.registrations.get? a = none
    rw [(of_new hnew).2, hempty]
    rfl
  have hlive : ∀ before rest, history = before ++ rest → ∀ a s,
      ((TableRun.new table listening).afterAll before).table.slots.get? a = some s → s.state ≠ .releasing →
        ((TableRun.new table listening).afterAll before).table.timeouts a =
          if s.state = .allocated then 1 else 0 := by
    rintro before rest rfl a s hs hstate
    have hcovered : table.Covered fun _ _ => True := .of_not_running (by rw [(of_new hnew).1]; nofun)
    refine timeouts_of_live (Covered.afterAll (r := .new table listening) hcovered hsound ?_)
      (Ending.afterAll (r := .new table listening) (.new hnew) hsound hgranted before)
      (Sound.ofNew hnew listening before).1 (fun hreg => ?_) hs hstate
    · exact fun hmem => hcancel (List.mem_append_left _ hmem)
    · exact (standing_of_registration hsound hnone hreg).exists_slot
  refine ⟨fun a ha => ?_, fun hs hstate => ?_, fun hs hstate => ?_, fun hs hstate => ?_,
    fun hs hstate hmarked => ?_⟩
  · obtain ⟨reg, hreg⟩ := SortedMap.mem_keys_iff.1 ha
    obtain ⟨s, hs, -⟩ := (standing_of_registration hsound hnone hreg).exists_slot
    exact ⟨s, hs⟩
  · rw [hlive history [] (List.append_nil _).symm _ _ hs (by rw [hstate]; nofun), if_pos hstate]
  · rw [hlive history [] (List.append_nil _).symm _ _ hs (by rw [hstate]; nofun), if_neg (by rw [hstate]; nofun)]
  · exact exists_markedFrom hsound (hsound.fresh (of_new hnew).1) hs hstate
  · exact timeouts_of_markedFrom hsound hgranted (fun before rest hsplit => hlive before rest hsplit _) hs hmarked

/-- Two slots with tasks are asked back. The one that its job had let go before keeps its timeout. -/
theorem timeouts_of_new_draining : ∃ table,
    SlotTable.new (.evenlyDivided 2 TableConfig.standardProfile) (.new 0) = .ok table ∧
    let history : List TableEvent :=
      [.operation .start, .operation (.allocate ⟨.fixed 0, ⟨0⟩, ⟨1⟩, none, 5⟩),
        .operation (.allocate ⟨.fixed 1, ⟨0⟩, ⟨2⟩, none, 5⟩), .operation (.markActive ⟨1⟩),
        .operation (.markActive ⟨2⟩), .operation (.addTask ⟨⟨7⟩, ⟨0⟩, ⟨1⟩⟩),
        .operation (.addTask ⟨⟨8⟩, ⟨0⟩, ⟨2⟩⟩), .operation (.markInactive ⟨1⟩ 5),
        .operation (.free ⟨1⟩ ""), .operation (.free ⟨2⟩ "")]
    let start := TableRun.new table true
    let t := (start.afterAll history).table
    (t.slot? ⟨1⟩).map (·.state) = some .releasing ∧ t.timeouts ⟨1⟩ = 1 ∧
      (t.slot? ⟨2⟩).map (·.state) = some .releasing ∧ t.timeouts ⟨2⟩ = 0 ∧ TimeoutsByState start history := by
  have hnew : SlotTable.new (.evenlyDivided 2 TableConfig.standardProfile) (.new 0) = .ok _ := rfl
  refine ⟨_, hnew, ?_⟩
  intro history start t
  have htimely : TimeoutsByState start history := timeouts_of_new hnew rfl true history (by simp [history])
  exact ⟨by decide, by decide, by decide, by decide, htimely⟩

end TableRun

end WorkerSlots
