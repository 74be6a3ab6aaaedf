import Mathlib.Data.List.Induction
import WorkerSlots.Proofs.Runs
import WorkerSlots.Proofs.Teardowns

/-!
# Slots from grant to grant

A slot is granted once, but an allocation may have one slot after the other. The number of the grant tells
them apart.

* `Granted` : no two slots have the same number, whether they are live or have left the table;
* `Granting` : an event grants a slot;
* `Passage` : what an event does to the slots. Every live slot was there before or has just been granted, and
  every slot that was live is still there or has left the table for good;
* `granted_or_carried`, `carried_or_retired` : the same for a whole run.
-/

namespace WorkerSlots

namespace SlotTable

/-! ## Numbers of grants -/

/-- The number of a grant is that of one slot only. Where there are slots, the table has an owner, and no
teardown has begun. -/
structure Granted (t : SlotTable) : Prop where
  issued : ∀ {a s}, t.slots.get? a = some s → s.grant < t.grants
  unshared : ∀ {a b s s'}, t.slots.get? a = some s → t.slots.get? b = some s' → s.grant = s'.grant → a = b
  retired : ∀ {g s}, t.retired.get? g = some s → s.grant = g ∧ g < t.grants
  apart : ∀ {a s}, t.slots.get? a = some s → t.retired.get? s.grant = none
  bound : ∀ {a s}, t.slots.get? a = some s → t.bound = true
  inUse : ∀ {a s}, t.slots.get? a = some s → s.InUse t.config.memoryReleaseGraceMs

/-- An event grants a slot. -/
structure Granting (t : SlotTable) (e : TableEvent) (t' : SlotTable) (s : TaskSlot) : Prop where
  event : ∃ request, e = .operation (.allocate request) ∧ s.allocation = request.allocation ∧
    s.index = t.requestedIndex request.index
  running : t.state = .running
  free : t.slots.get? s.allocation = none
  live : t'.slots.get? s.allocation = some s
  number : s.grant = t.grants
  grants : t'.grants = t.grants + 1
  state : s.state = .allocated
  inUse : s.InUse t.config.memoryReleaseGraceMs

/-- What an event does to the slots of a table. -/
structure Passage (now : Nat) (t : SlotTable) (e : TableEvent) (t' : SlotTable) : Prop where
  config : t'.config = t.config
  grants : t.grants ≤ t'.grants
  bound : t.bound = true → t'.bound = true
  /-- Where a live slot comes from. -/
  origin : ∀ {a s'}, t'.slots.get? a = some s' →
    (∃ s, t.slots.get? a = some s ∧ s.Later s') ∨ s'.allocation = a ∧ Granting t e t' s'
  /-- What becomes of a live slot. -/
  fate : ∀ {a s}, t.slots.get? a = some s →
    (∃ s', t'.slots.get? a = some s' ∧ s.Later s') ∨
      t'.slots.get? a = none ∧ ∃ s', t'.retired.get? s.grant = some s' ∧ s.SameGrant s'
  /-- Where a slot that has left the table comes from. -/
  source : ∀ {g s'}, t'.retired.get? g = some s' →
    (∃ s, t.retired.get? g = some s ∧ s.Aside now s') ∨
      ∃ a s, t.slots.get? a = some s ∧ s.grant = g ∧ s.Leaving now s' ∧ t'.slots.get? a = none
  stays : ∀ {g s}, t.retired.get? g = some s → ∃ s', t'.retired.get? g = some s' ∧ s.Aside now s'

variable {t t' u : SlotTable} {now : Nat} {e : TableEvent} {actions : List SlotAction}
  {failures : List TaskFailure}

theorem Passage.congr (hs : t'.slots = t.slots) (hr : t'.retired = t.retired)
    (hc : t'.config = t.config) (hg : t'.grants = t.grants) (hb : t.bound = true → t'.bound = true) :
    Passage now t e t' := by
  refine ⟨hc, Nat.le_of_eq hg.symm, hb, fun ha => ?_, fun ha => ?_, fun hr' => ?_, fun hr' => ?_⟩
  · rw [hs] at ha
    exact .inl ⟨_, ha, .refl _⟩
  · rw [← hs] at ha
    exact .inl ⟨_, ha, .refl _⟩
  · rw [hr] at hr'
    exact .inl ⟨_, hr', .refl now _⟩
  · rw [← hr] at hr'
    exact ⟨_, hr', .refl now _⟩

/-- A live slot is replaced by a later version of itself. -/
theorem Passage.replace {b : AllocationId} {s s' : TaskSlot} (hlive : t.slots.get? b = some s)
    (hlater : s.Later s') (hs : t'.slots = t.slots.insert b s') (hr : t'.retired = t.retired)
    (hc : t'.config = t.config) (hg : t'.grants = t.grants) (hb : t'.bound = t.bound) :
    Passage now t e t' := by
  refine ⟨hc, Nat.le_of_eq hg.symm, fun h => hb.trans h, fun {a x} ha => ?_, fun {a x} ha => ?_,
    fun hr' => ?_, fun hr' => ?_⟩
  · rw [hs, SortedMap.get?_insert] at ha
    split at ha
    · rename_i hab
      obtain rfl := Option.some.inj ha
      exact .inl ⟨s, hab ▸ hlive, hlater⟩
    · exact .inl ⟨x, ha, .refl x⟩
  · rw [hs, SortedMap.get?_insert]
    by_cases hab : a = b
    · rw [if_pos hab]
      rw [hab, hlive] at ha
      obtain rfl := Option.some.inj ha
      exact .inl ⟨s', rfl, hlater⟩
    · rw [if_neg hab]
      exact .inl ⟨x, ha, .refl x⟩
  · rw [hr] at hr'
    exact .inl ⟨_, hr', .refl now _⟩
  · rw [← hr] at hr'
    exact ⟨_, hr', .refl now _⟩

theorem Passage.grant {s : TaskSlot} (hgranting : Granting t e t' s)
    (hs : t'.slots = t.slots.insert s.allocation s) (hr : t'.retired = t.retired)
    (hc : t'.config = t.config) (hb : t'.bound = t.bound) : Passage now t e t' := by
  refine ⟨hc, ?_, fun h => hb.trans h, fun {a x} ha => ?_, fun {a x} ha => ?_, fun hr' => ?_, fun hr' => ?_⟩
  · have := hgranting.grants
    omega
  · rw [hs, SortedMap.get?_insert] at ha
    split at ha
    · rename_i hab
      obtain rfl := Option.some.inj ha
      exact .inr ⟨hab.symm, hgranting⟩
    · exact .inl ⟨x, ha, .refl x⟩
  · refine .inl ⟨x, ?_, .refl x⟩
    rw [hs, SortedMap.get?_insert, if_neg]
    · exact ha
    · rintro rfl
      rw [hgranting.free] at ha
      cases ha
  · rw [hr] at hr'
    exact .inl ⟨_, hr', .refl now _⟩
  · rw [← hr] at hr'
    exact ⟨_, hr', .refl now _⟩

/-- A slot leaves the table. No other has left it with the same number. -/
theorem Passage.retire (h : t.Granted) {b : AllocationId} {s s' : TaskSlot}
    (hlive : t.slots.get? b = some s) (hleaving : s.Leaving now s') (hs : t'.slots = t.slots.erase b)
    (hr : t'.retired = t.retired.insert s.grant s') (hc : t'.config = t.config)
    (hg : t'.grants = t.grants) (hb : t'.bound = t.bound) : Passage now t e t' := by
  have hgone : t'.slots.get? b = none := by rw [hs, SortedMap.get?_erase_self]
  refine ⟨hc, Nat.le_of_eq hg.symm, fun h => hb.trans h, fun {a x} ha => ?_, fun {a x} ha => ?_,
    fun {g x} hx => ?_, fun {g x} hx => ?_⟩
  · rw [hs, SortedMap.get?_erase] at ha
    split at ha
    · cases ha
    · exact .inl ⟨x, ha, .refl x⟩
  · by_cases hab : a = b
    · rw [hab, hlive] at ha
      obtain rfl := Option.some.inj ha
      exact .inr ⟨hab ▸ hgone, s', by rw [hr, SortedMap.get?_insert_self], hleaving.toSameGrant⟩
    · refine .inl ⟨x, ?_, .refl x⟩
      rw [hs, SortedMap.get?_erase, if_neg hab]
      exact ha
  · rw [hr, SortedMap.get?_insert] at hx
    split at hx
    · rename_i hgrant
      obtain rfl := Option.some.inj hx
      exact .inr ⟨b, s, hlive, hgrant.symm, hleaving, hgone⟩
    · exact .inl ⟨x, hx, .refl now x⟩
  · refine ⟨x, ?_, .refl now x⟩
    rw [hr, SortedMap.get?_insert, if_neg]
    · exact hx
    · rintro rfl
      rw [h.apart hlive] at hx
      cases hx

/-- A slot that has left the table goes on apart from it. -/
theorem Passage.settle {g : Nat} {s s' : TaskSlot} (hretired : t.retired.get? g = some s)
    (haside : s.Aside now s') (hs : t'.slots = t.slots) (hr : t'.retired = t.retired.insert g s')
    (hc : t'.config = t.config) (hg : t'.grants = t.grants) (hb : t'.bound = t.bound) :
    Passage now t e t' := by
  refine ⟨hc, Nat.le_of_eq hg.symm, fun h => hb.trans h, fun ha => ?_, fun ha => ?_, fun {k x} hx => ?_,
    fun {k x} hx => ?_⟩
  · rw [hs] at ha
    exact .inl ⟨_, ha, .refl _⟩
  · rw [← hs] at ha
    exact .inl ⟨_, ha, .refl _⟩
  · rw [hr, SortedMap.get?_insert] at hx
    split at hx
    · rename_i hk
      obtain rfl := Option.some.inj hx
      exact .inl ⟨s, hk ▸ hretired, haside⟩
    · exact .inl ⟨x, hx, .refl now x⟩
  · rw [hr, SortedMap.get?_insert]
    by_cases hk : k = g
    · rw [hk, hretired] at hx
      obtain rfl := Option.some.inj hx
      rw [if_pos hk]
      exact ⟨s', rfl, haside⟩
    · rw [if_neg hk]
      exact ⟨x, hx, .refl now x⟩

theorem Step.passage (h : Step now t e actions failures t') (hgranted : t.Granted) :
    Passage now t e t' := by
  cases h with
  | @grant request next budget ticket timers s hstate hfree hnext hbudget htimers hslot =>
    obtain ⟨hnumber, hindex, -, -, hallocation, hallocated, -⟩ := TaskSlot.new?_eq_some hslot
    rw [← hallocation] at hfree
    exact .grant (s := s) ⟨⟨request, rfl, hallocation, hindex⟩, hstate, hfree,
      SortedMap.get?_insert_self _ _ _, hnumber, rfl, hallocated, TaskSlot.inUse_of_new? hslot⟩
      rfl rfl rfl rfl
  | activate _ hlive hallocated =>
    exact .replace hlive (.state (by rw [hallocated]; nofun) _) rfl rfl rfl rfl rfl
  | deactivate hlive hactive =>
    exact .replace hlive (.state (by rw [hactive]; nofun) _) rfl rfl rfl rfl rfl
  | deactivateUntimed hlive hactive =>
    exact .replace hlive (.state (by rw [hactive]; nofun) _) rfl rfl rfl rfl rfl
  | retire hlive hempty => exact .retire hgranted hlive (.close hempty _ _) rfl rfl rfl rfl rfl
  | drain hlive hbusy => exact .replace hlive (.close hbusy _ _) rfl rfl rfl rfl rfl
  | bind hstate hlive hactive =>
    exact .replace hlive (.bind (by rw [hactive]; nofun) _) rfl rfl rfl rfl rfl
  | unbind hlive howner htask =>
    obtain ⟨-, rfl⟩ := TaskSlot.remove?_eq_some_iff.1 htask
    exact .replace hlive (.unbind _ _) rfl rfl rfl rfl rfl
  | useLive hlive => exact .replace hlive (.use _ _) rfl rfl rfl rfl rfl
  | teardown hretired => exact .settle hretired (.settle _ _) rfl rfl rfl rfl rfl
  | useRetired hretired => exact .settle hretired (.use _ _ _) rfl rfl rfl rfl rfl
  | start => exact .congr rfl rfl rfl rfl fun _ => rfl
  | notify => exact .congr rfl rfl rfl rfl id
  | closeUnstarted => exact .congr rfl rfl rfl rfl id
  | beginClose => exact .congr rfl rfl rfl rfl id
  | awaitAll => exact .congr rfl rfl rfl rfl id
  | expire => exact .congr rfl rfl rfl rfl id
  | straggle => exact .congr rfl rfl rfl rfl id
  | finish => exact .congr rfl rfl rfl rfl id
  | cancel => exact .congr rfl rfl rfl rfl id

/-! ## Events -/

/-- Closing a table grants no slot. -/
theorem Granting.not_closes {s : TaskSlot} (h : Granting t e t' s) : ¬ e.Closes := by
  obtain ⟨request, rfl, -⟩ := h.event
  rintro (he | ⟨order, he⟩) <;> cases he

theorem Granting.not_isOfClosing {s : TaskSlot} (h : Granting t e t' s) : ¬ e.IsOfClosing := by
  obtain ⟨request, rfl, -⟩ := h.event
  rintro (he | ⟨a, he⟩) <;> cases he

theorem Passage.then_closing {p : TableEvent} (h : Passage now t e u) (he : e.Closes) (hp : p.IsOfClosing)
    (hclosing : Passage now u p t') : Passage now t e t' := by
  refine ⟨hclosing.config.trans h.config, Nat.le_trans h.grants hclosing.grants, fun hb => hclosing.bound (h.bound hb),
    fun {a x} hx => ?_, fun {a x} hx => ?_, fun {g x} hx => ?_, fun {g x} hx => ?_⟩
  · obtain ⟨y, hy, hyx⟩ | ⟨-, hgranting⟩ := hclosing.origin hx
    · obtain ⟨z, hz, hzy⟩ | ⟨-, hgranting⟩ := h.origin hy
      · exact .inl ⟨z, hz, hzy.trans hyx⟩
      · exact absurd he hgranting.not_closes
    · exact absurd hp hgranting.not_isOfClosing
  · obtain ⟨y, hy, hxy⟩ | ⟨hgone, y, hy, hxy⟩ := h.fate hx
    · obtain ⟨z, hz, hyz⟩ | ⟨hgone, z, hz, hyz⟩ := hclosing.fate hy
      · exact .inl ⟨z, hz, hxy.trans hyz⟩
      · rw [hxy.grant] at hz
        exact .inr ⟨hgone, z, hz, hxy.toSameGrant.trans hyz⟩
    · -- a slot that has left the table does not come back
      obtain ⟨z, hz, hyz⟩ := hclosing.stays hy
      refine .inr ⟨?_, z, hz, hxy.trans hyz.toSameGrant⟩
      cases hlive : t'.slots.get? a with
      | none => rfl
      | some w =>
        obtain ⟨v, hv, -⟩ | ⟨-, hgranting⟩ := hclosing.origin hlive
        · rw [hgone] at hv
          cases hv
        · exact absurd hp hgranting.not_isOfClosing
  · obtain ⟨y, hy, hyx⟩ | ⟨a, y, hy, hgrant, hyx, hgone⟩ := hclosing.source hx
    · obtain ⟨z, hz, hzy⟩ | ⟨a, z, hz, hgrant, hzy, hgone⟩ := h.source hy
      · exact .inl ⟨z, hz, hzy.trans hyx⟩
      · refine .inr ⟨a, z, hz, hgrant, hzy.then_aside hyx, ?_⟩
        cases hlive : t'.slots.get? a with
        | none => rfl
        | some w =>
          obtain ⟨v, hv, -⟩ | ⟨-, hgranting⟩ := hclosing.origin hlive
          · rw [hgone] at hv
            cases hv
          · exact absurd hp hgranting.not_isOfClosing
    · obtain ⟨z, hz, hzy⟩ | ⟨-, hgranting⟩ := h.origin hy
      · exact .inr ⟨a, z, hz, hzy.grant.symm.trans hgrant, hyx.of_later hzy, hgone⟩
      · exact absurd he hgranting.not_closes
  · obtain ⟨y, hy, hxy⟩ := h.stays hx
    obtain ⟨z, hz, hyz⟩ := hclosing.stays hy
    exact ⟨z, hz, hxy.trans hyz⟩

/-- The number of a new grant is that of no earlier one. -/
theorem Granted.of_passage (h : t.Granted) (hsound : t.Sound) (hpassage : Passage now t e t') : t'.Granted := by
  have hle := hpassage.grants
  refine ⟨fun {a s} hs => ?_, fun {a b s s'} hs hs' heq => ?_, fun {g s} hs => ?_, fun {a s} hs => ?_,
    fun {a s} hs => ?_, fun {a s} hs => ?_⟩
  · obtain ⟨x, hx, hxs⟩ | ⟨-, hgranting⟩ := hpassage.origin hs
    · rw [hxs.grant]
      exact Nat.lt_of_lt_of_le (h.issued hx) hle
    · rw [hgranting.number, hgranting.grants]
      exact Nat.lt_succ_self _
  · obtain ⟨x, hx, hxs⟩ | ⟨rfl, hgranting⟩ := hpassage.origin hs <;>
      obtain ⟨y, hy, hys⟩ | ⟨rfl, hgranting'⟩ := hpassage.origin hs'
    · rw [hxs.grant, hys.grant] at heq
      exact h.unshared hx hy heq
    · have hlt := h.issued hx
      rw [← hxs.grant, heq, hgranting'.number] at hlt
      exact absurd hlt (Nat.lt_irrefl _)
    · have hlt := h.issued hy
      rw [← hys.grant, ← heq, hgranting.number] at hlt
      exact absurd hlt (Nat.lt_irrefl _)
    · obtain ⟨request, rfl, ha, -⟩ := hgranting.event
      obtain ⟨request', he, hb, -⟩ := hgranting'.event
      cases he
      rw [ha, hb]
  · obtain ⟨x, hx, hxs⟩ | ⟨a, x, hx, rfl, hxs, -⟩ := hpassage.source hs
    · obtain ⟨hgrant, hlt⟩ := h.retired hx
      exact ⟨hxs.grant.trans hgrant, Nat.lt_of_lt_of_le hlt hle⟩
    · exact ⟨hxs.grant, Nat.lt_of_lt_of_le (h.issued hx) hle⟩
  · cases hretired : t'.retired.get? s.grant with
    | none => rfl
    | some r =>
      obtain ⟨x, hx, hxs⟩ | ⟨-, hgranting⟩ := hpassage.origin hs <;>
        obtain ⟨y, hy, -⟩ | ⟨b, y, hy, hgrant, -, hgone⟩ := hpassage.source hretired
      · rw [hxs.grant, h.apart hx] at hy
        cases hy
      · rw [hxs.grant] at hgrant
        rw [h.unshared hy hx hgrant] at hgone
        rw [hgone] at hs
        cases hs
      · have hlt := (h.retired hy).2
        rw [hgranting.number] at hlt
        exact absurd hlt (Nat.lt_irrefl _)
      · have hlt := h.issued hy
        rw [hgrant, hgranting.number] at hlt
        exact absurd hlt (Nat.lt_irrefl _)
  · obtain ⟨x, hx, -⟩ | ⟨-, hgranting⟩ := hpassage.origin hs
    · exact hpassage.bound (h.bound hx)
    · exact hpassage.bound (hsound.bound hgranting.running)
  · rw [hpassage.config]
    obtain ⟨x, hx, hxs⟩ | ⟨-, hgranting⟩ := hpassage.origin hs
    · exact hxs.inUse (h.inUse hx)
    · exact hgranting.inUse

theorem passage_of_moves {r r' : TableRun} (h : r.Moves e r') (hsound : r.table.Sound)
    (hgranted : r.table.Granted) : Passage r.now r.table e r'.table := by
  have hall := h.lift (R := fun t e t' => t.Sound → t.Granted →
      t'.Sound ∧ t'.Granted ∧ Passage r.now t e t')
    (fun t e hs hg => ⟨hs, hg, .congr rfl rfl rfl rfl id⟩)
    (fun hstep hs hg => by
      have hpassage := hstep.passage hg
      exact ⟨hs.step hstep, hg.of_passage hs hpassage, hpassage⟩)
    (fun he hp hu hv hs hg => by
      obtain ⟨hus, hug, hupassage⟩ := hu hs hg
      obtain ⟨hvs, hvg, hvpassage⟩ := hv hus hug
      exact ⟨hvs, hvg, hupassage.then_closing he hp hvpassage⟩)
  exact (hall hsound hgranted).2.2

/-! ## Runs -/

section Runs

variable {r : TableRun} {a : AllocationId} {s s' : TaskSlot}

theorem Granted.passage (h : r.table.Granted) (hsound : r.table.Sound) (e : TableEvent) :
    Passage r.now r.table e (r.after e).table :=
  passage_of_moves (TableRun.after_moves hsound e) hsound h

theorem Granted.after (h : r.table.Granted) (hsound : r.table.Sound) (e : TableEvent) :
    (r.after e).table.Granted :=
  h.of_passage hsound (h.passage hsound e)

theorem Granted.afterAll (h : r.table.Granted) (hsound : r.table.Sound) (events : List TableEvent) :
    (r.afterAll events).table.Granted :=
  (TableRun.afterAll_keeps (P := fun r => r.table.Sound ∧ r.table.Granted)
    (fun _ e h => ⟨(h.1.after e).1, h.2.after h.1 e⟩) ⟨hsound, h⟩ events).2

theorem Granted.bound_afterAll (h : r.table.Granted) (hsound : r.table.Sound)
    (hbound : r.table.bound = true) (events : List TableEvent) :
    (r.afterAll events).table.bound = true := by
  induction events generalizing r with
  | nil => exact hbound
  | cons e rest ih =>
    exact ih (h.after hsound e) (hsound.after e).1 ((h.passage hsound e).bound hbound)

/-- A slot that has left the table stays where it is. -/
theorem Granted.stays_afterAll (h : r.table.Granted) (hsound : r.table.Sound) {g : Nat}
    (hs : r.table.retired.get? g = some s) (events : List TableEvent) :
    ∃ s', (r.afterAll events).table.retired.get? g = some s' ∧ s.SameGrant s' := by
  induction events generalizing r s with
  | nil => exact ⟨s, hs, .refl s⟩
  | cons e rest ih =>
    obtain ⟨x, hx, hsx⟩ := (h.passage hsound e).stays hs
    obtain ⟨y, hy, hxy⟩ := ih (h.after hsound e) (hsound.after e).1 hx
    exact ⟨y, hy, hsx.toSameGrant.trans hxy⟩

/-- A live slot is live later on, or has left the table for good. -/
theorem Granted.carried_or_retired (h : r.table.Granted) (hsound : r.table.Sound)
    (hs : r.table.slots.get? a = some s) (events : List TableEvent) :
    (∃ s', (r.afterAll events).table.slots.get? a = some s' ∧ s.Later s') ∨
      ∃ s', (r.afterAll events).table.retired.get? s.grant = some s' ∧ s.SameGrant s' := by
  induction events generalizing r s with
  | nil => exact .inl ⟨s, hs, .refl s⟩
  | cons e rest ih =>
    have hgranted := h.after hsound e
    have hsound' := (hsound.after e).1
    obtain ⟨x, hx, hsx⟩ | ⟨-, x, hx, hsx⟩ := (h.passage hsound e).fate hs
    · obtain ⟨y, hy, hxy⟩ | ⟨y, hy, hxy⟩ := ih hgranted hsound' hx
      · exact .inl ⟨y, hy, hsx.trans hxy⟩
      · rw [hsx.grant] at hy
        exact .inr ⟨y, hy, hsx.toSameGrant.trans hxy⟩
    · obtain ⟨y, hy, hxy⟩ := hgranted.stays_afterAll hsound' hx rest
      exact .inr ⟨y, hy, hsx.trans hxy⟩

/-- A live slot was there at the beginning of a run, or has been granted in the run. -/
theorem Granted.granted_or_carried (h : r.table.Granted) (hsound : r.table.Sound)
    {events : List TableEvent} (hs : (r.afterAll events).table.slots.get? a = some s') :
    (∃ s, r.table.slots.get? a = some s ∧ s.Later s') ∨
      ∃ before e rest s, events = before ++ e :: rest ∧ s.allocation = a ∧ s.Later s' ∧
        Granting (r.afterAll before).table e (r.afterAll (before ++ [e])).table s := by
  induction events using List.reverseRecOn generalizing s' with
  | nil => exact .inl ⟨s', hs, .refl s'⟩
  | append_singleton events e ih =>
    have hpassage := (h.afterAll hsound events).passage (hsound.afterAll events).1 e
    rw [TableRun.afterAll_concat] at hs
    obtain ⟨x, hx, hxs⟩ | ⟨ha, hgranting⟩ := hpassage.origin hs
    · obtain ⟨y, hy, hyx⟩ | ⟨before, e', rest, y, rfl, ha, hyx, hgranting⟩ := ih hx
      · exact .inl ⟨y, hy, hyx.trans hxs⟩
      · refine .inr ⟨before, e', rest ++ [e], y, ?_, ha, hyx.trans hxs, hgranting⟩
        rw [List.append_assoc, List.cons_append]
    · refine .inr ⟨events, e, [], s', rfl, ha, .refl s', ?_⟩
      rw [TableRun.afterAll_concat]
      exact hgranting

end Runs

/-- A table just created has no slots. -/
theorem Granted.new {config : TableConfig} {timers : Timers AllocationId} {table : SlotTable}
    (h : SlotTable.new config timers = .ok table) : table.Granted := by
  obtain rfl := eq_of_new h
  exact ⟨nofun, nofun, nofun, nofun, nofun, nofun⟩

end SlotTable

end WorkerSlots
