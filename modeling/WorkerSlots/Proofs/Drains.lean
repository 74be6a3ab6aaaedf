import WorkerSlots.Proofs.Grants
import WorkerSlots.Proofs.Timeouts

/-!
# The last task of a slot

A slot that is asked back while it has tasks stays in the table until the last of them has gone. Then the
owner is asked to finish it.

* `TaskSlot.IsDrained` : a slot that waits for this; `Drains` : an event brings it about;
* `Draining` : nothing else does, and for nothing else is the owner asked to finish a slot;
* `asked_of_drains`, `free_mem_askedBy_iff` : the owner is asked for it at once, and for nothing else;
* `fate_of_drains`, `grant_ne_of_drains` : the slot stays drained until it leaves the table, so that the owner
  is asked once for each slot;
* `exists_drains_waiting`, `exists_drains_of_queued` : every drained slot, and every such action that waits, is
  from an event of the run. The place of the action in the queue tells what the owner has taken up since.
-/

namespace WorkerSlots

/-- A slot that is to be given back and has no tasks. -/
def TaskSlot.IsDrained (s : TaskSlot) : Prop := s.state = .releasing ∧ s.isEmpty = true

theorem TaskSlot.Later.isDrained {s s' : TaskSlot} (h : s.Later s') (hs : s.IsDrained) : s'.IsDrained :=
  ⟨h.releasing hs.1, h.isEmpty hs.1 hs.2⟩

def TableEvent.isTake : TableEvent → Bool
  | take => true
  | _ => false

/-- How often the owner takes an action up. -/
def takes (events : List TableEvent) : Nat := events.countP TableEvent.isTake

open SlotTable TableRun

namespace SlotTable

/-- An event takes the last task out of a slot that is to be given back. -/
structure Drains (t : SlotTable) (e : TableEvent) (s : TaskSlot) : Prop where
  live : t.slots.get? s.allocation = some s
  releasing : s.state = .releasing
  last : ∃ x task, e = .operation (.removeTask x) ∧ t.taskOwners.get? x = some s.allocation ∧
    s.tasks.get? x = some task ∧ ∀ y ≠ x, s.tasks.get? y = none

/-- What an event has to do with drained slots. -/
structure Draining (t : SlotTable) (e : TableEvent) (actions : List SlotAction) (t' : SlotTable) :
    Prop where
  asked : ∀ {a}, .free a ∈ actions → ∃ s, s.allocation = a ∧ Drains t e s ∧ actions = [.free a]
  origin : ∀ {a s'}, t'.slots.get? a = some s' → s'.IsDrained →
    (∃ s, t.slots.get? a = some s ∧ s.IsDrained ∧ s.Later s') ∨
      ∃ s, s.allocation = a ∧ Drains t e s ∧ s.Later s' ∧ actions = [.free a]

variable {t t' : SlotTable} {now : Nat} {e : TableEvent} {actions : List SlotAction}
  {failures : List TaskFailure} {a : AllocationId} {s s' : TaskSlot}

theorem Drains.not_isOfClosing (h : Drains t e s) : ¬ e.IsOfClosing := by
  obtain ⟨x, task, rfl, -⟩ := h.last
  rintro (he | ⟨b, he⟩) <;> cases he

theorem isEmpty_erase_iff {x : ExecutionId} :
    (s.tasks.erase x).isEmpty = true ↔ ∀ y ≠ x, s.tasks.get? y = none := by
  rw [SortedMap.isEmpty_iff]
  refine forall_congr' fun y => ?_
  rw [SortedMap.get?_erase]
  by_cases hy : y = x
  · rw [if_pos hy]
    exact iff_of_true rfl fun hne => absurd hy hne
  · rw [if_neg hy]
    exact ⟨fun h _ => h, fun h => h hy⟩

theorem Step.drains_of_free (h : Step now t e actions failures t') (hmem : .free a ∈ actions) :
    ∃ s, s.allocation = a ∧ Drains t e s ∧ actions = [.free a] := by
  cases h with
  | @unbind s s' x task hlive howner htask =>
    obtain ⟨hheld, rfl⟩ := TaskSlot.remove?_eq_some_iff.1 htask
    split at hmem
    · rename_i hlast
      obtain rfl := SlotAction.free.inj (List.mem_singleton.1 hmem)
      refine ⟨s, rfl, ?_, if_pos hlast⟩
      rw [Bool.and_eq_true, Bool.and_eq_true] at hlast
      exact ⟨hlive, of_decide_eq_true hlast.1.1, x, task, rfl, howner, hheld,
        isEmpty_erase_iff.1 hlast.1.2⟩
    · cases hmem
  | notify | expire | straggle => cases mem_timeoutActions hmem
  | start | grant | activate | deactivate | deactivateUntimed | retire | drain | bind | closeUnstarted
  | beginClose | awaitAll | teardown | finish | useLive | useRetired | cancel => cases hmem

/-- Where slots are, the table has an owner. -/
def Owned (t : SlotTable) : Prop := ∀ {a s}, t.slots.get? a = some s → t.bound = true

theorem Step.drained (h : Step now t e actions failures t') (hbound : e.IsOfClosing ∨ t.Owned)
    (hs : t'.slots.get? a = some s') (hdrained : s'.IsDrained) :
    (∃ s, t.slots.get? a = some s ∧ s.IsDrained ∧ s.Later s') ∨
      ∃ s, s.allocation = a ∧ Drains t e s ∧ s.Later s' ∧ actions = [.free a] := by
  have hsame : t.slots.get? a = some s' →
      ∃ s, t.slots.get? a = some s ∧ s.IsDrained ∧ s.Later s' := fun hs => ⟨s', hs, hdrained, .refl s'⟩
  -- a slot that is put in place of another, unless it is this one
  have hput : ∀ {b x}, (t.slots.insert b x).get? a = some s' → a = b ∧ s' = x ∨ t.slots.get? a = some s' := by
    intro b x hs
    rw [SortedMap.get?_insert] at hs
    split at hs
    · rename_i hab
      exact .inl ⟨hab, (Option.some.inj hs).symm⟩
    · exact .inr hs
  cases h with
  | @grant request next budget ticket timers s hstate hfree hnext hbudget htimers hslot =>
    obtain ⟨-, rfl⟩ | hs := hput hs
    · have hallocated := (TaskSlot.new?_eq_some hslot).2.2.2.2.2.1
      rw [hdrained.1] at hallocated
      cases hallocated
    · exact .inl (hsame hs)
  | activate | deactivate | deactivateUntimed =>
    obtain ⟨-, rfl⟩ | hs := hput hs
    · cases hdrained.1
    · exact .inl (hsame hs)
  | bind hstate hlive hactive =>
    obtain ⟨-, rfl⟩ | hs := hput hs
    · cases hactive.symm.trans hdrained.1
    · exact .inl (hsame hs)
  | retire =>
    rw [SortedMap.get?_erase] at hs
    split at hs
    · cases hs
    · exact .inl (hsame hs)
  | drain hlive hbusy =>
    obtain ⟨-, rfl⟩ | hs := hput hs
    · have hempty := hdrained.2
      rw [TaskSlot.close_isEmpty, hbusy] at hempty
      cases hempty
    · exact .inl (hsame hs)
  | @unbind s _ x task hlive howner htask =>
    obtain ⟨hheld, rfl⟩ := TaskSlot.remove?_eq_some_iff.1 htask
    obtain ⟨rfl, rfl⟩ | hs := hput hs
    · obtain hclosing | hbound := hbound
      · rcases hclosing with he | ⟨b, he⟩ <;> cases he
      · refine .inr ⟨s, rfl, ⟨hlive, hdrained.1, x, task, rfl, howner, hheld,
          isEmpty_erase_iff.1 hdrained.2⟩, .unbind s x, if_pos ?_⟩
        rw [hbound hlive, hdrained.2, Bool.and_true, Bool.and_true]
        exact decide_eq_true hdrained.1
    · exact .inl (hsame hs)
  | @useLive s use hlive =>
    obtain ⟨rfl, rfl⟩ | hs := hput hs
    · exact .inl ⟨s, hlive, hdrained, .use s use⟩
    · exact .inl (hsame hs)
  | start | notify | closeUnstarted | beginClose | awaitAll | expire | straggle | teardown | finish
  | useRetired | cancel => exact .inl (hsame hs)

theorem Steps.draining {parts : List TableEvent} (h : Steps now t parts actions failures t')
    (hparts : e.Parts parts) (hbound : t.Owned) : Draining t e actions t' := by
  have hall := h.lift (R := fun t e actions t' => (e.IsOfClosing → actions = []) ∧
      (e.IsOfClosing ∨ t.Owned → Draining t e actions t')) hparts
    (fun t e => ⟨fun _ => rfl, fun _ => ⟨nofun, fun hs hd => .inl ⟨_, hs, hd, .refl _⟩⟩⟩)
    (fun hstep => ⟨hstep.actions_of_closing, fun hbound => ⟨hstep.drains_of_free, hstep.drained hbound⟩⟩)
    (fun {t u v e p as bs} _ hp hu hv => by
      rw [hv.1 hp, List.append_nil]
      refine ⟨hu.1, fun hbound => ⟨(hu.2 hbound).asked, fun hs hd => ?_⟩⟩
      obtain ⟨y, hy, hyd, hys⟩ | ⟨y, -, hdrains, -⟩ := (hv.2 (.inl hp)).origin hs hd
      · obtain ⟨x, hx, hxd, hxy⟩ | ⟨x, ha, hdrains, hxy, hactions⟩ := (hu.2 hbound).origin hy hyd
        · exact .inl ⟨x, hx, hxd, hxy.trans hys⟩
        · exact .inr ⟨x, ha, hdrains, hxy.trans hys, hactions⟩
      · exact absurd hp hdrains.not_isOfClosing)
  exact hall.2 (.inr hbound)

/-- What comes of taking the last task out of a slot that is to be given back. -/
theorem Drains.removeTask (h : Drains t e s) (hsound : t.Sound) (hbound : t.bound = true) :
    ∃ x task, e = .operation (.removeTask x) ∧ t.removeTask x =
      ⟨.ok (some task), { t with
        slots := t.slots.insert s.allocation { s with tasks := s.tasks.erase x }
        taskOwners := t.taskOwners.erase x }, [.free s.allocation], []⟩ := by
  obtain ⟨x, task, rfl, howner, htask, honly⟩ := h.last
  refine ⟨x, task, rfl, ?_⟩
  have hstarted : t.state.isStarted = true := decide_eq_true (hsound.not_created h.live)
  have hempty : (s.tasks.erase x).isEmpty = true := isEmpty_erase_iff.2 honly
  have hlast : (({ s with tasks := s.tasks.erase x } : TaskSlot).isReleasing &&
      ({ s with tasks := s.tasks.erase x } : TaskSlot).isEmpty && t.bound) = true := by
    rw [hbound, Bool.and_true, Bool.and_eq_true]
    exact ⟨decide_eq_true h.releasing, hempty⟩
  unfold SlotTable.removeTask whenStarted
  simp only [hstarted, howner, h.live, TaskSlot.remove?_eq_some_iff.2 ⟨htask, rfl⟩, hlast, ↓reduceIte]

end SlotTable

namespace TableRun

variable {r start : TableRun} {e : TableEvent} {events history : List TableEvent} {a : AllocationId}
  {s : TaskSlot}

/-! ## One event -/

/-- What an event asks of the owner, whether or not the owner listens. -/
def askedBy (r : TableRun) (e : TableEvent) : List SlotAction :=
  ((({ r with listening := true } : TableRun).after e).asked.drop r.asked.length).map (·.action)

theorem after_table_of_listening (r : TableRun) (listening : Bool) (e : TableEvent) :
    (({ r with listening } : TableRun).after e).table = (r.after e).table := by
  cases e with
  | operation | take | leave => rfl
  | closing order =>
    unfold TableRun.after
    dsimp only
    split <;> rfl
  | happening happening =>
    cases happening with
    | memory grant use =>
      unfold TableRun.after undergo TableRun.onMemory
      dsimp only
      cases r.table.onMemory grant fun m => ((), use.run m) <;> rfl
    | tick | expiry | straggler | teardown | finish | cancel => rfl

/-- What an owner that listens is asked for is put at the end of its queue. -/
theorem draining_of_listening (hsound : r.table.Sound) (hgranted : r.table.Granted)
    (hchannel : e.isChannel = false) (hlistening : r.listening = true) :
    Draining r.table e (r.askedBy e) (r.after e).table ∧ (r.after e).listening = true ∧
      (r.after e).queue = r.queue ++ r.askedBy e := by
  have hmoves := after_moves hsound e
  have hsame : ({ r with listening := true } : TableRun) = r := by rw [← hlistening]
  unfold askedBy
  rw [hsame]
  generalize r.after e = r' at hmoves ⊢
  cases hmoves with
  | tick ms =>
    rw [List.drop_length]
    exact ⟨⟨nofun, fun hs hd => .inl ⟨_, hs, hd, .refl _⟩⟩, hlistening, (List.append_nil _).symm⟩
  | take => cases hchannel
  | leave => cases hchannel
  | @change _ parts actions failures table hparts hsteps =>
    have hactions : ((r.absorb ⟨.ok PUnit.unit, table, actions, failures⟩).asked.drop
        r.asked.length).map (·.action) = actions := by
      unfold absorb
      dsimp only
      rw [if_pos hlistening, List.drop_left, List.map_map]
      exact List.map_id _
    rw [hactions]
    refine ⟨hsteps.draining hparts hgranted.bound, hlistening, ?_⟩
    unfold absorb
    dsimp only
    rw [if_pos hlistening]

/-- The queue of an owner that does not listen stays as it is. -/
theorem queue_of_not_listening (hsound : r.table.Sound) (hchannel : e.isChannel = false)
    (hlistening : r.listening = false) :
    (r.after e).listening = false ∧ (r.after e).queue = r.queue := by
  have hmoves := after_moves hsound e
  generalize r.after e = r' at hmoves ⊢
  cases hmoves with
  | tick ms => exact ⟨hlistening, rfl⟩
  | take => cases hchannel
  | leave => cases hchannel
  | change =>
    unfold absorb
    dsimp only
    rw [hlistening]
    exact ⟨rfl, List.append_nil _⟩

/-- What an event has to do with drained slots, and what is put at the end of the queue. -/
theorem draining_of_after (hsound : r.table.Sound) (hgranted : r.table.Granted)
    (hchannel : e.isChannel = false) : Draining r.table e (r.askedBy e) (r.after e).table ∧
      (r.after e).listening = r.listening ∧
      (r.after e).queue = r.queue ++ (if r.listening then r.askedBy e else []) := by
  -- the table does not depend on whether the owner listens
  have hdraining := (draining_of_listening (r := { r with listening := true }) hsound hgranted hchannel rfl).1
  rw [after_table_of_listening] at hdraining
  refine ⟨hdraining, ?_⟩
  cases hlistening : r.listening with
  | true => exact (draining_of_listening hsound hgranted hchannel hlistening).2
  | false =>
    obtain ⟨hstill, hqueue⟩ := queue_of_not_listening hsound hchannel hlistening
    exact ⟨hstill, hqueue.trans (List.append_nil _).symm⟩

theorem table_of_isChannel (r : TableRun) (h : e.isChannel = true) : (r.after e).table = r.table := by
  cases e with
  | take | leave => rfl
  | operation | closing | happening => cases h

/-- The owner is asked to finish a slot when its last task goes, and the slot is drained then. -/
theorem asked_of_drains (h : Drains r.table e s) (hsound : r.table.Sound) (hgranted : r.table.Granted) :
    (∃ s', (r.after e).table.slots.get? s.allocation = some s' ∧ s.Later s' ∧ s'.IsDrained) ∧
      r.askedBy e = [.free s.allocation] := by
  have hbound := hgranted.bound h.live
  have honly := h.last
  obtain ⟨x, task, rfl, heq⟩ := h.removeTask hsound hbound
  obtain ⟨_, _, hx, -, -, honly⟩ := honly
  obtain rfl := TableOperation.removeTask.inj (TableEvent.operation.inj hx)
  have hafter : r.after (.operation (.removeTask x)) = r.absorb (r.table.removeTask x) := rfl
  rw [hafter, heq]
  unfold askedBy
  refine ⟨⟨_, SortedMap.get?_insert_self _ _ _, .unbind s x, h.releasing, isEmpty_erase_iff.2 honly⟩, ?_⟩
  have hlistened : ({ r with listening := true } : TableRun).after (.operation (.removeTask x)) =
      ({ r with listening := true } : TableRun).absorb (r.table.removeTask x) := rfl
  rw [hlistened, heq]
  unfold absorb
  dsimp only
  rw [if_pos rfl, List.drop_left]
  rfl

/-- The owner is asked to finish a slot for this only. -/
theorem free_mem_askedBy_iff (hsound : r.table.Sound) (hgranted : r.table.Granted) :
    .free a ∈ r.askedBy e ↔ ∃ s, s.allocation = a ∧ Drains r.table e s := by
  constructor
  · intro hmem
    cases hchannel : e.isChannel with
    | true =>
      have hnone : r.askedBy e = [] := by
        unfold askedBy
        cases e with
        | take | leave => exact congrArg _ (List.drop_length ..)
        | operation | closing | happening => cases hchannel
      rw [hnone] at hmem
      cases hmem
    | false =>
      obtain ⟨s, ha, hdrains, -⟩ := (draining_of_after hsound hgranted hchannel).1.asked hmem
      exact ⟨s, ha, hdrains⟩
  · rintro ⟨s, rfl, hdrains⟩
    rw [(asked_of_drains hdrains hsound hgranted).2]
    exact List.mem_singleton_self _

/-! ## Runs -/

/-- A drained slot stays drained, or leaves the table. -/
theorem fate_of_drains {d : TaskSlot} (h : Drains r.table e d) (hsound : r.table.Sound)
    (hgranted : r.table.Granted) (events : List TableEvent) :
    (∃ s, ((r.after e).afterAll events).table.slots.get? d.allocation = some s ∧ d.Later s ∧ s.IsDrained) ∨
      ∃ s, ((r.after e).afterAll events).table.retired.get? d.grant = some s ∧ d.SameGrant s := by
  obtain ⟨⟨d', hd', hlater, hdrained⟩, -⟩ := asked_of_drains h hsound hgranted
  obtain ⟨s, hs, hds⟩ | ⟨s, hs, hds⟩ :=
    (hgranted.after hsound e).carried_or_retired (hsound.after e).1 hd' events
  · exact .inl ⟨s, hs, hlater.trans hds, hds.isDrained hdrained⟩
  · rw [hlater.grant] at hs
    exact .inr ⟨s, hs, hlater.toSameGrant.trans hds⟩

/-- No slot is drained twice. -/
theorem grant_ne_of_drains (hsound : r.table.Sound) (hgranted : r.table.Granted) {e' : TableEvent}
    {d d' : TaskSlot} (h : Drains r.table e d)
    (h' : Drains ((r.after e).afterAll events).table e' d') : d'.grant ≠ d.grant := by
  intro hgrant
  have hlive := h'.live
  have hgranted' := (hgranted.after hsound e).afterAll (hsound.after e).1 events
  obtain ⟨x, hx, hlater, hdrained⟩ | ⟨x, hx, -⟩ := fate_of_drains h hsound hgranted events
  · rw [hgranted'.unshared hlive hx (hgrant.trans hlater.grant.symm), hx] at hlive
    obtain rfl := Option.some.inj hlive
    -- its tasks are gone
    obtain ⟨y, task, -, -, htask, -⟩ := h'.last
    rw [TaskSlot.isEmpty_iff.1 hdrained.2 y] at htask
    cases htask
  · rw [← hgrant, hgranted'.apart hlive] at hx
    cases hx

/-- Every drained slot has been drained by some event of the run. -/
theorem exists_drains (hsound : start.table.Sound) (hgranted : start.table.Granted)
    (hnone : ∀ a, start.table.slots.get? a = none)
    (hs : (start.afterAll history).table.slots.get? a = some s) (hdrained : s.IsDrained) :
    ∃ before e rest d, history = before ++ e :: rest ∧ d.allocation = a ∧
      Drains (start.afterAll before).table e d ∧ d.Later s := by
  induction history using List.reverseRecOn generalizing s with
  | nil =>
    rw [afterAll_nil, hnone] at hs
    cases hs
  | append_singleton history e ih =>
    have hearlier : ∀ {x}, (start.afterAll history).table.slots.get? a = some x → x.IsDrained →
        x.Later s → ∃ before e' rest d, history ++ [e] = before ++ e' :: rest ∧ d.allocation = a ∧
          Drains (start.afterAll before).table e' d ∧ d.Later s := by
      intro x hx hxd hxs
      obtain ⟨before, e', rest, d, rfl, ha, hdrains, hdx⟩ := ih hx hxd
      exact ⟨before, e', rest ++ [e], d, by rw [List.append_assoc, List.cons_append], ha, hdrains,
        hdx.trans hxs⟩
    rw [afterAll_concat] at hs
    cases hchannel : e.isChannel with
    | true =>
      rw [table_of_isChannel _ hchannel] at hs
      exact hearlier hs hdrained (.refl s)
    | false =>
      obtain ⟨hdraining, -⟩ := draining_of_after (hsound.afterAll history).1
        (hgranted.afterAll hsound history) hchannel
      obtain ⟨x, hx, hxd, hxs⟩ | ⟨x, ha, hdrains, hxs, -⟩ := hdraining.origin hs hdrained
      · exact hearlier hx hxd hxs
      · exact ⟨history, e, [], x, rfl, ha, hdrains, hxs⟩

/-! ## Places in the queue -/

/-- An action comes closer to the owner with every action that the owner takes up, and not otherwise. -/
theorem queue_afterAll (hsound : r.table.Sound) (hgranted : r.table.Granted) {n : Nat} {x : SlotAction}
    (hx : r.queue[n]? = some x) (hleave : .leave ∉ events) (htakes : takes events ≤ n) :
    (r.afterAll events).queue[n - takes events]? = some x := by
  induction events generalizing r n with
  | nil => exact hx
  | cons e rest ih =>
    rw [List.mem_cons, not_or] at hleave
    have hsound' := (hsound.after e).1
    have hgranted' := hgranted.after hsound e
    cases hchannel : e.isChannel with
    | true =>
      cases e with
      | take =>
        have hcount : takes (.take :: rest) = takes rest + 1 := List.countP_cons_of_pos rfl
        rw [hcount] at htakes ⊢
        obtain ⟨m, rfl⟩ : ∃ m, n = m + 1 := ⟨n - 1, by omega⟩
        rw [Nat.add_sub_add_right]
        refine ih hsound' hgranted' ?_ hleave.2 (by omega)
        exact List.getElem?_tail.trans hx
      | leave => exact absurd rfl hleave.1
      | operation | closing | happening => cases hchannel
    | false =>
      obtain ⟨-, -, hqueue⟩ := draining_of_after hsound hgranted hchannel
      have hcount : takes (e :: rest) = takes rest := by
        refine List.countP_cons_of_neg ?_
        cases e with
        | take => cases hchannel
        | leave | operation | closing | happening => nofun
      rw [hcount] at htakes ⊢
      refine ih hsound' hgranted' ?_ hleave.2 htakes
      rw [hqueue, List.getElem?_append_left (List.getElem?_eq_some_iff.1 hx).1]
      exact hx

theorem listening_afterAll (hsound : r.table.Sound) (hgranted : r.table.Granted)
    (hlistening : r.listening = true) (hleave : .leave ∉ events) :
    (r.afterAll events).listening = true := by
  induction events generalizing r with
  | nil => exact hlistening
  | cons e rest ih =>
    rw [List.mem_cons, not_or] at hleave
    refine ih (hsound.after e).1 (hgranted.after hsound e) ?_ hleave.2
    cases hchannel : e.isChannel with
    | false => exact (draining_of_after hsound hgranted hchannel).2.1.trans hlistening
    | true =>
      cases e with
      | take => exact hlistening
      | leave => exact absurd rfl hleave.1
      | operation | closing | happening => cases hchannel

/-- What an owner that listens has been asked to finish waits until its turn comes. -/
theorem queued_of_drains {d : TaskSlot} (hsound : r.table.Sound) (hgranted : r.table.Granted)
    (hdrains : Drains r.table e d) (hlistening : r.listening = true) (hleave : .leave ∉ events)
    (htakes : takes events ≤ r.queue.length) :
    ((r.after e).afterAll events).queue[r.queue.length - takes events]? = some (.free d.allocation) := by
  have hchannel : e.isChannel = false := by
    obtain ⟨x, task, rfl, -⟩ := hdrains.last
    rfl
  obtain ⟨-, -, hqueue⟩ := draining_of_after hsound hgranted hchannel
  rw [if_pos hlistening, (asked_of_drains hdrains hsound hgranted).2] at hqueue
  refine queue_afterAll (hsound.after e).1 (hgranted.after hsound e) ?_ hleave htakes
  rw [hqueue, List.getElem?_append_right (Nat.le_refl _), Nat.sub_self]
  rfl

/-- As long as the owner listens, the action for a drained slot waits until its turn comes. -/
theorem exists_drains_waiting (hsound : start.table.Sound) (hgranted : start.table.Granted)
    (hnone : ∀ a, start.table.slots.get? a = none)
    (hs : (start.afterAll history).table.slots.get? a = some s) (hdrained : s.IsDrained) :
    ∃ before e rest d, history = before ++ e :: rest ∧ d.allocation = a ∧
      Drains (start.afterAll before).table e d ∧ d.Later s ∧
      (start.listening = true → .leave ∉ history → takes rest ≤ (start.afterAll before).queue.length →
        (start.afterAll history).queue[(start.afterAll before).queue.length - takes rest]? =
          some (.free a)) := by
  obtain ⟨before, e, rest, d, rfl, rfl, hdrains, hlater⟩ := exists_drains hsound hgranted hnone hs hdrained
  refine ⟨before, e, rest, d, rfl, rfl, hdrains, hlater, fun hlistening hleave htakes => ?_⟩
  rw [List.mem_append, List.mem_cons, not_or, not_or] at hleave
  have hlistens := listening_afterAll hsound hgranted hlistening hleave.1
  rw [afterAll_append, afterAll_cons]
  exact queued_of_drains (hsound.afterAll before).1 (hgranted.afterAll hsound before) hdrains hlistens
    hleave.2.2 htakes

/-- An action that waits was asked for by an event of the run, and the owner has taken up since what waited
then, up to the action's place. -/
theorem exists_drains_of_queued (hsound : start.table.Sound) (hgranted : start.table.Granted)
    (hqueue : start.queue = []) {i : Nat} (hi : (start.afterAll history).queue[i]? = some (.free a)) :
    ∃ before e rest d, history = before ++ e :: rest ∧ d.allocation = a ∧
      Drains (start.afterAll before).table e d ∧ .leave ∉ rest ∧
      i + takes rest = (start.afterAll before).queue.length ∧
      ((start.afterAll before).after e).queue = (start.afterAll before).queue ++ [.free a] := by
  induction history using List.reverseRecOn generalizing i with
  | nil =>
    rw [afterAll_nil, hqueue] at hi
    cases hi
  | append_singleton history e ih =>
    have hearlier : ∀ {j n}, (start.afterAll history).queue[j]? = some (.free a) → e ≠ .leave →
        takes [e] = n → j = i + n →
        ∃ before e' rest d, history ++ [e] = before ++ e' :: rest ∧ d.allocation = a ∧
          Drains (start.afterAll before).table e' d ∧ .leave ∉ rest ∧
          i + takes rest = (start.afterAll before).queue.length ∧
          ((start.afterAll before).after e').queue = (start.afterAll before).queue ++ [.free a] := by
      intro j n hj hleave hn hplace
      obtain ⟨before, e', rest, d, rfl, ha, hdrains, hrest, hcount, hasked⟩ := ih hj
      refine ⟨before, e', rest ++ [e], d, by rw [List.append_assoc, List.cons_append], ha, hdrains,
        ?_, ?_, hasked⟩
      · rw [List.mem_append, List.mem_singleton, not_or]
        exact ⟨hrest, fun h => hleave h.symm⟩
      · have happend : takes (rest ++ [e]) = takes rest + takes [e] := List.countP_append
        omega
    rw [afterAll_concat] at hi
    cases hchannel : e.isChannel with
    | true =>
      cases e with
      | take => exact hearlier (List.getElem?_tail.symm.trans hi) nofun rfl rfl
      | leave => cases hi
      | operation | closing | happening => cases hchannel
    | false =>
      have hleave : e ≠ .leave := by
        rintro rfl
        cases hchannel
      have hnone : takes [e] = 0 := by
        refine (List.countP_cons_of_neg ?_).trans rfl
        cases e with
        | take => cases hchannel
        | leave | operation | closing | happening => nofun
      obtain ⟨hdraining, -, hqueue'⟩ := draining_of_after (hsound.afterAll history).1
        (hgranted.afterAll hsound history) hchannel
      by_cases hold : i < (start.afterAll history).queue.length
      · rw [hqueue', List.getElem?_append_left hold] at hi
        exact hearlier hi hleave hnone rfl
      · -- it is the only thing that the event asks for
        rw [hqueue', List.getElem?_append_right (Nat.le_of_not_lt hold)] at hi
        cases hlistening : (start.afterAll history).listening with
        | false =>
          rw [hlistening] at hi
          cases hi
        | true =>
          rw [hlistening, if_pos rfl] at hi hqueue'
          obtain ⟨d, ha, hdrains, hactions⟩ := hdraining.asked (List.mem_of_getElem? hi)
          rw [hactions] at hi hqueue'
          have hplace : i - (start.afterAll history).queue.length = 0 :=
            Nat.lt_one_iff.1 (List.getElem?_eq_some_iff.1 hi).1
          refine ⟨history, e, [], d, rfl, ha, hdrains, nofun, ?_, hqueue'⟩
          show i + 0 = _
          omega

end TableRun

end WorkerSlots
