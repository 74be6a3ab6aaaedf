import WorkerSlots.Proofs.Drains
import WorkerSlots.Proofs.Schedules

/-!
# Whose slot is finished

A supervisor is asked to finish the slot of an allocation, not that of a grant. Until it takes this up, the
allocation may have got another slot.

* `Unattended` : events in which a supervisor takes nothing up, those of one command or those before there was
  a supervisor. All grants since nothing waited are of one such stretch (`Reached.unattended`);
* `Reissued` : in such a stretch, a slot is drained and its allocation gets another one. There is no other time
  at which this could happen before the slot is finished (`Reached.reissued`);
* `deferred_free_supervised` : what is freed is the drained slot, unless it has been reissued.
-/

namespace WorkerSlots

open SlotTable TableRun

namespace Supervisor

/-- Events one after the other, before which nothing waits, and in which nothing is taken up: the use of a
table before it is handed over, or a command. -/
inductive Unattended (α : Type) (table : SlotTable) : List TableEvent → List TableEvent → Prop where
  | unsupervised {batch : List TableEvent} (h : ∀ e ∈ batch, e.isChannel = false) :
      Unattended α table [] batch
  | command {history : List TableEvent} {s : Supervisor α} {call : Call α} {inbox : List (Call α)}
      (h : Reached table history s) (hqueue : s.run.queue = []) (hinbox : s.inbox = call :: inbox)
      (hturn : s.turn? = some ({ s with inbox }.answer call)) :
      Unattended α table history
        ((call.command.operations s.run.now s.run.table).map .operation)

/-- The drained slot `d` has left, and its allocation has got another slot, since anything was taken up. -/
def Reissued (α : Type) (table : SlotTable) (history : List TableEvent) (d slot : TaskSlot) : Prop :=
  ∃ earlier early mid late post e e' s, Unattended α table earlier (early ++ e :: (mid ++ e' :: late)) ∧
    history = earlier ++ (early ++ e :: (mid ++ e' :: late)) ++ post ∧
    let r := (TableRun.new table true).afterAll (earlier ++ early)
    Drains r.table e d ∧ s.allocation = d.allocation ∧ s.Later slot ∧
      Granting ((r.after e).afterAll mid).table e' (((r.after e).afterAll mid).after e').table s

variable {α : Type} {s s' : Supervisor α} {table : SlotTable}
  {history earlier batch before rest : List TableEvent} {e : TableEvent} {a : AllocationId}
  {d slot : TaskSlot} {r : TableRun}

/-! ## Grants in one stretch -/

theorem Unattended.queue (h : Unattended α table earlier batch) :
    ((TableRun.new table true).afterAll earlier).queue = [] := by
  cases h with
  | unsupervised => rfl
  | command h hqueue => rw [← h.run_eq, hqueue]

/-- A supervisor grants slots by commands only, and carries a command out when nothing waits. -/
theorem Reached.unattended (h : Reached table history s) : ∃ earlier batch post,
    history = earlier ++ batch ++ post ∧ Unattended α table earlier batch ∧
      ∀ request, .operation (.allocate request) ∉ post := by
  induction h with
  | begin before hchannel =>
    exact ⟨[], before, [], (List.append_nil _).symm, .unsupervised hchannel, fun _ => List.not_mem_nil⟩
  | @step history s hreached e ih =>
    have hkeep : ∀ {events}, (∀ request, .operation (.allocate request) ∉ events) →
        ∃ earlier batch post, history ++ events = earlier ++ batch ++ post ∧
          Unattended α table earlier batch ∧ ∀ request, .operation (.allocate request) ∉ post := by
      intro events hevents
      obtain ⟨earlier, batch, post, rfl, hunattended, hpost⟩ := ih
      refine ⟨earlier, batch, post ++ events, List.append_assoc _ _ _, hunattended, fun request => ?_⟩
      rw [List.mem_append, not_or]
      exact ⟨hpost request, hevents request⟩
    cases e with
    | post | requestShutdown => exact hkeep fun _ => List.not_mem_nil
    | happening happening =>
      exact hkeep fun request hmem => nomatch List.mem_singleton.1 hmem
    | turn =>
      have hturn := s.turn_cases
      show ∃ earlier batch post, history ++ s.turnEvents = earlier ++ batch ++ post ∧ _
      generalize hs' : s.turn? = s', s.turnEvents = events at hturn ⊢
      cases hturn with
      | stopped | idle => exact hkeep fun _ => List.not_mem_nil
      | beginClose | stop => exact hkeep fun request hmem => nomatch List.mem_singleton.1 hmem
      | heed =>
        refine hkeep fun request hmem => ?_
        obtain heq | hmem := List.mem_cons.1 hmem
        · cases heq
        · obtain ⟨b, cause, heq⟩ := mem_heedEvents hmem
          cases heq
      | answer _ hqueue hinbox =>
        exact ⟨history, _, [], (List.append_nil _).symm, .command hreached hqueue hinbox hs',
          fun _ => List.not_mem_nil⟩

/-- Two events of a history, the later one of a stretch that has begun before the earlier one. -/
theorem exists_batch {mid late post : List TableEvent} {e' : TableEvent}
    (h : earlier ++ batch ++ post = before ++ e :: (mid ++ e' :: late))
    (hbegun : ∀ rest, earlier ≠ before ++ e :: rest) (hpost : e' ∉ post) :
    ∃ early late', before = earlier ++ early ∧ batch = early ++ e :: (mid ++ e' :: late') := by
  rw [List.append_assoc] at h
  obtain ⟨early, rfl, hbatch⟩ : ∃ early, before = earlier ++ early ∧
      batch ++ post = early ++ e :: (mid ++ e' :: late) := by
    obtain ⟨cut, hcut, hrest⟩ | ⟨cut, hcut, hrest⟩ := List.append_eq_append_iff.1 h
    · exact ⟨cut, hcut, hrest⟩
    · cases cut with
      | nil =>
        rw [List.append_nil] at hcut
        exact ⟨[], by rw [hcut, List.append_nil], hrest.symm⟩
      | cons x cut =>
        obtain ⟨rfl, -⟩ := List.cons.inj hrest
        exact absurd hcut (hbegun cut)
  refine ⟨early, ?_⟩
  have hsplit : early ++ e :: (mid ++ e' :: late) = (early ++ e :: mid) ++ e' :: late := by
    rw [List.append_assoc, List.cons_append]
  rw [hsplit] at hbatch
  obtain ⟨cut, -, hrest⟩ | ⟨cut, hcut, hrest⟩ := List.append_eq_append_iff.1 hbatch
  · rw [hrest] at hpost
    exact absurd (List.mem_append_right _ List.mem_cons_self) hpost
  · cases cut with
    | nil =>
      have hcons : post = e' :: late := hrest.symm
      rw [hcons] at hpost
      exact absurd List.mem_cons_self hpost
    | cons x cut =>
      obtain ⟨rfl, -⟩ := List.cons.inj hrest
      refine ⟨cut, rfl, ?_⟩
      rw [hcut, List.append_assoc, List.cons_append]

/-! ## Grants after a slot was drained -/

/-- A slot that is granted after another one was drained is not that one. -/
theorem grant_ne_of_granting (hsound : r.table.Sound) (hgranted : r.table.Granted) {mid : List TableEvent}
    {e' : TableEvent} {t' : SlotTable} {s : TaskSlot} (hdrains : Drains r.table e d)
    (hgranting : Granting ((r.after e).afterAll mid).table e' t' s) : s.grant ≠ d.grant := by
  have hgranted' := (hgranted.after hsound e).afterAll (hsound.after e).1 mid
  rw [hgranting.number]
  obtain ⟨x, hx, hlater, -⟩ | ⟨x, hx, -⟩ := fate_of_drains hdrains hsound hgranted mid
  · rw [← hlater.grant]
    exact (Nat.ne_of_lt (hgranted'.issued hx)).symm
  · exact (Nat.ne_of_lt (hgranted'.retired hx).2).symm

theorem Reissued.grant_ne (h : Reissued α table history d slot) (hsound : table.Sound)
    (hgranted : table.Granted) : slot.grant ≠ d.grant := by
  obtain ⟨earlier, early, mid, late, post, e, e', s, -, -, hdrains, -, hlater, hgranting⟩ := h
  rw [hlater.grant]
  exact grant_ne_of_granting (Sound.afterAll (r := .new table true) hsound _).1
    (Granted.afterAll (r := .new table true) hgranted hsound _) hdrains hgranting

/-- A live slot of the allocation of a drained one is that one, or it has been granted since. -/
theorem later_or_granting (hsound : r.table.Sound) (hgranted : r.table.Granted)
    (hdrains : Drains r.table e d)
    (hs : ((r.after e).afterAll rest).table.slots.get? d.allocation = some slot) :
    d.Later slot ∧ slot.IsDrained ∨ ∃ mid e' late s, rest = mid ++ e' :: late ∧
      s.allocation = d.allocation ∧ s.Later slot ∧
      Granting ((r.after e).afterAll mid).table e' (((r.after e).afterAll mid).after e').table s := by
  obtain ⟨⟨d', hd', hlater, hdrained⟩, -⟩ := asked_of_drains hdrains hsound hgranted
  obtain ⟨x, hx, hxs⟩ | ⟨mid, e', late, x, hrest, ha, hxs, hgranting⟩ :=
    (hgranted.after hsound e).granted_or_carried (hsound.after e).1 hs
  · rw [hd'] at hx
    obtain rfl := Option.some.inj hx
    exact .inl ⟨hlater.trans hxs, hxs.isDrained hdrained⟩
  · rw [afterAll_concat] at hgranting
    exact .inr ⟨mid, e', late, x, hrest, ha, hxs, hgranting⟩

/-- An action that comes first when all that waited before it has been taken up has waited ever since it was
asked for. -/
theorem ne_append_of_empty (hsound : r.table.Sound) (hgranted : r.table.Granted)
    (hasked : (r.after e).queue = r.queue ++ [.free a]) (hleave : .leave ∉ rest)
    (htakes : takes rest = r.queue.length) (hempty : ((r.after e).afterAll before).queue = [])
    (more : List TableEvent) : rest ≠ before ++ more := by
  rintro rfl
  have hcount : takes (before ++ more) = takes before + takes more := List.countP_append
  rw [List.mem_append, not_or] at hleave
  have hx : (r.after e).queue[r.queue.length]? = some (.free a) := by
    rw [hasked, List.getElem?_append_right (Nat.le_refl _), Nat.sub_self]
    rfl
  have hstill := queue_afterAll (hsound.after e).1 (hgranted.after hsound e) hx
    hleave.1 (by omega)
  rw [hempty] at hstill
  cases hstill

/-- An allocation that has got another slot before its drained one was finished has got it in one stretch. -/
theorem Reached.reissued (h : Reached table history s) (hbegin : (TableRun.new table true).table.Sound)
    (hgranted : (TableRun.new table true).table.Granted) {mid late : List TableEvent} {e' : TableEvent}
    {x : TaskSlot} (hhistory : history = before ++ e :: (mid ++ e' :: late))
    (hdrains : Drains ((TableRun.new table true).afterAll before).table e d)
    (hasked : (((TableRun.new table true).afterAll before).after e).queue =
      ((TableRun.new table true).afterAll before).queue ++ [.free a])
    (hleave : .leave ∉ mid ++ e' :: late)
    (htakes : takes (mid ++ e' :: late) = ((TableRun.new table true).afterAll before).queue.length)
    (ha : x.allocation = d.allocation) (hlater : x.Later slot)
    (hgranting : Granting ((((TableRun.new table true).afterAll before).after e).afterAll mid).table e'
      (((((TableRun.new table true).afterAll before).after e).afterAll mid).after e').table x) :
    Reissued α table history d slot := by
  obtain ⟨earlier, batch, post, hsplit, hunattended, hpost⟩ := h.unattended
  obtain ⟨request, rfl, -⟩ := hgranting.event
  -- nothing waited when the stretch began, so that the slot was drained in it
  have hbegun : ∀ more, earlier ≠ before ++ e :: more := by
    rintro more rfl
    have hempty := hunattended.queue
    rw [afterAll_append, afterAll_cons] at hempty
    rw [hsplit, List.append_assoc, List.append_assoc] at hhistory
    obtain ⟨-, hrest⟩ := List.cons.inj (List.append_cancel_left hhistory)
    exact ne_append_of_empty (hbegin.afterAll before).1 (hgranted.afterAll hbegin before) hasked hleave
      htakes hempty _ hrest.symm
  obtain ⟨early, late', rfl, rfl⟩ := exists_batch (hsplit.symm.trans hhistory) hbegun (hpost request)
  exact ⟨earlier, early, mid, late', post, e, _, x, hunattended, hsplit, hdrains, ha, hlater, hgranting⟩

/-! ## What is finished -/

/-- Whatever slot the allocation has is freed. -/
theorem serve?_free {queue : List SlotAction} (hqueue : s.run.queue = .free a :: queue)
    (hserve : s.serve? = some s') :
    s'.run.table = (s.run.table.free s.run.now a emptiedCause).table ∧
      s'.run.failures = s.run.failures ++ (s.run.table.free s.run.now a emptiedCause).failures := by
  unfold serve? at hserve
  rw [hqueue] at hserve
  obtain rfl := Option.some.inj hserve
  exact ⟨rfl, rfl⟩

/-- When a supervisor takes up that a slot is to be finished, this was asked for by the event that took the
last task out of the slot, and all that waited then has been taken up since. Whatever slot the allocation has
is asked back: the drained slot itself, which leaves the table without a task failing, or another one, exactly
if the allocation got it after that event by the same command, or before the table was handed over. Without a
slot nothing changes. -/
theorem deferred_free_supervised {config : TableConfig} {timers : Timers AllocationId}
    (hnew : SlotTable.new config timers = .ok table) (h : Reached table history s) {queue : List SlotAction}
    (hqueue : s.run.queue = .free a :: queue) (hserve : s.serve? = some s') :
    ∃ before e rest d, history = before ++ e :: rest ∧ d.allocation = a ∧
      Drains ((TableRun.new table true).afterAll before).table e d ∧
      takes rest = ((TableRun.new table true).afterAll before).queue.length ∧
      (s.run.table.slots.get? a = none →
        s'.run.table = s.run.table ∧ s'.run.failures = s.run.failures) ∧
      ∀ slot, s.run.table.slots.get? a = some slot →
        (∃ failures, AskedBack s.run.table a slot emptiedCause failures s'.run.table ∧
          s'.run.failures = s.run.failures ++ failures) ∧
        (slot.grant = d.grant → d.Later slot ∧ slot.IsDrained) ∧
        (slot.grant ≠ d.grant ↔ Reissued α table history d slot) := by
  have hbegin : (TableRun.new table true).table.Sound := (Sound.new hnew).1
  have hgranted : (TableRun.new table true).table.Granted := .new hnew
  have hsound := fun events => (hbegin.afterAll events).1
  have hgranted' := hgranted.afterAll hbegin
  obtain ⟨htable, hfailures⟩ := serve?_free hqueue hserve
  have hrun := h.run_eq
  have hwaits : ((TableRun.new table true).afterAll history).queue[0]? = some (.free a) := by
    rw [← hrun, hqueue]
    rfl
  obtain ⟨before, e, rest, d, hhistory, rfl, hdrains, hleave, htakes, hasked⟩ :=
    exists_drains_of_queued hbegin hgranted rfl hwaits
  rw [Nat.zero_add] at htakes
  refine ⟨before, e, rest, d, hhistory, rfl, hdrains, htakes, fun hnone => ?_, fun slot hs => ?_⟩
  · obtain ⟨hsame, hnothing⟩ := free_none s.run.now hnone emptiedCause
    rw [htable, hfailures, hsame, hnothing, List.append_nil]
    exact ⟨rfl, rfl⟩
  · have hlive : (((TableRun.new table true).afterAll before).after e |>.afterAll rest).table.slots.get?
        d.allocation = some slot := by
      rw [← afterAll_cons, ← afterAll_append, ← hhistory, ← hrun]
      exact hs
    have hwhich := later_or_granting (hsound before) (hgranted' before) hdrains hlive
    refine ⟨⟨_, htable ▸ (h.sound hbegin).free_live s.run.now hs emptiedCause, hfailures⟩, fun hgrant => ?_,
      fun hgrant => ?_, fun hreissued => hreissued.grant_ne hbegin hgranted⟩
    · obtain hlater | ⟨mid, e', late, x, -, -, hlater, hgranting⟩ := hwhich
      · exact hlater
      · rw [hlater.grant] at hgrant
        exact absurd hgrant (grant_ne_of_granting (hsound before) (hgranted' before) hdrains hgranting)
    · obtain ⟨hlater, -⟩ | ⟨mid, e', late, x, rfl, ha, hlater, hgranting⟩ := hwhich
      · exact absurd hlater.grant hgrant
      · exact h.reissued hbegin hgranted hhistory hdrains hasked hleave htakes ha hlater hgranting

/-- A command takes the last task out of a slot, frees the slot, and gets another one for the same allocation,
whose task is then told to fail. -/
theorem deferred_free_supervised_reissued : ∃ table,
    SlotTable.new (.evenlyDivided 2 TableConfig.standardProfile) (.new 0) = .ok table ∧
    let used : List TableEvent :=
      [.operation .start, .operation (.allocate ⟨.fixed 0, ⟨0⟩, ⟨1⟩, none, 5⟩),
        .operation (.markActive ⟨1⟩), .operation (.addTask ⟨⟨7⟩, ⟨0⟩, ⟨1⟩⟩), .operation (.free ⟨1⟩ "")]
    let again : Command Bool := do
      let _ ← Command.operate (.removeTask ⟨7⟩)
      let _ ← Command.operate (.free ⟨1⟩ "")
      let _ ← Command.operate (.allocate ⟨.fixed 0, ⟨0⟩, ⟨1⟩, none, 5⟩)
      let _ ← Command.operate (.markActive ⟨1⟩)
      Command.operate (.addTask ⟨⟨8⟩, ⟨0⟩, ⟨1⟩⟩)
    let s : Supervisor Bool :=
      ((Supervisor.new ((TableRun.new table true).afterAll used)).after (.post again)).after .turn
    ∃ history d slot s', Reached table history s ∧ s.serve? = some s' ∧ d.allocation = ⟨1⟩ ∧
      s.run.table.slots.get? ⟨1⟩ = some slot ∧ slot.state = .active ∧ Reissued Bool table history d slot ∧
      s'.run.failures = s.run.failures ++ [⟨⟨⟨8⟩, ⟨0⟩, ⟨1⟩⟩, emptiedCause⟩] ∧
      s'.run.table.slots.get? ⟨1⟩ = some { slot with state := .releasing } := by
  have hnew : SlotTable.new (.evenlyDivided 2 TableConfig.standardProfile) (.new 0) = .ok _ := rfl
  refine ⟨_, hnew, ?_⟩
  intro used again s
  have hs : Reached _ _ s := ((Reached.begin used (by decide)).step (.post again)).step .turn
  have hslot : (s.run.table.slots.get? ⟨1⟩).map (fun slot => (slot.state, slot.tasks.entries)) =
      some (.active, [(⟨8⟩, ⟨⟨8⟩, ⟨0⟩, ⟨1⟩⟩)]) := by decide
  obtain ⟨slot, hlive, hslot⟩ := Option.map_eq_some_iff.1 hslot
  obtain ⟨hactive, htasks⟩ := Prod.mk.inj hslot
  have hbusy : slot.isEmpty = false := SortedMap.isEmpty_eq_false_iff.2
    ⟨⟨8⟩, _, SortedMap.mem_entries_iff.1 (htasks ▸ List.mem_singleton_self _)⟩
  have hqueue : s.run.queue = [.free ⟨1⟩] := by decide
  obtain ⟨s', hserve⟩ : ∃ s', s.serve? = some s' := by
    unfold serve?
    rw [hqueue]
    exact ⟨_, rfl⟩
  obtain ⟨-, -, -, d, -, ha, -, -, -, hfreed⟩ := deferred_free_supervised hnew hs hqueue hserve
  obtain ⟨⟨failures, hasked, hfailures⟩, hsame, hother⟩ := hfreed slot hlive
  have hreissued : slot.grant ≠ d.grant := fun hgrant => by
    rw [(hsame hgrant).2.2] at hbusy
    cases hbusy
  refine ⟨_, d, slot, s', hs, hserve, ha, hlive, hactive, hother.1 hreissued, ?_, hasked.stays hbusy⟩
  rw [hfailures, hasked.failures, hactive]
  unfold SortedMap.values
  rw [htasks]
  rfl

end Supervisor

end WorkerSlots
