import Mathlib.Data.List.Nodup
import WorkerSlots.Proofs.Grants
import WorkerSlots.Proofs.Reservations

/-!
# Equal shares

A total is divided among the static slots, and every share is rounded down in every dimension. A slot that is
granted without a profile of its own holds one share.

* `units_divide` : a share, dimension by dimension; `held_add_share_le` : while fewer slots than shares are
  live, one more share fits within the total;
* `TableEvent.GrantsShares` : an event that grants nothing but shares at static indices;
* `Shared` : a table whose live slots hold one share each, at static indices. Events that grant nothing else
  keep it so (`Shared.afterAll`), and a free static index then leaves room for its share (`Shared.size_lt`);
* `share_available_of_new` : so no slot with a share is refused for lack of resources.
-/

namespace WorkerSlots

/-! ## Shares of a profile -/

theorem Word.toNat_max_one (w : UInt64) : (max w 1).toNat = max w.toNat 1 := by
  have hone : (1 : UInt64).toNat = 1 := rfl
  by_cases h : w ≤ 1
  · have hle := UInt64.le_iff_toNat_le.1 h
    rw [show max w 1 = 1 from if_pos h]
    omega
  · have hlt := UInt64.lt_iff_toNat_lt.1 (UInt64.not_le.1 h)
    rw [show max w 1 = w from if_neg h]
    omega

theorem Amounts.amount_share (a : Amounts) (parts : UInt64) (name : String) :
    (a.share parts).amount name = a.amount name / parts := by
  unfold share
  exact amount_mapAmounts (fun _ x => x / parts) (fun _ => UInt64.zero_div) a name

namespace ResourceProfile

/-- A share is rounded down in every dimension. -/
theorem units_divide (p : ResourceProfile) (parts : UInt64) (d : Dimension) :
    (p.divide parts).units d = p.units d / max parts.toNat 1 := by
  rw [← Word.toNat_max_one]
  cases d with
  | extended name =>
    show ((p.extended.share (max parts 1)).amount name).toNat = _
    rw [Amounts.amount_share]
    exact UInt64.toNat_div _ _
  | cpuMillis | taskHeap | taskOffHeap | managedMemory | networkMemory => exact UInt64.toNat_div _ _

theorem divide_fitsWithin (p : ResourceProfile) (parts : UInt64) : (p.divide parts).fitsWithin p = true := by
  refine fitsWithin_iff.2 fun d => ?_
  rw [units_divide]
  exact Nat.div_le_self _ _

/-- All shares together are no more than what was divided. -/
theorem mul_units_divide_le (p : ResourceProfile) {parts : UInt64} (h : parts ≠ 0) (d : Dimension) :
    parts.toNat * (p.divide parts).units d ≤ p.units d := by
  have hpos : 0 < parts.toNat := Nat.pos_of_ne_zero fun hzero => h (UInt64.toNat_inj.1 hzero)
  rw [units_divide, show max parts.toNat 1 = parts.toNat by omega]
  exact Nat.mul_div_le _ _

end ResourceProfile

namespace TableConfig

/-- What a slot holds by default is a share of the total. -/
theorem evenlyDivided_share {n : UInt64} (h : n ≠ 0) (total : ResourceProfile) :
    (evenlyDivided n total).defaultSlotProfile = total.divide n := by
  have hmax : max n 1 = n := by
    have hpos : n.toNat ≠ 0 := fun hzero => h (UInt64.toNat_inj.1 hzero)
    refine UInt64.toNat_inj.1 ?_
    rw [Word.toNat_max_one]
    omega
  unfold evenlyDivided
  rw [hmax]

theorem evenlyDivided_problem? {n : UInt64} (h : n ≠ 0) (total : ResourceProfile) :
    (evenlyDivided n total).problem? = none := by
  have hpage : isPageSize standard.memoryPageSize = true := by decide
  have hfit := total.divide_fitsWithin n
  rw [← evenlyDivided_share h total] at hfit
  have hslots : (evenlyDivided n total).numberSlots ≠ 0 := h
  unfold problem?
  rw [if_neg hslots, show (evenlyDivided n total).memoryPageSize = standard.memoryPageSize from rfl, hpage,
    show (evenlyDivided n total).totalResources = total from rfl, hfit]
  rfl

end TableConfig

/-! ## Room for one more share -/

namespace SortedMap

variable {K V : Type} [Ord K] [DecidableEq K] [Std.LawfulEqOrd K]

omit [DecidableEq K] [Std.LawfulEqOrd K] in
/-- Values that all count the same. -/
theorem total_eq_size_mul {m : SortedMap K V} {f : V → Nat} {c : Nat} (h : ∀ v ∈ m.values, f v = c) :
    m.total f = m.size * c := by
  unfold total
  rw [List.map_congr_left h, List.map_const', List.sum_replicate_nat]
  simp [values, size]

/-- Keys that are told apart by a number below a bound, which is not taken by any of them. -/
theorem size_lt_of_injOn {m : SortedMap K V} {f : V → Nat} {n i : Nat}
    (hinj : ∀ {k k' v v'}, m.get? k = some v → m.get? k' = some v' → f v = f v' → k = k')
    (hlt : ∀ {k v}, m.get? k = some v → f v < n) (hi : i < n)
    (hfree : ∀ {k v}, m.get? k = some v → f v ≠ i) : m.size < n := by
  have hentries : (m.entries.map fun e => f e.2).Nodup := by
    refine (List.Nodup.of_map _ m.nodup_keys).map_on fun e he e' he' heq => ?_
    have hv := mem_entries_iff.1 he
    have hv' := mem_entries_iff.1 he'
    have hkey := hinj hv hv' heq
    rw [hkey, hv'] at hv
    exact Prod.ext hkey (Option.some.inj hv).symm
  have hall : (i :: m.entries.map fun e => f e.2) ⊆ List.range n := by
    intro j hj
    rcases List.mem_cons.1 hj with rfl | hj
    · exact List.mem_range.2 hi
    · obtain ⟨e, he, rfl⟩ := List.mem_map.1 hj
      exact List.mem_range.2 (hlt (mem_entries_iff.1 he))
  have hnodup : (i :: m.entries.map fun e => f e.2).Nodup := by
    refine List.nodup_cons.2 ⟨fun hmem => ?_, hentries⟩
    obtain ⟨e, he, heq⟩ := List.mem_map.1 hmem
    exact hfree (mem_entries_iff.1 he) heq
  have hlength := hnodup.length_le_of_subset hall
  simp only [List.length_cons, List.length_map, List.length_range] at hlength
  exact hlength

end SortedMap

namespace SlotTable

variable {t t' : SlotTable} {total : ResourceProfile} {n : UInt64} {request : SlotRequest}

/-- While fewer slots than shares are live, and each of them holds one, another one fits. -/
theorem held_add_share_le (hn : n ≠ 0)
    (hall : ∀ a s, t.slots.get? a = some s → s.profile = total.divide n) (hfew : t.slots.size < n.toNat)
    (d : Dimension) : t.held d + (total.divide n).units d ≤ total.units d := by
  have hheld : t.held d = t.slots.size * (total.divide n).units d := by
    refine SortedMap.total_eq_size_mul fun s hs => ?_
    obtain ⟨a, ha⟩ := SortedMap.mem_values_iff.1 hs
    rw [hall a s ha]
  calc t.held d + (total.divide n).units d
      = (t.slots.size + 1) * (total.divide n).units d := by rw [hheld, Nat.succ_mul]
    _ ≤ n.toNat * (total.divide n).units d := Nat.mul_le_mul_right _ hfew
    _ ≤ total.units d := total.mul_units_divide_le hn d

/-- A request that fits beside the live slots is not refused for lack of resources. -/
theorem Sound.not_exhausted (h : t.Sound) (hclocked : t.Clocked) (now : Nat)
    (hroom : ∀ d, t.held d + (t.requestedProfile request).units d ≤ t.config.totalResources.units d)
    (requested available total' : ResourceProfile) :
    (t.allocate now request).result ≠ .error (.resourceExhausted requested available total') := by
  intro herror
  obtain ⟨rfl, rfl, -, hover⟩ := h.exhausted hclocked herror
  have hfit : (t.requestedProfile request).fitsWithin t.budget.available = true := by
    refine (ResourceBudget.fitsWithin_available_iff h.within).2 fun d => ?_
    rw [h.reserved d, h.capacity]
    exact hroom d
  rw [hfit] at hover
  cases hover

end SlotTable

/-! ## Tables that grant shares only -/

/-- An event that grants no slot, or a static one that holds what a slot holds by default. -/
def TableEvent.GrantsShares (config : TableConfig) : TableEvent → Prop
  | .operation (.allocate request) =>
    (∃ i, request.index = .fixed i ∧ i < config.numberSlots) ∧
      request.profile.getD config.defaultSlotProfile = config.defaultSlotProfile
  | _ => True

theorem TableEvent.IsOfClosing.grantsShares {e : TableEvent} (h : e.IsOfClosing) (config : TableConfig) :
    e.GrantsShares config := by
  rcases h with rfl | ⟨a, rfl⟩ <;> trivial

namespace SlotTable

variable {t t' : SlotTable} {now : Nat} {e : TableEvent} {actions : List SlotAction}
  {failures : List TaskFailure}

/-- The live slots hold one share each, at static indices. -/
structure Shared (t : SlotTable) : Prop where
  profile : ∀ {a s}, t.slots.get? a = some s → s.profile = t.config.defaultSlotProfile
  static : ∀ {a s}, t.slots.get? a = some s → s.index < t.config.numberSlots

/-- A live slot was there before, or is the one that has just been granted. -/
theorem Step.shared (h : Step now t e actions failures t') (hgranted : t.Granted)
    (he : e.GrantsShares t.config) (hshared : t.Shared) : t'.Shared := by
  have hpassage := h.passage hgranted
  have hlive : ∀ {a s}, t'.slots.get? a = some s →
      s.profile = t.config.defaultSlotProfile ∧ s.index < t.config.numberSlots := by
    intro a s hs
    obtain ⟨x, hx, hlater⟩ | ⟨rfl, hgranting⟩ := hpassage.origin hs
    · rw [hlater.profile, hlater.index]
      exact ⟨hshared.profile hx, hshared.static hx⟩
    · obtain ⟨request, rfl, ha, hindex⟩ := hgranting.event
      obtain ⟨⟨i, hi, hstatic⟩, hprofile⟩ := he
      rw [hindex, hi]
      refine ⟨?_, hstatic⟩
      cases h with
      | @grant _ _ _ _ _ x _ _ _ _ _ hslot =>
        obtain ⟨-, -, hshare, -, hallocation, -⟩ := TaskSlot.new?_eq_some hslot
        have hinserted : (t.slots.insert x.allocation x).get? s.allocation = some s := hs
        rw [ha, ← hallocation, SortedMap.get?_insert_self] at hinserted
        obtain rfl := Option.some.inj hinserted
        exact hshare.trans hprofile
      | activate hevent => rcases hevent with hevent | ⟨_, hevent⟩ <;> cases hevent
  refine ⟨fun hs => ?_, fun hs => ?_⟩
  · rw [h.config]
    exact (hlive hs).1
  · rw [h.config]
    exact (hlive hs).2

theorem Shared.after {r : TableRun} (h : r.table.Shared) (hsound : r.table.Sound) (hgranted : r.table.Granted)
    (he : e.GrantsShares r.table.config) : (r.after e).table.Shared := by
  have hall := (TableRun.after_moves hsound e).lift
    (R := fun t e t' => t.Sound ∧ t.Granted ∧ t.Shared → e.GrantsShares t.config →
      (t'.Sound ∧ t'.Granted ∧ t'.Shared) ∧ t'.config = t.config)
    (fun _ _ ht _ => ⟨ht, rfl⟩)
    (fun hstep ht he => ⟨⟨ht.1.step hstep, ht.2.1.of_passage ht.1 (hstep.passage ht.2.1),
      hstep.shared ht.2.1 he ht.2.2⟩, hstep.config⟩)
    (fun _ hp hu hv ht he => by
      obtain ⟨hu, hconfig⟩ := hu ht he
      obtain ⟨hv, hconfig'⟩ := hv hu (hp.grantsShares _)
      exact ⟨hv, hconfig'.trans hconfig⟩)
  exact (hall ⟨hsound, hgranted, h⟩ he).1.2.2

/-- Events that grant nothing but shares at static indices keep the table so. -/
theorem Shared.afterAll {r : TableRun} (h : r.table.Shared) (hsound : r.table.Sound)
    (hgranted : r.table.Granted) {events : List TableEvent}
    (hevents : ∀ e ∈ events, e.GrantsShares r.table.config) : (r.afterAll events).table.Shared := by
  induction events generalizing r with
  | nil => exact h
  | cons e rest ih =>
    obtain ⟨he, hrest⟩ := List.forall_mem_cons.1 hevents
    obtain ⟨hsound', hconfig⟩ := hsound.after e
    rw [← hconfig] at hrest
    exact ih (h.after hsound hgranted he) hsound' (hgranted.after hsound e) hrest

/-- No two slots are at one index, so that fewer slots than static indices are live while one of these is
free. -/
theorem Shared.size_lt (h : t.Shared) (hbooks : t.Books) {i : SlotIndex} (hi : i < t.config.numberSlots)
    (hfree : t.isSlotFree i = true) : t.slots.size < t.config.numberSlots.toNat := by
  refine SortedMap.size_lt_of_injOn (f := fun s => s.index.toNat) (i := i.toNat)
    (fun {a b s s'} hs hs' heq => ?_) (fun hs => ?_) (UInt64.lt_iff_toNat_lt.1 hi) fun {a s} hs heq => ?_
  · have hindex : s.index = s'.index := UInt64.toNat_inj.1 heq
    have ha := hbooks.indexed.2 ⟨s, hs, rfl⟩
    rw [hindex, hbooks.indexed.2 ⟨s', hs', rfl⟩] at ha
    exact (Option.some.inj ha).symm
  · exact UInt64.lt_iff_toNat_lt.1 (h.static hs)
  · have hindex : s.index = i := UInt64.toNat_inj.1 heq
    have htaken : t.indices.contains i = true :=
      SortedMap.contains_iff.2 ⟨a, hbooks.indexed.2 ⟨s, hs, hindex⟩⟩
    unfold isSlotFree at hfree
    rw [htaken] at hfree
    cases hfree

/-! ## The whole run -/

/-- A total that is divided evenly among the static slots makes a configuration without a problem. While fewer
slots than shares are live, each with one share, no further share is refused for lack of resources; so if
nothing but static slots with a share each are requested, in any order and whatever is freed in between, none
is refused for lack of resources while a static index is free. -/
theorem share_available_of_new {n : UInt64} (hn : n ≠ 0) (total : ResourceProfile) :
    let config := TableConfig.evenlyDivided n total
    config.problem? = none ∧ config.memoryPageSize = TableConfig.standard.memoryPageSize ∧
    ∀ (timers : Timers AllocationId) (table : SlotTable), SlotTable.new config timers = .ok table →
      ∀ (listening : Bool) (events : List TableEvent) (now : Nat) (request : SlotRequest)
        (requested available total' : ResourceProfile),
        request.profile.getD config.defaultSlotProfile = config.defaultSlotProfile →
        let r := (TableRun.new table listening).afterAll events
        (r.table.slots.size < n.toNat →
          (∀ a s, r.table.slots.get? a = some s → s.profile = config.defaultSlotProfile) →
          (r.table.allocate now request).result ≠ .error (.resourceExhausted requested available total')) ∧
        ∀ i, (∀ e ∈ events, e.GrantsShares config) → i < n → r.table.isSlotFree i = true →
          (r.table.allocate now request).result ≠ .error (.resourceExhausted requested available total') := by
  intro config
  refine ⟨TableConfig.evenlyDivided_problem? hn total, rfl, ?_⟩
  intro timers table hnew listening events now request requested available total' hrequest r
  have hshare : config.defaultSlotProfile = total.divide n := TableConfig.evenlyDivided_share hn total
  obtain ⟨hsound, hconfig⟩ := Sound.ofNew hnew listening events
  have hfew : r.table.slots.size < n.toNat →
      (∀ a s, r.table.slots.get? a = some s → s.profile = config.defaultSlotProfile) →
      (r.table.allocate now request).result ≠ .error (.resourceExhausted requested available total') := by
    intro hsize hall
    refine hsound.not_exhausted (.ofNew hnew listening events) now (fun d => ?_) requested available total'
    have hprofile : r.table.requestedProfile request = total.divide n := by
      unfold requestedProfile
      rw [hconfig]
      exact hrequest.trans hshare
    rw [hprofile, hconfig]
    rw [hshare] at hall
    exact held_add_share_le hn hall hsize d
  refine ⟨hfew, fun i hevents hi hfree => ?_⟩
  have hshared : r.table.Shared := by
    obtain ⟨hsound₀, hconfig₀⟩ := Sound.new hnew
    have hempty : table.Shared := by
      obtain rfl := eq_of_new hnew
      exact ⟨nofun, nofun⟩
    rw [← hconfig₀] at hevents
    exact hempty.afterAll (r := .new table listening) hsound₀ (.new hnew) hevents
  have hstatic : i < r.table.config.numberSlots := by rwa [hconfig]
  have hsize := hshared.size_lt hsound.toBooks hstatic hfree
  rw [hconfig] at hsize
  refine hfew hsize fun a s hs => ?_
  rw [hshared.profile hs, hconfig]

/-- Thirds of ten, and of two that leave nothing: the first of three slots is freed, and its share is still
there. -/
theorem share_available_of_new_thirds :
    let total := (ResourceProfile.zero.set .cpuMillis 10).set (.extended "gpu") 2
    (TableConfig.evenlyDivided 3 total).defaultSlotProfile = ResourceProfile.zero.set .cpuMillis 3 ∧
    ∃ table, SlotTable.new (.evenlyDivided 3 total) (.new 0) = .ok table ∧
      let r := (TableRun.new table true).afterAll
        [.operation .start, .operation (.allocate ⟨.fixed 0, ⟨0⟩, ⟨1⟩, none, 5⟩),
          .operation (.allocate ⟨.fixed 1, ⟨0⟩, ⟨2⟩, none, 5⟩),
          .operation (.allocate ⟨.fixed 2, ⟨0⟩, ⟨3⟩, none, 5⟩), .operation (.free ⟨1⟩ "")]
      r.table.slots.size = 2 ∧ r.table.isSlotFree 0 = true ∧ ∀ requested available total',
        (r.table.allocate 0 ⟨.fixed 0, ⟨0⟩, ⟨4⟩, none, 5⟩).result ≠
            .error (.resourceExhausted requested available total') ∧
        (r.table.allocate 0 ⟨.dynamic, ⟨0⟩, ⟨4⟩, none, 5⟩).result ≠
            .error (.resourceExhausted requested available total') := by
  intro total
  have hshare : (TableConfig.evenlyDivided 3 total).defaultSlotProfile =
      ResourceProfile.zero.set .cpuMillis 3 := by decide +kernel
  obtain ⟨hvalid, -, hruns⟩ := share_available_of_new (by decide : (3 : UInt64) ≠ 0) total
  obtain ⟨table, hnew⟩ := exists_new hvalid (by decide : (3 : UInt64).toNat ≤ maxSlots) (.new 0)
  obtain rfl := eq_of_new hnew
  refine ⟨hshare, _, hnew, ?_⟩
  intro r
  have hsize : r.table.slots.size = 2 := by decide +kernel
  have hfree : r.table.isSlotFree 0 = true := by decide +kernel
  have hall : ∀ s ∈ r.table.slots.values, s.profile = (TableConfig.evenlyDivided 3 total).defaultSlotProfile := by
    decide +kernel
  refine ⟨hsize, hfree, fun requested available total' => ⟨?_, ?_⟩⟩
  · refine (hruns _ _ hnew true _ 0
      ⟨.fixed 0, ⟨0⟩, ⟨4⟩, none, 5⟩ requested available total' rfl).2 0 ?_ (by decide) hfree
    simp only [List.forall_mem_cons, TableEvent.GrantsShares]
    exact ⟨trivial, ⟨⟨0, rfl, by decide⟩, rfl⟩, ⟨⟨1, rfl, by decide⟩, rfl⟩, ⟨⟨2, rfl, by decide⟩, rfl⟩,
      trivial, nofun⟩
  · refine (hruns _ _ hnew true _ 0
      ⟨.dynamic, ⟨0⟩, ⟨4⟩, none, 5⟩ requested available total' rfl).1 ?_ fun a s hs =>
        hall s (SortedMap.mem_values_iff.2 ⟨a, hs⟩)
    show r.table.slots.size < 3
    omega

end SlotTable

end WorkerSlots
