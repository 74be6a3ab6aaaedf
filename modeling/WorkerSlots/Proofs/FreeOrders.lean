import WorkerSlots.Proofs.Grants

/-!
# The order in which a table frees its slots

* `afterRetire_comm`, `afterRetire_afterDrain`, `afterDrain_comm` : two slots leave the table, or are asked back,
  in either order. What each of them does to the table is apart from what the other does, but for the budget
  and the books of a job that both belong to;
* `Sound.release_eq`, `Sound.release_keeps` : what is told of a slot depends on the slot alone, and freeing it
  leaves all others alone;
* `Sound.release_comm`, `Sound.release_told`, `Sound.free_comm` : so two slots are freed in either order, and
  whoever frees them is told the same;
* `Sound.releaseAll_perm` : all slots are freed in any order.
-/

namespace WorkerSlots

open SlotTable

theorem ResourceBudget.release?_comm {b b₁ b₂ b₁₂ b₂₁ : ResourceBudget} {p q : ResourceProfile}
    (h₁ : b.release? p = some b₁) (h₁₂ : b₁.release? q = some b₁₂) (h₂ : b.release? q = some b₂)
    (h₂₁ : b₂.release? p = some b₂₁) : b₁₂ = b₂₁ := by
  obtain ⟨ht₁, hd₁⟩ := release?_eq_some_iff.1 h₁
  obtain ⟨ht₁₂, hd₁₂⟩ := release?_eq_some_iff.1 h₁₂
  obtain ⟨ht₂, hd₂⟩ := release?_eq_some_iff.1 h₂
  obtain ⟨ht₂₁, hd₂₁⟩ := release?_eq_some_iff.1 h₂₁
  refine ext_units ?_ fun d => ?_
  · rw [ht₁₂, ht₁, ht₂₁, ht₂]
  · have h₁ := hd₁ d
    have h₁₂ := hd₁₂ d
    have h₂ := hd₂ d
    have h₂₁ := hd₂₁ d
    omega

theorem Timers.unregister_comm {K : Type} [Ord K] [DecidableEq K] [Std.TransOrd K] [Std.LawfulEqOrd K]
    (t : Timers K) (k k' : K) : (t.unregister k).unregister k' = (t.unregister k').unregister k := by
  unfold unregister
  rw [SortedMap.erase_comm]

namespace SlotTable

variable {t : SlotTable} {now : Nat} {a b : AllocationId} {s x : TaskSlot} {cause cause' : String}

/-! ## Two slots -/

/-- Two allocations are taken out of the books of their jobs, or of the one that they share. -/
theorem withoutAllocation_comm {jobSlots : SortedMap JobId (SortedMap AllocationId PUnit)} {i j : JobId}
    {as bs as' bs' : SortedMap AllocationId PUnit}
    (hi : jobSlots.get? i = some as) (hj : jobSlots.get? j = some bs)
    (hj' : (withoutAllocation jobSlots i a as).get? j = some bs')
    (hi' : (withoutAllocation jobSlots j b bs).get? i = some as') :
    withoutAllocation (withoutAllocation jobSlots i a as) j b bs' =
      withoutAllocation (withoutAllocation jobSlots j b bs) i a as' := by
  rw [get?_withoutAllocation] at hi' hj'
  refine SortedMap.ext_get? fun k => ?_
  simp only [get?_withoutAllocation]
  by_cases hij : i = j
  · -- of a job that they share, the allocations are those without both
    subst hij
    rw [hi] at hj
    obtain rfl := Option.some.inj hj
    rw [if_pos rfl] at hi' hj'
    split at hj'
    · cases hj'
    split at hi'
    · cases hi'
    obtain rfl := Option.some.inj hj'
    obtain rfl := Option.some.inj hi'
    rw [SortedMap.erase_comm]
    split <;> rfl
  · rw [if_neg (Ne.symm hij), hj] at hj'
    rw [if_neg hij, hi] at hi'
    obtain rfl := Option.some.inj hj'
    obtain rfl := Option.some.inj hi'
    by_cases hk : k = j
    · subst hk
      rw [if_pos rfl, if_neg (Ne.symm hij), if_pos rfl]
    · rw [if_neg hk, if_neg hk]

theorem afterRetire_comm {as bs as' bs' : SortedMap AllocationId PUnit}
    {budget budget₁ budget₂ budget' : ResourceBudget} (hgrant : s.grant ≠ x.grant)
    (hs : t.jobSlots.get? s.job = some as) (hx : t.jobSlots.get? x.job = some bs)
    (hbs : t.budget.release? s.profile = some budget₁) (hbx : t.budget.release? x.profile = some budget₂)
    (hx' : (t.afterRetire now s cause budget₁ as).jobSlots.get? x.job = some bs')
    (hbx' : (t.afterRetire now s cause budget₁ as).budget.release? x.profile = some budget)
    (hs' : (t.afterRetire now x cause' budget₂ bs).jobSlots.get? s.job = some as')
    (hbs' : (t.afterRetire now x cause' budget₂ bs).budget.release? s.profile = some budget') :
    (t.afterRetire now s cause budget₁ as).afterRetire now x cause' budget bs' =
      (t.afterRetire now x cause' budget₂ bs).afterRetire now s cause budget' as' := by
  have hjobs := withoutAllocation_comm hs hx hx' hs'
  have hbudget : budget = budget' := ResourceBudget.release?_comm hbs hbx' hbx hbs'
  unfold afterRetire
  dsimp only
  rw [hjobs, hbudget, Timers.unregister_comm, SortedMap.erase_comm t.slots, SortedMap.erase_comm t.indices,
    SortedMap.insert_comm t.retired hgrant]

theorem afterRetire_afterDrain {as : SortedMap AllocationId PUnit} {budget : ResourceBudget}
    (hne : s.allocation ≠ x.allocation) :
    (t.afterRetire now s cause budget as).afterDrain now x cause' =
      (t.afterDrain now x cause').afterRetire now s cause budget as := by
  unfold afterRetire afterDrain
  dsimp only
  rw [SortedMap.erase_insert_comm t.slots (Ne.symm hne)]

theorem afterDrain_comm (hne : s.allocation ≠ x.allocation) :
    (t.afterDrain now s cause).afterDrain now x cause' = (t.afterDrain now x cause').afterDrain now s cause := by
  unfold afterDrain
  dsimp only
  rw [SortedMap.insert_comm t.slots hne]

/-- A live slot leaves the table if it has no tasks, and stays in it otherwise. -/
theorem Sound.release_cases (h : t.Sound) (hlive : t.slots.get? a = some s) (now : Nat) (cause : String) :
    (s.isEmpty = true ∧ ∃ as budget, t.jobSlots.get? s.job = some as ∧
      t.budget.release? s.profile = some budget ∧
      t.release now a cause = ⟨.ok ⟨s.index, .released, s.grant⟩, t.afterRetire now s cause budget as, [],
        (s.close now cause).2⟩) ∨
    s.isEmpty = false ∧
      t.release now a cause = ⟨.ok ⟨s.index, .draining, s.grant⟩, t.afterDrain now s cause, [],
        (s.close now cause).2⟩ := by
  cases hempty : s.isEmpty with
  | true =>
    obtain ⟨as, hjob⟩ := h.exists_jobSlots hlive
    obtain ⟨budget, hbudget⟩ := h.exists_release? hlive
    exact .inl ⟨rfl, as, budget, hjob, hbudget, release_eq_afterRetire now hlive hempty hjob hbudget cause⟩
  | false => exact .inr ⟨rfl, release_eq_afterDrain now hlive hempty cause⟩

/-- What whoever frees a slot is told depends on nothing but the slot. -/
theorem Sound.release_eq (h : t.Sound) (hlive : t.slots.get? a = some s) (now : Nat) (cause : String) :
    t.release now a cause = ⟨.ok ⟨s.index, if s.isEmpty then .released else .draining, s.grant⟩,
      (t.release now a cause).table, [], (s.close now cause).2⟩ := by
  obtain ⟨hempty, as, budget, -, -, heq⟩ | ⟨hbusy, heq⟩ := h.release_cases hlive now cause
  · rw [heq, hempty]
    rfl
  · rw [heq, hbusy]
    rfl

theorem Sound.release_state (h : t.Sound) (now : Nat) (a : AllocationId) (cause : String) :
    (t.release now a cause).table.state = t.state := by
  cases hlive : t.slots.get? a with
  | none =>
    rw [release_of_none now hlive]
    rfl
  | some s =>
    obtain ⟨freed, failures, u, heq, hstep, -⟩ := h.release_live now hlive cause
    rw [heq]
    exact hstep.state_of_free

/-- Freeing a slot keeps the table sound, and leaves all other slots alone. -/
theorem Sound.release_keeps (h : t.Sound) (hgranted : t.Granted) (now : Nat) (a : AllocationId)
    (cause : String) : (t.release now a cause).table.Sound ∧ (t.release now a cause).table.Granted ∧
      ∀ b ≠ a, (t.release now a cause).table.slots.get? b = t.slots.get? b := by
  cases hlive : t.slots.get? a with
  | none =>
    rw [release_of_none now hlive]
    exact ⟨h, hgranted, fun _ _ => rfl⟩
  | some s =>
    obtain ⟨freed, failures, u, heq, hstep, -, hasked⟩ := h.release_live now hlive cause
    rw [heq]
    exact ⟨h.step hstep, hgranted.of_passage h (hstep.passage hgranted), hasked.others⟩

/-- Two slots are freed in either order. -/
theorem Sound.release_comm (h : t.Sound) (hgranted : t.Granted) (hne : a ≠ b) (now : Nat)
    (cause cause' : String) :
    ((t.release now a cause).table.release now b cause').table =
      ((t.release now b cause').table.release now a cause).table := by
  obtain ⟨hsoundA, -, hothersA⟩ := h.release_keeps hgranted now a cause
  obtain ⟨hsoundB, -, hothersB⟩ := h.release_keeps hgranted now b cause'
  have hb := hothersA b (Ne.symm hne)
  have ha := hothersB a hne
  cases hs : t.slots.get? a with
  | none =>
    rw [hs] at ha
    rw [release_of_none now ha, release_of_none now hs]
    rfl
  | some s =>
    cases hx : t.slots.get? b with
    | none =>
      rw [hx] at hb
      rw [release_of_none now hb, release_of_none now hx]
      rfl
    | some x =>
      rw [hs] at ha
      rw [hx] at hb
      obtain rfl := h.keyed hs
      obtain rfl := h.keyed hx
      have hgrant : s.grant ≠ x.grant := fun heq => hne (hgranted.unshared hs hx heq)
      obtain ⟨hempty, as, budget₁, hjob, hbudget, hfirst⟩ | ⟨hbusy, hfirst⟩ :=
          h.release_cases hs now cause <;>
        obtain ⟨hempty', bs, budget₂, hjob', hbudget', hfirst'⟩ | ⟨hbusy', hfirst'⟩ :=
          h.release_cases hx now cause' <;>
        rw [hfirst] at hsoundA hb ⊢ <;> rw [hfirst'] at hsoundB ha ⊢
      · obtain ⟨bs', hjob₂⟩ := hsoundA.exists_jobSlots hb
        obtain ⟨budget, hbudget₂⟩ := hsoundA.exists_release? hb
        obtain ⟨as', hjob₁⟩ := hsoundB.exists_jobSlots ha
        obtain ⟨budget', hbudget₁⟩ := hsoundB.exists_release? ha
        rw [release_eq_afterRetire now hb hempty' hjob₂ hbudget₂,
          release_eq_afterRetire now ha hempty hjob₁ hbudget₁]
        exact afterRetire_comm hgrant hjob hjob' hbudget hbudget' hjob₂ hbudget₂ hjob₁ hbudget₁
      · rw [release_eq_afterDrain now hb hbusy', release_eq_afterRetire now ha hempty hjob hbudget]
        exact afterRetire_afterDrain hne
      · rw [release_eq_afterRetire now hb hempty' hjob' hbudget', release_eq_afterDrain now ha hbusy]
        exact (afterRetire_afterDrain (Ne.symm hne)).symm
      · rw [release_eq_afterDrain now hb hbusy', release_eq_afterDrain now ha hbusy]
        exact afterDrain_comm hne

/-- Whoever frees a slot is told the same whether or not another one has been freed before. -/
theorem Sound.release_told (h : t.Sound) (hgranted : t.Granted) (hne : a ≠ b) (now : Nat)
    (cause cause' : String) :
    ((t.release now b cause').table.release now a cause).result = (t.release now a cause).result ∧
      ((t.release now b cause').table.release now a cause).failures = (t.release now a cause).failures := by
  obtain ⟨hsound, -, hothers⟩ := h.release_keeps hgranted now b cause'
  have ha := hothers a hne
  cases hs : t.slots.get? a with
  | none =>
    rw [hs] at ha
    rw [release_of_none now ha, release_of_none now hs]
    exact ⟨rfl, rfl⟩
  | some s =>
    rw [hs] at ha
    rw [hsound.release_eq ha, h.release_eq hs]
    exact ⟨rfl, rfl⟩

theorem free_of_started (hstarted : t.state.isStarted = true) (now : Nat) (a : AllocationId) (cause : String) :
    t.free now a cause = t.release now a cause := if_pos hstarted

theorem free_of_not_started (hstarted : ¬ t.state.isStarted = true) (now : Nat) (a : AllocationId)
    (cause : String) : t.free now a cause = .refuse t (.illegalState .notStarted) := if_neg hstarted

/-- Two slots are freed in either order, also where this is refused. -/
theorem Sound.free_comm (h : t.Sound) (hgranted : t.Granted) (hne : a ≠ b) (now : Nat)
    (cause cause' : String) :
    ((t.free now a cause).table.free now b cause').table =
        ((t.free now b cause').table.free now a cause).table ∧
      ((t.free now b cause').table.free now a cause).result = (t.free now a cause).result ∧
      ((t.free now b cause').table.free now a cause).failures = (t.free now a cause).failures := by
  by_cases hstarted : t.state.isStarted = true
  · have hstarted' : ∀ c cause, (t.release now c cause).table.state.isStarted = true := fun c cause => by
      rw [h.release_state now c cause, hstarted]
    rw [free_of_started hstarted, free_of_started hstarted, free_of_started (hstarted' a cause),
      free_of_started (hstarted' b cause')]
    exact ⟨h.release_comm hgranted hne now cause cause', h.release_told hgranted hne now cause cause'⟩
  · rw [free_of_not_started hstarted, free_of_not_started hstarted]
    show (t.free now b cause').table = (t.free now a cause).table ∧ _
    rw [free_of_not_started hstarted, free_of_not_started hstarted]
    exact ⟨rfl, congrArg Reply.result (free_of_not_started hstarted now a cause),
      congrArg Reply.failures (free_of_not_started hstarted now a cause)⟩

/-! ## All slots -/

/-- Two replies that differ in nothing but the order of what they list. -/
structure SameFreed (first second : Reply (List FreedSlot)) : Prop where
  result : ∃ freed freed', first.result = .ok freed ∧ second.result = .ok freed' ∧ freed'.Perm freed
  table : second.table = first.table
  actions : second.actions = first.actions
  failures : second.failures.Perm first.failures

/-- Slots are freed in any order: by induction on how one order comes from the other. -/
theorem Sound.releaseAll_perm (h : t.Sound) (hgranted : t.Granted) {order order' : List AllocationId}
    (hperm : order.Perm order') (hnodup : order.Nodup)
    (hlive : ∀ a ∈ order, ∃ s, t.slots.get? a = some s) (now : Nat) :
    SameFreed (SlotTable.releaseAll now order t) (SlotTable.releaseAll now order' t) := by
  induction hperm generalizing t with
  | nil => exact ⟨⟨[], [], rfl, rfl, .refl _⟩, rfl, rfl, .refl _⟩
  | @cons a rest rest' _ ih =>
    obtain ⟨ha, hrest⟩ := List.nodup_cons.1 hnodup
    obtain ⟨s, hs⟩ := hlive a List.mem_cons_self
    have heq := h.release_eq hs now closeCause
    obtain ⟨hsound, hkept, hothers⟩ := h.release_keeps hgranted now a closeCause
    obtain ⟨⟨freed, freed', hfreed, hfreed', hsame⟩, htable, hactions, hfailures⟩ :=
      ih hsound hkept hrest fun b hb => by
        rw [hothers b (ne_of_mem_of_not_mem hb ha)]
        exact hlive b (List.mem_cons_of_mem _ hb)
    rw [releaseAll_cons now heq, releaseAll_cons now heq]
    refine ⟨⟨_, _, congrArg (Except.map _) hfreed, congrArg (Except.map _) hfreed', hsame.cons _⟩, htable,
      hactions, hfailures.append_left _⟩
  | swap a b rest =>
    obtain ⟨hb, hrest⟩ := List.nodup_cons.1 hnodup
    obtain ⟨ha, hrest⟩ := List.nodup_cons.1 hrest
    rw [List.mem_cons, not_or] at hb
    obtain ⟨s, hs⟩ := hlive a (List.mem_cons_of_mem _ List.mem_cons_self)
    obtain ⟨x, hx⟩ := hlive b List.mem_cons_self
    obtain ⟨hsoundA, -, hothersA⟩ := h.release_keeps hgranted now a closeCause
    obtain ⟨hsoundB, hkeptB, hothersB⟩ := h.release_keeps hgranted now b closeCause
    obtain ⟨hsound, -, hothers⟩ := hsoundB.release_keeps hkeptB now a closeCause
    -- each of the two is as it was when the other has been freed
    have hs' := (hothersB a (Ne.symm hb.1)).trans hs
    have hx' := (hothersA b hb.1).trans hx
    obtain ⟨freed, failures, u, heq, -⟩ := hsound.releaseAll now hrest fun c hc => by
      rw [hothers c (ne_of_mem_of_not_mem hc ha), hothersB c (ne_of_mem_of_not_mem hc hb.2)]
      exact hlive c (List.mem_cons_of_mem _ (List.mem_cons_of_mem _ hc))
    rw [releaseAll_cons now (h.release_eq hx now closeCause),
      releaseAll_cons now (hsoundB.release_eq hs' now closeCause),
      releaseAll_cons now (h.release_eq hs now closeCause),
      releaseAll_cons now (hsoundA.release_eq hx' now closeCause),
      h.release_comm hgranted (Ne.symm hb.1) now closeCause closeCause, heq]
    refine ⟨⟨_, _, rfl, rfl, .swap _ _ _⟩, rfl, rfl, ?_⟩
    dsimp only
    rw [← List.append_assoc, ← List.append_assoc]
    exact List.perm_append_comm.append_right _
  | trans hfirst _ ih₁ ih₂ =>
    obtain ⟨⟨freed₁, freed₂, hfreed₁, hfreed₂, hsame₁⟩, htable₁, hactions₁, hfailures₁⟩ :=
      ih₁ h hgranted hnodup hlive
    obtain ⟨⟨freed₂', freed₃, hfreed₂', hfreed₃, hsame₂⟩, htable₂, hactions₂, hfailures₂⟩ :=
      ih₂ h hgranted (hfirst.nodup_iff.1 hnodup) fun a ha => hlive a (hfirst.mem_iff.2 ha)
    rw [hfreed₂] at hfreed₂'
    obtain rfl := Except.ok.inj hfreed₂'
    exact ⟨⟨freed₁, freed₃, hfreed₁, hfreed₃, hsame₂.trans hsame₁⟩, htable₂.trans htable₁,
      hactions₂.trans hactions₁, hfailures₂.trans hfailures₁⟩

end SlotTable

end WorkerSlots
