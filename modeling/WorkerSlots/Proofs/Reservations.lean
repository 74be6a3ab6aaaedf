import WorkerSlots.Proofs.Refusals

/-!
# Budgets over sequences of calls

A budget is used by calls, each of which takes a profile or gives one back. What is counted here are
numbers, so that an amount that wrapped around would be seen.

* `BudgetCall`, `ResourceBudget.after?`, `afterAll?` : calls, and the budget after them, if none of them is a
  fault;
* `taken`, `givenBack` : the profiles that a sequence of calls takes and gives back;
* `units_afterAll?`, `within_afterAll?` : what is reserved is the difference, and never more than the total;
* `Serves` : what a budget does with a profile, by what is left and what is taken;
* `budget_of_calls` : all of this after every sequence of calls, and of the budget of every table.
-/

namespace WorkerSlots

/-- One use of a budget. -/
inductive BudgetCall where
  | reserve (p : ResourceProfile)
  | release (p : ResourceProfile)
  deriving DecidableEq

namespace ResourceBudget

variable {b b' : ResourceBudget} {p : ResourceProfile} {d : Dimension}

/-- A budget after a call, which leaves it as it is if the profile does not fit. There is none if more is given
back than is taken. -/
def after? (b : ResourceBudget) : BudgetCall → Option ResourceBudget
  | .reserve p => some ((b.reserve? p).getD b)
  | .release p => b.release? p

/-- A budget after some calls, one after the other. -/
def afterAll? (b : ResourceBudget) (calls : List BudgetCall) : Option ResourceBudget := calls.foldlM after? b

/-- The profiles that some calls take. -/
def taken (b : ResourceBudget) : List BudgetCall → List ResourceProfile
  | [] => []
  | .reserve p :: rest =>
    match b.reserve? p with
    | some b' => p :: b'.taken rest
    | none => b.taken rest
  | .release p :: rest => ((b.release? p).map fun b' => b'.taken rest).getD []

/-- The profiles that some calls give back. -/
def givenBack : List BudgetCall → List ResourceProfile
  | [] => []
  | .reserve _ :: rest => givenBack rest
  | .release p :: rest => p :: givenBack rest

/-- The amount of some profiles in one dimension, together. -/
def unitsOf (ps : List ResourceProfile) (d : Dimension) : Nat := (ps.map fun p => p.units d).sum

/-! ## Calls -/

theorem after?_reserve_of_some (h : b.reserve? p = some b') : b.after? (.reserve p) = some b' := by
  simp [after?, h]

theorem after?_reserve_of_none (h : b.reserve? p = none) : b.after? (.reserve p) = some b := by
  simp [after?, h]

theorem afterAll?_cons (b : ResourceBudget) (call : BudgetCall) (rest : List BudgetCall) :
    b.afterAll? (call :: rest) = (b.after? call).bind fun b' => b'.afterAll? rest := by
  simp [afterAll?]

/-- What is reserved is what was before, and what has been taken since without what has been given back. -/
theorem units_afterAll? {calls : List BudgetCall} (h : b.afterAll? calls = some b') (d : Dimension) :
    b'.reserved.units d + unitsOf (givenBack calls) d = b.reserved.units d + unitsOf (b.taken calls) d := by
  induction calls generalizing b with
  | nil =>
    obtain rfl : b = b' := by simpa [afterAll?] using h
    rfl
  | cons call rest ih =>
    rw [afterAll?_cons] at h
    obtain ⟨b₁, hcall, hrest⟩ := Option.bind_eq_some_iff.1 h
    have hsum := ih hrest
    cases call with
    | reserve p =>
      cases hreserve : b.reserve? p with
      | none =>
        rw [after?_reserve_of_none hreserve] at hcall
        obtain rfl := Option.some.inj hcall
        simpa [givenBack, taken, hreserve] using hsum
      | some b₂ =>
        rw [after?_reserve_of_some hreserve] at hcall
        obtain rfl := Option.some.inj hcall
        have hmore := (reserve?_eq_some_iff.1 hreserve).2.1 d
        simp only [givenBack, taken, hreserve, unitsOf, List.map_cons, List.sum_cons] at hsum ⊢
        omega
    | release p =>
      have hrelease : b.release? p = some b₁ := hcall
      have hless := (release?_eq_some_iff.1 hrelease).2 d
      simp only [givenBack, taken, hrelease, unitsOf, List.map_cons, List.sum_cons, Option.map_some,
        Option.getD_some] at hsum ⊢
      omega

/-- No call changes the total, and none takes more than there is. -/
theorem within_after? {call : BudgetCall} (h : b.after? call = some b')
    (hwithin : ∀ d, b.reserved.units d ≤ b.total.units d) :
    b'.total = b.total ∧ ∀ d, b'.reserved.units d ≤ b'.total.units d := by
  cases call with
  | reserve p =>
    cases hreserve : b.reserve? p with
    | none =>
      rw [after?_reserve_of_none hreserve] at h
      obtain rfl := Option.some.inj h
      exact ⟨rfl, hwithin⟩
    | some b₂ =>
      rw [after?_reserve_of_some hreserve] at h
      obtain rfl := Option.some.inj h
      obtain ⟨htotal, hmore, hfit⟩ := reserve?_eq_some_iff.1 hreserve
      refine ⟨htotal, fun d => ?_⟩
      rw [htotal, hmore d]
      exact hfit d
  | release p =>
    obtain ⟨htotal, hless⟩ := release?_eq_some_iff.1 h
    refine ⟨htotal, fun d => ?_⟩
    have := hless d
    have := hwithin d
    rw [htotal]
    omega

theorem within_afterAll? {calls : List BudgetCall} (h : b.afterAll? calls = some b')
    (hwithin : ∀ d, b.reserved.units d ≤ b.total.units d) :
    b'.total = b.total ∧ ∀ d, b'.reserved.units d ≤ b'.total.units d := by
  induction calls generalizing b with
  | nil =>
    obtain rfl : b = b' := by simpa [afterAll?] using h
    exact ⟨rfl, hwithin⟩
  | cons call rest ih =>
    rw [afterAll?_cons] at h
    obtain ⟨b₁, hcall, hrest⟩ := Option.bind_eq_some_iff.1 h
    obtain ⟨htotal, hwithin₁⟩ := within_after? hcall hwithin
    obtain ⟨htotal', hwithin'⟩ := ih hrest hwithin₁
    exact ⟨htotal'.trans htotal, hwithin'⟩

/-! ## What is left -/

theorem units_available (b : ResourceBudget) (d : Dimension) :
    b.available.units d = b.total.units d - b.reserved.units d :=
  ResourceProfile.units_subSat _ _ d

/-- A profile fits into what is left iff it can be added to what is taken. -/
theorem fitsWithin_available_iff (hwithin : ∀ d, b.reserved.units d ≤ b.total.units d) :
    p.fitsWithin b.available = true ↔ ∀ d, b.reserved.units d + p.units d ≤ b.total.units d := by
  rw [ResourceProfile.fitsWithin_iff]
  refine forall_congr' fun d => ?_
  have := hwithin d
  rw [units_available]
  omega

/-- What is left and what is taken is all there is. -/
theorem available_add?_reserved (hwithin : ∀ d, b.reserved.units d ≤ b.total.units d) :
    b.available.add? b.reserved = some b.total := by
  refine ResourceProfile.add?_eq_some_iff.2 fun d => ?_
  have := hwithin d
  rw [units_available]
  omega

/-- What a budget does with a profile: it is taken iff it fits into what is left, and given back iff it fits
into what is taken. The amounts add up as numbers do. -/
structure Serves (b : ResourceBudget) (p : ResourceProfile) : Prop where
  reserves : p.fitsWithin b.available = true → ∃ b', b.reserve? p = some b' ∧ b'.total = b.total ∧
    ∀ d, b'.reserved.units d = b.reserved.units d + p.units d
  refuses : p.fitsWithin b.available = false → b.reserve? p = none ∧ b.after? (.reserve p) = some b
  releases : p.fitsWithin b.reserved = true → ∃ b', b.release? p = some b' ∧ b'.total = b.total ∧
    ∀ d, b.reserved.units d = b'.reserved.units d + p.units d
  faults : p.fitsWithin b.reserved = false → b.release? p = none

theorem serves (hwithin : ∀ d, b.reserved.units d ≤ b.total.units d) (p : ResourceProfile) : b.Serves p := by
  have hreserve := (exists_reserve?_iff (b := b) (p := p)).trans (fitsWithin_available_iff hwithin).symm
  refine ⟨fun hfit => ?_, fun hover => ?_, fun hfit => ?_, fun hover => ?_⟩
  · obtain ⟨b', hb'⟩ := hreserve.2 hfit
    obtain ⟨htotal, hmore, -⟩ := reserve?_eq_some_iff.1 hb'
    exact ⟨b', hb', htotal, hmore⟩
  · have hnone : b.reserve? p = none := by
      refine Option.eq_none_iff_forall_ne_some.2 fun b' hb' => ?_
      rw [hreserve.1 ⟨b', hb'⟩] at hover
      cases hover
    exact ⟨hnone, after?_reserve_of_none hnone⟩
  · obtain ⟨b', hb'⟩ := exists_release? (ResourceProfile.fitsWithin_iff.1 hfit)
    obtain ⟨htotal, hless⟩ := release?_eq_some_iff.1 hb'
    exact ⟨b', hb', htotal, hless⟩
  · refine Option.eq_none_iff_forall_ne_some.2 fun b' hb' => ?_
    obtain ⟨-, hless⟩ := release?_eq_some_iff.1 hb'
    have hfit : p.fitsWithin b.reserved = true := ResourceProfile.fitsWithin_iff.2 fun d => by
      have := hless d
      omega
    rw [hfit] at hover
    cases hover

end ResourceBudget

/-! ## Refused requests -/

namespace SlotTable

/-- A request that is refused for lack of resources does not fit into what is left, as the error reports it. -/
theorem Sound.exhausted {t : SlotTable} (h : t.Sound) (hclocked : t.Clocked) {now : Nat} {request : SlotRequest}
    {requested available total : ResourceProfile}
    (herror : (t.allocate now request).result = .error (.resourceExhausted requested available total)) :
    requested = t.requestedProfile request ∧ available = t.budget.available ∧ total = t.budget.total ∧
      requested.fitsWithin available = false := by
  generalize hreason : TableError.resourceExhausted requested available total = error at herror
  cases h.refusal_of_error hclocked herror with
  | @exhausted d hstate hnew hindex hover =>
    obtain ⟨rfl, rfl, rfl⟩ := TableError.resourceExhausted.inj hreason
    refine ⟨rfl, rfl, rfl, Bool.eq_false_iff.2 fun hfit => ?_⟩
    have := (ResourceBudget.fitsWithin_available_iff h.within).1 hfit d
    omega
  | notRunning | grantedOtherwise | conflict | untimed => cases hreason

end SlotTable

namespace ResourceBudget

/-- After any calls, none of which is a fault, what is reserved is what was taken without what was given back. It
fits within the total, and together with what is left it is the total. The next profile is taken iff it fits
into what is left, and otherwise nothing changes; it can be given back iff it fits into what is reserved. So a
table that refuses a request for lack of resources reports as left what the request does not fit into. -/
theorem budget_of_calls (total : ResourceProfile) :
    (∀ calls b, (new total).afterAll? calls = some b → b.total = total ∧
      (∀ d, b.reserved.units d + unitsOf (givenBack calls) d = unitsOf ((new total).taken calls) d) ∧
      b.reserved.fitsWithin total = true ∧
      (∀ d, b.available.units d + b.reserved.units d = total.units d) ∧
      b.available.add? b.reserved = some total ∧ ∀ p, b.Serves p) ∧
    ∀ (config : TableConfig) (timers : Timers AllocationId) (table : SlotTable),
      config.totalResources = total → SlotTable.new config timers = .ok table →
      ∀ (listening : Bool) (events : List TableEvent) (now : Nat) (request : SlotRequest)
        (requested available total' : ResourceProfile),
        let r := (TableRun.new table listening).afterAll events
        (r.table.allocate now request).result = .error (.resourceExhausted requested available total') →
          available = r.table.budget.available ∧ total' = total ∧ requested.fitsWithin available = false := by
  constructor
  · intro calls b hcalls
    have hbegin : ∀ d, (new total).reserved.units d ≤ (new total).total.units d := fun d => by
      simp [new]
    obtain ⟨htotal, hwithin⟩ := within_afterAll? hcalls hbegin
    have htotal : b.total = total := htotal
    have hsum := available_add?_reserved hwithin
    refine ⟨htotal, fun d => ?_, ?_, fun d => ?_, htotal ▸ hsum, serves hwithin⟩
    · have hunits := units_afterAll? hcalls d
      have hzero : (new total).reserved.units d = 0 := ResourceProfile.units_zero d
      omega
    · rw [← htotal]
      exact ResourceProfile.fitsWithin_iff.2 hwithin
    · rw [← htotal]
      exact (ResourceProfile.add?_eq_some_iff.1 hsum d).symm
  · intro config timers table htotal hnew listening events now request requested available total' r herror
    obtain ⟨hsound, hconfig⟩ := SlotTable.Sound.ofNew hnew listening events
    obtain ⟨-, havailable, htotal', hover⟩ :=
      hsound.exhausted (.ofNew hnew listening events) herror
    refine ⟨havailable, ?_, hover⟩
    rw [htotal', hsound.capacity, hconfig, htotal]

/-- Nearly all is taken; what would not fit into a word is refused, and some is given back and taken again. A
table whose only slot is granted has nothing left for another one. -/
theorem budget_of_calls_nearFull :
    let total : ResourceProfile := (ResourceProfile.zero.set .cpuMillis 0xffffffffffffffff).set (.extended "gpu") 1
    let cpu (n : UInt64) : ResourceProfile := ResourceProfile.zero.set .cpuMillis n
    let calls : List BudgetCall := [.reserve (cpu 0xfffffffffffffffe), .reserve (cpu 2), .release (cpu 5),
      .reserve ((cpu 5).set (.extended "gpu") 1), .reserve (ResourceProfile.zero.set (.extended "gpu") 1)]
    (∃ b, (new total).afterAll? calls = some b ∧ b.reserved.units .cpuMillis = 0xfffffffffffffffe ∧
      b.reserved.units (.extended "gpu") = 1 ∧ b.available = cpu 1 ∧ b.reserve? (cpu 2) = none) ∧
    ∃ table, SlotTable.new .standard (.new 0) = .ok table ∧
      let r := (TableRun.new table true).afterAll
        [.operation .start, .operation (.allocate ⟨.fixed 0, ⟨0⟩, ⟨1⟩, none, 5⟩)]
      ∃ requested available total, (r.table.allocate 0 ⟨.dynamic, ⟨0⟩, ⟨2⟩, none, 5⟩).result =
          .error (.resourceExhausted requested available total) ∧
        available = r.table.budget.available ∧ requested.fitsWithin available = false := by
  intro total cpu calls
  constructor
  · obtain ⟨b, hb⟩ : ∃ b, (new total).afterAll? calls = some b :=
      Option.isSome_iff_exists.1 (by decide +kernel)
    obtain ⟨-, hreserved, -, -, -, hserves⟩ := (budget_of_calls total).1 calls b hb
    have hcpu := hreserved .cpuMillis
    have hgpu := hreserved (.extended "gpu")
    have havailable : b.available = cpu 1 := by
      have hall : ((new total).afterAll? calls).map available = some (cpu 1) := by decide +kernel
      rw [hb] at hall
      exact Option.some.inj hall
    have htaken : (new total).taken calls = [cpu 0xfffffffffffffffe, (cpu 5).set (.extended "gpu") 1] := by
      decide +kernel
    rw [htaken] at hcpu hgpu
    refine ⟨b, hb, ?_, ?_, havailable, ((hserves (cpu 2)).refuses ?_).1⟩
    · have hsums : unitsOf (givenBack calls) .cpuMillis = 5 ∧
          unitsOf [cpu 0xfffffffffffffffe, (cpu 5).set (.extended "gpu") 1] .cpuMillis =
            0xfffffffffffffffe + 5 := by
        decide +kernel
      omega
    · have hsums : unitsOf (givenBack calls) (.extended "gpu") = 0 ∧
          unitsOf [cpu 0xfffffffffffffffe, (cpu 5).set (.extended "gpu") 1] (.extended "gpu") = 1 := by
        decide +kernel
      omega
    · rw [havailable]
      decide +kernel
  · have hnew : SlotTable.new .standard (.new 0) = .ok _ := rfl
    refine ⟨_, hnew, _, _, _, rfl, ?_⟩
    obtain ⟨havailable, -, hover⟩ := (budget_of_calls TableConfig.standardProfile).2 _ _ _ rfl hnew true
      [.operation .start, .operation (.allocate ⟨.fixed 0, ⟨0⟩, ⟨1⟩, none, 5⟩)] 0
      ⟨.dynamic, ⟨0⟩, ⟨2⟩, none, 5⟩ _ _ _ rfl
    exact ⟨havailable, hover⟩

end ResourceBudget

end WorkerSlots
