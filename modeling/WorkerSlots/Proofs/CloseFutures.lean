import WorkerSlots.Proofs.Teardowns
import WorkerSlots.Proofs.Wakeups
import WorkerSlots.Slot.Run
import WorkerSlots.Table.Config

/-!
# Slots that are closed

A slot is used, its memory is used, and time passes, in any order.

* `SlotEvent`, `SlotRun.after`, `SlotRun.afterAll` : what happens to a slot that is not given up;
* `findsEmpty`, `closedAt?` : a request that finds no task, and the time of the first one;
* `futures` : what the futures that were returned for the requests say;
* `advance_eq`, `advance_add` : what time that passes comes to;
* `Change`, `later_after`, `memory_after` : what one event does, to the slot and to its memory;
* `Serving`, `TornDown` : a slot before and after the first request that finds no task. Every run ends in one of the
  two (`Serving.afterAll`, `Serving.tornDown`);
* `TornDown.of_isDone`, `TornDown.isDone_settle`, `Serving.isDone_close` : when the slot is closed; `futures_eq`;
* `ClosesOnce`, `closes_once_of_new` : when the teardown begins, and when the futures are done, in every run.
-/

namespace WorkerSlots

/-- What happens to a slot that is not given up. -/
inductive SlotEvent where
  | activate
  | deactivate
  | bind (task : Task)
  | unbind (execution : ExecutionId)
  | close (cause : String)
  /-- The memory of the slot is used. -/
  | memory (use : MemoryUse)
  /-- What is due is done. -/
  | background
  /-- Time passes. -/
  | advance (ms : UInt64)

/-- The use of memory that an event is. -/
def SlotEvent.use? : SlotEvent → Option MemoryUse
  | .memory use => some use
  | _ => none

def SlotEvent.isClose : SlotEvent → Bool
  | .close _ => true
  | _ => false

namespace SlotRun

/-- A slot after an event. What is asked of it by mistake comes to nothing. -/
def after (r : SlotRun) : SlotEvent → SlotRun
  | .activate => { r with slot := r.slot.activate?.getD r.slot }
  | .deactivate => { r with slot := r.slot.deactivate?.getD r.slot }
  | .bind task =>
    match r.slot.add task with
    | .ok (_, slot) => { r with slot }
    | .error _ => r
  | .unbind execution =>
    match r.slot.remove? execution with
    | some (_, slot) => { r with slot }
    | none => r
  | .close cause => r.close cause
  | .memory use => (r.onMemory fun m => ((), use.run m)).2
  | .background => Timed.settle r
  | .advance ms => Timed.advance ms r

/-- A slot after some events, one after the other. -/
def afterAll (r : SlotRun) (events : List SlotEvent) : SlotRun := events.foldl after r

/-- An event is a request to give the slot back, which has no task. -/
def findsEmpty (r : SlotRun) (e : SlotEvent) : Bool := e.isClose && r.slot.isEmpty

/-- The time of the first request that finds no task. -/
def closedAt? (r : SlotRun) : List SlotEvent → Option Nat
  | [] => none
  | e :: rest => if r.findsEmpty e then some r.now else (r.after e).closedAt? rest

/-- Whether those are done that were returned for the requests so far, and for those to come. A future is done from
the first moment on at which the slot is. -/
def futures (r : SlotRun) : List SlotEvent → List Bool → List Bool
  | [], returned => returned
  | e :: rest, returned =>
    let r' := r.after e
    let returned := if e.isClose then returned ++ [false] else returned
    r'.futures rest (returned.map (· || r'.isDone))

end SlotRun

/-! ## Time -/

namespace TaskSlot

variable {s : TaskSlot} {now now' deadline : Nat}

theorem settle_of_over (hteardown : s.teardown = .waiting deadline)
    (hover : s.memory.isUnused = true ∨ deadline ≤ now) : s.settle now = { s with teardown := .done } := by
  unfold settle
  rw [hteardown]
  refine if_pos ?_
  rw [Bool.or_eq_true, decide_eq_true_iff]
  exact hover

theorem settle_of_not_over (h : ∀ deadline, s.teardown = .waiting deadline →
    ¬ (s.memory.isUnused = true ∨ deadline ≤ now)) : s.settle now = s := by
  unfold settle
  split
  · rename_i hteardown
    refine if_neg ?_
    rw [Bool.or_eq_true, decide_eq_true_iff]
    exact h _ hteardown
  · rfl

/-- It does not matter whether one has looked at a slot before. -/
theorem settle_settle (s : TaskSlot) (h : now ≤ now') : (s.settle now).settle now' = s.settle now' := by
  by_cases hover : ∃ deadline, s.teardown = .waiting deadline ∧ (s.memory.isUnused = true ∨ deadline ≤ now)
  · obtain ⟨deadline, hteardown, hover⟩ := hover
    rw [settle_of_over hteardown hover, settle_of_over hteardown (hover.imp id fun hle => Nat.le_trans hle h)]
    exact settle_of_not_over nofun
  · have hsame : s.settle now = s :=
      settle_of_not_over fun deadline hteardown hnow => hover ⟨deadline, hteardown, hnow⟩
    rw [hsame]

end TaskSlot

namespace SlotRun

variable {r start : SlotRun} {e : SlotEvent} {graceMs : UInt64} {time : Nat} {events : List SlotEvent}

theorem advance_eq (r : SlotRun) (ms : UInt64) : Timed.advance ms r =
    { r with now := r.now + ms.toNat, slot := r.slot.settle (r.now + ms.toNat) } := by
  show Timed.advanceTo (r.now + ms.toNat) 1 r = _
  unfold Timed.advanceTo
  cases hnext : Timed.next? r with
  | none => rfl
  | some t =>
    dsimp only
    split
    · rename_i hlt
      show ({ r with now := r.now + ms.toNat, slot := (r.slot.settle t).settle (r.now + ms.toNat) } : SlotRun) = _
      rw [r.slot.settle_settle (Nat.le_of_lt hlt)]
    · rfl

/-- It does not matter how often one looks while time passes. -/
theorem advance_add (r : SlotRun) {a b : UInt64} (h : a.toNat + b.toNat < UInt64.size) :
    Timed.advance b (Timed.advance a r) = Timed.advance (a + b) r := by
  rw [advance_eq r a, advance_eq, advance_eq, Word.toNat_add_of_lt h]
  dsimp only
  rw [Nat.add_assoc, TaskSlot.settle_settle _ (Nat.add_le_add_left (Nat.le_add_right _ _) _)]

/-! ## What one event does -/

/-- What an event comes to. -/
inductive Change (r : SlotRun) : SlotEvent → SlotRun → Prop where
  | nothing {e : SlotEvent} (huse : e.use? = none) : Change r e r
  | state {e : SlotEvent} (huse : e.use? = none) (state : SlotState) (hstate : r.slot.state ≠ .releasing) :
      Change r e { r with slot := { r.slot with state } }
  | bind (task : Task) (hstate : r.slot.state ≠ .releasing) :
      Change r (.bind task) { r with slot := { r.slot with tasks := r.slot.tasks.insert task.execution task } }
  | unbind (x : ExecutionId) (hbusy : r.slot.isEmpty = false) :
      Change r (.unbind x) { r with slot := { r.slot with tasks := r.slot.tasks.erase x } }
  | close (cause : String) : Change r (.close cause) (r.close cause)
  | use (use : MemoryUse) :
      Change r (.memory use) { r with slot := { r.slot with memory := use.run r.slot.memory } }
  | look {e : SlotEvent} (huse : e.use? = none) (now : Nat) (hnow : r.now ≤ now) :
      Change r e { r with now, slot := r.slot.settle now }

theorem after_change (r : SlotRun) (e : SlotEvent) : r.Change e (r.after e) := by
  cases e with
  | activate =>
    show r.Change _ { r with slot := r.slot.activate?.getD r.slot }
    unfold TaskSlot.activate?
    split
    · rename_i hstate
      exact .state rfl _ (by rw [hstate]; nofun)
    · exact .nothing rfl
  | deactivate =>
    show r.Change _ { r with slot := r.slot.deactivate?.getD r.slot }
    unfold TaskSlot.deactivate?
    split
    · rename_i hstate
      exact .state rfl _ (by rw [hstate]; nofun)
    · exact .nothing rfl
  | bind task =>
    by_cases hactive : r.slot.isActive task.job task.allocation = true
    · have hadd := TaskSlot.add_eq_of_isActive hactive
      have hstate : r.slot.state ≠ .releasing := by
        rw [(TaskSlot.isActive_iff.1 hactive).1]
        nofun
      cases hcontains : r.slot.tasks.contains task.execution with
      | true =>
        simp only [after, hadd, hcontains, ↓reduceIte]
        exact .nothing rfl
      | false =>
        simp only [after, hadd, hcontains, Bool.false_eq_true, ↓reduceIte]
        exact .bind task hstate
    · have hadd : ∃ fault, r.slot.add task = .error fault := by
        rw [TaskSlot.isActive_iff] at hactive
        unfold TaskSlot.add
        split
        · exact ⟨_, rfl⟩
        · split
          · exact ⟨_, rfl⟩
          · rename_i hjob hallocation
            rw [if_pos fun hstate => hactive ⟨hstate, (not_not.1 hjob).symm, (not_not.1 hallocation).symm⟩]
            exact ⟨_, rfl⟩
      obtain ⟨fault, hadd⟩ := hadd
      simp only [after, hadd]
      exact .nothing rfl
  | unbind x =>
    cases htask : r.slot.tasks.get? x with
    | none =>
      simp only [after, TaskSlot.remove?, htask, Option.map_none]
      exact .nothing rfl
    | some task =>
      simp only [after, TaskSlot.remove?, htask, Option.map_some]
      exact .unbind x (SortedMap.isEmpty_eq_false_iff.2 ⟨x, task, htask⟩)
  | close cause => exact .close cause
  | memory use => exact .use use
  | background => exact .look rfl r.now (Nat.le_refl _)
  | advance ms =>
    show r.Change _ (Timed.advance ms r)
    rw [advance_eq]
    exact .look rfl _ (Nat.le_add_right _ _)

theorem findsEmpty_iff : r.findsEmpty e = true ↔ (∃ cause, e = .close cause) ∧ r.slot.isEmpty = true := by
  unfold findsEmpty
  rw [Bool.and_eq_true]
  refine and_congr_left fun _ => ?_
  cases e with
  | close cause => exact iff_of_true rfl ⟨cause, rfl⟩
  | _ => exact iff_of_false nofun nofun

theorem later_settle (s : TaskSlot) (now : Nat) : s.Later (s.settle now) := by
  have hsame : (s.settle now).state = s.state ∧ (s.settle now).tasks = s.tasks := by
    unfold TaskSlot.settle
    split
    · split <;> exact ⟨rfl, rfl⟩
    · exact ⟨rfl, rfl⟩
  refine ⟨.settle s now, fun hstate => hsame.1.trans hstate, fun _ _ _ htask => hsame.2 ▸ htask, fun h => ?_⟩
  rw [TaskSlot.settle_of_not_over fun deadline hwaiting => absurd (h.teardown.symm.trans hwaiting) nofun]
  exact h

/-- Whatever happens to a slot, it is a later version of itself, unless its teardown begins. -/
theorem later_after (h : r.findsEmpty e = false) : r.slot.Later (r.after e).slot := by
  have hchange := r.after_change e
  generalize r.after e = r' at hchange
  cases hchange with
  | nothing => exact .refl _
  | state _ state hstate => exact .state hstate state
  | bind task hstate => exact .bind hstate _
  | unbind x => exact .unbind _ x
  | close cause => exact .close h r.now cause
  | use use => exact .use _ use
  | look _ now => exact later_settle _ now

/-- The memory changes by its uses only, unless the teardown begins. -/
theorem memory_after (h : r.findsEmpty e = false ∨ r.slot.teardown ≠ .idle) :
    (r.after e).slot.memory = e.use?.elim r.slot.memory (·.run r.slot.memory) := by
  have hchange := r.after_change e
  generalize r.after e = r' at hchange
  cases hchange with
  | nothing huse | state huse =>
    rw [huse]
    rfl
  | bind | unbind | use => rfl
  | close cause =>
    have hnot : (r.slot.isEmpty && r.slot.teardown = .idle) = false := by
      refine Bool.eq_false_iff.2 fun hand => ?_
      rw [Bool.and_eq_true, decide_eq_true_iff] at hand
      exact h.elim (fun hbusy => absurd (hbusy.symm.trans hand.1) nofun) fun hbegun => hbegun hand.2
    show (r.slot.close r.now cause).1.memory = r.slot.memory
    rw [TaskSlot.close_eq, hnot]
    rfl
  | look huse now =>
    rw [huse]
    show (r.slot.settle now).memory = r.slot.memory
    unfold TaskSlot.settle
    split
    · split <;> rfl
    · rfl

theorem now_after (r : SlotRun) (e : SlotEvent) :
    r.now ≤ (r.after e).now ∧ (r.after e).abandoned = r.abandoned := by
  have hchange := r.after_change e
  generalize r.after e = r' at hchange
  cases hchange with
  | look _ now hnow => exact ⟨hnow, rfl⟩
  | _ => exact ⟨Nat.le_refl _, rfl⟩

/-- A slot that is to be given back stays so. -/
theorem releasing_after (hstate : r.slot.state = .releasing) (e : SlotEvent) :
    (r.after e).slot.state = .releasing := by
  cases hempty : r.findsEmpty e with
  | false => exact (later_after hempty).releasing hstate
  | true =>
    obtain ⟨⟨cause, rfl⟩, -⟩ := findsEmpty_iff.1 hempty
    exact TaskSlot.close_state r.slot r.now cause

theorem releasing_afterAll (hstate : r.slot.state = .releasing) (events : List SlotEvent) :
    (r.afterAll events).slot.state = .releasing := by
  induction events generalizing r with
  | nil => exact hstate
  | cons e rest ih => exact ih (releasing_after hstate e)

/-! ## Before and after the teardown begins -/

/-- No request has found the slot without tasks. -/
structure Serving (r : SlotRun) (graceMs : UInt64) : Prop where
  inUse : r.slot.InUse graceMs
  kept : r.abandoned = false

/-- A request has found the slot without tasks, for the first time at a time `time`. -/
structure TornDown (r : SlotRun) (graceMs : UInt64) (time : Nat) : Prop where
  givenBack : r.slot.GivenBack graceMs time r.now
  state : r.slot.state = .releasing
  kept : r.abandoned = false

theorem Serving.after (h : r.Serving graceMs) (he : r.findsEmpty e = false) : (r.after e).Serving graceMs :=
  ⟨(later_after he).inUse h.inUse, (now_after r e).2.trans h.kept⟩

theorem Serving.close (h : r.Serving graceMs) (he : r.findsEmpty e = true) :
    (r.after e).TornDown graceMs r.now := by
  obtain ⟨⟨cause, rfl⟩, hempty⟩ := findsEmpty_iff.1 he
  exact ⟨(TaskSlot.Leaving.close hempty r.now cause).givenBack h.inUse, TaskSlot.close_state r.slot r.now cause,
    h.kept⟩

theorem TornDown.begun (h : r.TornDown graceMs time) : r.slot.teardown ≠ .idle := by
  obtain hwaiting | ⟨hdone, -⟩ := h.givenBack.teardown
  · rw [hwaiting]
    nofun
  · rw [hdone]
    nofun

/-- What is done to a slot that is torn down comes to nothing but for the uses of its memory and the end of the
wait. -/
theorem TornDown.aside_after (h : r.TornDown graceMs time) (e : SlotEvent) :
    r.slot.Aside (r.after e).now (r.after e).slot := by
  have hchange := r.after_change e
  generalize r.after e = r' at hchange
  cases hchange with
  | nothing => exact .refl _ _
  | state _ _ hstate | bind _ hstate => exact absurd h.state hstate
  | unbind x hbusy => exact absurd (hbusy.symm.trans h.givenBack.empty) nofun
  | close cause =>
    have hnot : (r.slot.isEmpty && r.slot.teardown = .idle) = false := by
      rw [decide_eq_false h.begun, Bool.and_false]
    have hsame : (r.slot.close r.now cause).1 = r.slot := by
      rw [TaskSlot.close_eq, hnot, ← h.state]
      rfl
    show r.slot.Aside r.now (r.slot.close r.now cause).1
    rw [hsame]
    exact .refl _ _
  | use use => exact .use _ _ use
  | look _ now => exact .settle _ now

theorem TornDown.after (h : r.TornDown graceMs time) (e : SlotEvent) : (r.after e).TornDown graceMs time := by
  obtain ⟨hnow, hkept⟩ := now_after r e
  exact ⟨(h.aside_after e).givenBack (h.givenBack.mono hnow), releasing_after h.state e, hkept.trans h.kept⟩

theorem TornDown.afterAll (h : r.TornDown graceMs time) (events : List SlotEvent) :
    (r.afterAll events).TornDown graceMs time := by
  induction events generalizing r with
  | nil => exact h
  | cons e rest ih => exact ih (h.after e)

/-- As long as no request finds the slot without tasks, it is in use. -/
theorem Serving.afterAll (h : r.Serving graceMs) (hnone : r.closedAt? events = none) :
    (r.afterAll events).Serving graceMs := by
  induction events generalizing r with
  | nil => exact h
  | cons e rest ih =>
    unfold closedAt? at hnone
    split at hnone
    · cases hnone
    · rename_i he
      exact ih (h.after (Bool.eq_false_iff.2 he)) hnone

/-- From the first request on that finds it without tasks, it is torn down. -/
theorem Serving.tornDown (h : r.Serving graceMs) (hsome : r.closedAt? events = some time) :
    (r.afterAll events).TornDown graceMs time := by
  induction events generalizing r with
  | nil => cases hsome
  | cons e rest ih =>
    unfold closedAt? at hsome
    split at hsome
    · rename_i he
      obtain rfl := Option.some.inj hsome
      exact (h.close he).afterAll rest
    · rename_i he
      exact ih (h.after (Bool.eq_false_iff.2 he)) hsome

theorem Serving.new {grant : Nat} {index : SlotIndex} {profile : ResourceProfile} {pageSize : UInt64}
    {job : JobId} {allocation : AllocationId} {slot : TaskSlot}
    (hnew : TaskSlot.new? grant index profile pageSize job allocation graceMs = some slot) :
    (SlotRun.new slot).Serving graceMs := ⟨TaskSlot.inUse_of_new? hnew, rfl⟩

/-! ## When the futures are done -/

theorem isDone_iff (hkept : r.abandoned = false) : r.isDone = true ↔ r.slot.teardown = .done := by
  unfold isDone TaskSlot.isClosed
  rw [hkept, Bool.false_and, Bool.or_false, decide_eq_true_iff]

theorem Serving.isDone (h : r.Serving graceMs) : r.isDone = false := by
  refine Bool.eq_false_iff.2 fun hdone => ?_
  rw [isDone_iff h.kept, h.inUse.teardown] at hdone
  cases hdone

/-- A slot is not closed before nothing is held or the grace period is over. -/
theorem TornDown.of_isDone (h : r.TornDown graceMs time) (hdone : r.isDone = true) :
    r.slot.memory.isUnused = true ∨ time + graceMs.toNat ≤ r.now := by
  rw [isDone_iff h.kept] at hdone
  obtain hwaiting | ⟨-, hover⟩ := h.givenBack.teardown
  · rw [hdone] at hwaiting
    cases hwaiting
  · exact hover

/-- It is closed as soon as one of these is so, when what is due is done. -/
theorem TornDown.isDone_settle (h : r.TornDown graceMs time) :
    (r.after .background).isDone = true ↔ r.slot.memory.isUnused = true ∨ time + graceMs.toNat ≤ r.now := by
  have hkept : (r.after .background).abandoned = false := h.kept
  rw [isDone_iff hkept]
  show (r.slot.settle r.now).teardown = .done ↔ _
  unfold TaskSlot.settle
  obtain hwaiting | ⟨hdone, hover⟩ := h.givenBack.teardown
  · rw [hwaiting]
    dsimp only
    split
    · rename_i hover
      rw [Bool.or_eq_true, decide_eq_true_iff] at hover
      exact iff_of_true rfl hover
    · rename_i hover
      rw [Bool.or_eq_true, decide_eq_true_iff] at hover
      exact iff_of_false (by rw [hwaiting]; nofun) hover
  · rw [hdone]
    exact iff_of_true hdone hover

theorem TornDown.isDone_after (h : r.TornDown graceMs time) (hdone : r.isDone = true) (e : SlotEvent) :
    (r.after e).isDone = true := by
  rw [isDone_iff h.kept] at hdone
  rw [isDone_iff (h.after e).kept]
  have hclosed : (r.after e).slot.isClosed = true := (h.aside_after e).closed (decide_eq_true hdone)
  exact of_decide_eq_true hclosed

/-- At the end of the request by which the teardown begins, the slot is closed if and only if nothing is held. -/
theorem Serving.isDone_close (h : r.Serving graceMs) (he : r.findsEmpty e = true) :
    (r.after e).isDone = true ↔ r.slot.memory.isUnused = true := by
  have hkept := (h.close he).kept
  obtain ⟨⟨cause, rfl⟩, hempty⟩ := findsEmpty_iff.1 he
  rw [isDone_iff hkept]
  show (r.slot.close r.now cause).1.teardown = .done ↔ _
  rw [TaskSlot.close_eq, hempty, h.inUse.teardown]
  show (if r.slot.memory.isUnused then Teardown.done else .waiting _) = .done ↔ _
  split
  · rename_i hunused
    exact iff_of_true rfl hunused
  · rename_i hused
    exact iff_of_false nofun hused

/-! ## Every run -/

theorem done_after (h : r.Serving graceMs ∨ ∃ time, r.TornDown graceMs time) (hdone : r.isDone = true)
    (e : SlotEvent) : (r.after e).isDone = true := by
  obtain hserving | ⟨time, htorn⟩ := h
  · rw [hserving.isDone] at hdone
    cases hdone
  · exact htorn.isDone_after hdone e

theorem phase_after (h : r.Serving graceMs ∨ ∃ time, r.TornDown graceMs time) (e : SlotEvent) :
    (r.after e).Serving graceMs ∨ ∃ time, (r.after e).TornDown graceMs time := by
  obtain hserving | ⟨time, htorn⟩ := h
  · cases he : r.findsEmpty e with
    | false => exact .inl (hserving.after he)
    | true => exact .inr ⟨_, hserving.close he⟩
  · exact .inr ⟨time, htorn.after e⟩

theorem done_afterAll (h : r.Serving graceMs ∨ ∃ time, r.TornDown graceMs time) (hdone : r.isDone = true)
    (events : List SlotEvent) : (r.afterAll events).isDone = true := by
  induction events generalizing r with
  | nil => exact hdone
  | cons e rest ih => exact ih (phase_after h e) (done_after h hdone e)

/-- All futures say the same, which is whether the slot is closed now. -/
theorem futures_eq (h : r.Serving graceMs ∨ ∃ time, r.TornDown graceMs time) (events : List SlotEvent) (k : Nat) :
    r.futures events (List.replicate k r.isDone) =
      List.replicate (k + events.countP (·.isClose)) (r.afterAll events).isDone := by
  induction events generalizing r k with
  | nil => rfl
  | cons e rest ih =>
    have hstays : (r.isDone || (r.after e).isDone) = (r.after e).isDone := by
      cases hdone : r.isDone with
      | false => rfl
      | true => exact (done_after h hdone e).symm
    have hreturned : (if e.isClose then List.replicate k r.isDone ++ [false] else List.replicate k r.isDone).map
        (· || (r.after e).isDone) =
        List.replicate (k + if e.isClose then 1 else 0) (r.after e).isDone := by
      cases e.isClose <;> simp [hstays, List.replicate_succ']
    show (r.after e).futures rest _ = _
    rw [hreturned, ih (phase_after h e), List.countP_cons]
    show _ = List.replicate _ ((r.after e).afterAll rest).isDone
    rw [Nat.add_assoc, Nat.add_comm (if e.isClose then 1 else 0)]

theorem TornDown.memory_afterAll (h : r.TornDown graceMs time) (events : List SlotEvent) :
    (r.afterAll events).slot.memory = r.slot.memory.afterAll (events.filterMap (·.use?)) := by
  induction events generalizing r with
  | nil => rfl
  | cons e rest ih =>
    have hmemory := memory_after (e := e) (.inr h.begun)
    show ((r.after e).afterAll rest).slot.memory = _
    rw [ih (h.after e), hmemory, List.filterMap_cons]
    cases e.use? <;> rfl

/-- Until the teardown begins, the memory is shut down by its users only. -/
theorem isShutdown_afterAll (hnone : r.closedAt? events = none) :
    (r.afterAll events).slot.memory.isShutdown = true ↔
      r.slot.memory.isShutdown = true ∨ .memory .shutdown ∈ events := by
  induction events generalizing r with
  | nil => simp [afterAll]
  | cons e rest ih =>
    unfold closedAt? at hnone
    split at hnone
    · cases hnone
    · rename_i he
      have hmemory := memory_after (.inl (Bool.eq_false_iff.2 he))
      show ((r.after e).afterAll rest).slot.memory.isShutdown = true ↔ _
      rw [ih hnone, hmemory, List.mem_cons, ← or_assoc]
      refine or_congr_left ?_
      cases e with
      | memory use =>
        refine (ManagedMemory.isShutdown_run_iff use).trans (or_congr_right ?_)
        constructor
        · rintro rfl
          rfl
        · intro heq
          exact (SlotEvent.memory.inj heq).symm
      | _ => exact (or_iff_left nofun).symm

/-- When the teardown of a slot begins, and when it is closed. `r` is what all that was done to the slot in `history`
has come to, and its teardown waits for up to `graceMs` milliseconds. -/
structure ClosesOnce (start r : SlotRun) (graceMs : UInt64) (history : List SlotEvent) : Prop where
  releasing_stays : r.slot.state = .releasing → ∀ more, (r.afterAll more).slot.state = .releasing
  /-- The teardown begins with the first request that finds no task, and with nothing else. -/
  begins_iff : ∀ e, r.slot.teardown = .idle ∧ (r.after e).slot.teardown ≠ .idle ↔
    start.closedAt? history = none ∧ r.findsEmpty e = true
  begun_iff : r.slot.teardown ≠ .idle ↔ ∃ time, start.closedAt? history = some time
  empty : r.slot.teardown ≠ .idle → r.slot.isEmpty = true
  /-- It shuts the memory down, which nobody else does but the memory's users. -/
  shutdown_iff : r.slot.memory.isShutdown = true ↔
    (∃ time, start.closedAt? history = some time) ∨ .memory .shutdown ∈ history
  unused_iff : r.slot.memory.isUnused = true ↔ ∀ owner, r.slot.memory.held owner = .zero
  waits : start.closedAt? history = none → r.isDone = false
  /-- The slot is closed at the end of this request if and only if nothing is held. -/
  atOnce_iff : start.closedAt? history = none → ∀ cause, r.slot.isEmpty = true →
    ((r.after (.close cause)).isDone = true ↔ r.slot.memory.isUnused = true)
  /-- It is not closed before nothing is held or the grace period is over. -/
  reason : ∀ time, start.closedAt? history = some time → r.isDone = true →
    r.slot.memory.isUnused = true ∨ time + graceMs.toNat ≤ r.now
  /-- It is closed as soon as one of these is so and what is due is done. -/
  inTime_iff : ∀ time, start.closedAt? history = some time →
    ((r.after .background).isDone = true ↔ r.slot.memory.isUnused = true ∨ time + graceMs.toNat ≤ r.now)
  unused_stays : ∀ time, start.closedAt? history = some time → r.slot.memory.isUnused = true →
    ∀ more, (r.afterAll more).slot.memory.isUnused = true
  done_stays : r.isDone = true → ∀ more, (r.afterAll more).isDone = true
  futures_agree : start.futures history [] = List.replicate (history.countP (·.isClose)) r.isDone
  /-- Time that passes in two parts comes to the same, so that all of this holds at any time on the way. -/
  divisible : ∀ a b, a.toNat + b.toNat < UInt64.size →
    (r.after (.advance a)).after (.advance b) = r.after (.advance (a + b))
  /-- One who waits for the memory to be released in its own steps is through if and only if it is released, however
  the steps fall between what is done to the slot. -/
  noticed : ∀ (N : Notifier) (n : N.State) (time : Nat), start.closedAt? history = some time →
    ∀ (more : List SlotEvent) (steps : List WatchEvent), steps.filterMap (·.use?) = more.filterMap (·.use?) →
      (((Watch.enter r.slot.memory n : Watch N).afterAll steps).step.step.step.waiter = .through ↔
        (r.afterAll more).slot.memory.isUnused = true)

theorem Serving.closesOnce_of_none (h : r.Serving graceMs) (hstart : start.Serving graceMs) {history : List SlotEvent}
    (hshutdown : start.slot.memory.isShutdown = false) (hr : r = start.afterAll history)
    (hnone : start.closedAt? history = none) : ClosesOnce start r graceMs history := by
  have hnot : ¬ ∃ time, start.closedAt? history = some time := by
    rw [hnone]
    nofun
  have hidle := h.inUse.teardown
  have hnever : ∀ {P : Prop} {time}, start.closedAt? history = some time → P := fun hsome =>
    absurd ⟨_, hsome⟩ hnot
  refine
    { releasing_stays := releasing_afterAll
      begins_iff := fun e => ?_
      begun_iff := iff_of_false (not_not_intro hidle) hnot
      empty := fun hbegun => absurd hidle hbegun
      shutdown_iff := ?_
      unused_iff := h.inUse.memory.isUnused_iff_held
      waits := fun _ => h.isDone
      atOnce_iff := fun _ cause hempty => h.isDone_close (findsEmpty_iff.2 ⟨⟨cause, rfl⟩, hempty⟩)
      reason := fun _ => hnever
      inTime_iff := fun _ => hnever
      unused_stays := fun _ => hnever
      done_stays := done_afterAll (.inl h)
      futures_agree := ?_
      divisible := fun _ _ hsum => advance_add r hsum
      noticed := fun _ _ _ => hnever }
  · cases he : r.findsEmpty e with
    | true => exact iff_of_true ⟨hidle, (h.close he).begun⟩ ⟨hnone, rfl⟩
    | false => exact iff_of_false (fun hbegins => hbegins.2 (h.after he).inUse.teardown) nofun
  · rw [hr, isShutdown_afterAll hnone, hshutdown]
    exact or_congr_left (iff_of_false nofun hnot)
  · rw [hr]
    simpa using futures_eq (.inl hstart) history 0

theorem TornDown.closesOnce (h : r.TornDown graceMs time) (hstart : start.Serving graceMs)
    {history : List SlotEvent} (hr : r = start.afterAll history)
    (hsome : start.closedAt? history = some time) : ClosesOnce start r graceMs history := by
  have hsame : ∀ {x}, start.closedAt? history = some x → time = x := fun hx =>
    Option.some.inj (hsome.symm.trans hx)
  have hnot : start.closedAt? history ≠ none := by
    rw [hsome]
    nofun
  have hunused : r.slot.memory.isUnused = true → ∀ more, (r.afterAll more).slot.memory.isUnused = true := by
    intro hunused more
    rw [h.memory_afterAll more]
    exact (ManagedMemory.afterAll_keeps
      (P := fun m => m.Accounted ∧ m.isShutdown = true ∧ m.isUnused = true)
      (fun m use hm => ⟨hm.1.run use, ManagedMemory.isShutdown_run use hm.2.1, hm.1.unused_run use hm.2.1 hm.2.2⟩)
      ⟨h.givenBack.memory, h.givenBack.shutdown, hunused⟩ _).2.2
  refine
    { releasing_stays := releasing_afterAll
      begins_iff := fun e => iff_of_false (fun hbegins => h.begun hbegins.1) fun hbegins => hnot hbegins.1
      begun_iff := iff_of_true h.begun ⟨time, hsome⟩
      empty := fun _ => h.givenBack.empty
      shutdown_iff := iff_of_true h.givenBack.shutdown (.inl ⟨time, hsome⟩)
      unused_iff := h.givenBack.memory.isUnused_iff_held
      waits := fun hnone => absurd hnone hnot
      atOnce_iff := fun hnone => absurd hnone hnot
      reason := fun x hx => ?_
      inTime_iff := fun x hx => ?_
      unused_stays := fun _ _ => hunused
      done_stays := done_afterAll (.inr ⟨time, h⟩)
      futures_agree := ?_
      divisible := fun _ _ hsum => advance_add r hsum
      noticed := fun N n _ _ more steps hsteps => ?_ }
  · obtain rfl := hsame hx
    exact h.of_isDone
  · obtain rfl := hsame hx
    exact h.isDone_settle
  · rw [hr]
    simpa using futures_eq (.inl hstart) history 0
  · rw [h.memory_afterAll more, ← hsteps]
    exact Watch.through_iff h.givenBack.memory h.givenBack.shutdown n steps

end SlotRun

open SlotRun

/-- Whatever is done to a slot and its memory, and however time passes: once the slot is to be given back it stays
so; its teardown begins once, with the first request that finds no task; the futures of all requests say the same,
not done before that, done at the end of this request if nothing is held, and else from the moment on at which
nothing is held any more or the grace period is over. No release is missed. -/
theorem closes_once_of_new {grant : Nat} {index : SlotIndex} {profile : ResourceProfile}
    {pageSize graceMs : UInt64} {job : JobId} {allocation : AllocationId} {slot : TaskSlot}
    (hnew : TaskSlot.new? grant index profile pageSize job allocation graceMs = some slot)
    (history : List SlotEvent) :
    ClosesOnce (.new slot) ((SlotRun.new slot).afterAll history) graceMs history := by
  have hstart := Serving.new hnew
  have hshutdown : (SlotRun.new slot).slot.memory.isShutdown = false := by
    obtain ⟨memory, hmemory, rfl⟩ := Option.map_eq_some_iff.1 hnew
    unfold ManagedMemory.new? at hmemory
    split at hmemory
    · cases hmemory
    · obtain rfl := Option.some.inj hmemory
      rfl
  cases hclosed : (SlotRun.new slot).closedAt? history with
  | none => exact (hstart.afterAll hclosed).closesOnce_of_none hstart hshutdown rfl hclosed
  | some time => exact (hstart.tornDown hclosed).closesOnce hstart rfl hclosed

/-- A slot with a task is asked for, and more memory is taken of it. It is asked for again when the task has left.
It is closed when the last memory is given back, before the grace period is over. -/
theorem closes_once_of_new_released :
    ∃ slot, TaskSlot.new? 0 0 TableConfig.standardProfile 4096 ⟨0⟩ ⟨1⟩ 10 = some slot ∧
    let start := SlotRun.new slot
    let used : List SlotEvent :=
      [.activate, .bind ⟨⟨7⟩, ⟨0⟩, ⟨1⟩⟩, .memory (.reserve "a" 1), .close "lost", .memory (.reserve "b" 1),
        .unbind ⟨7⟩, .advance 3, .close "empty", .memory (.releaseAll "a"), .advance 9]
    let history := used ++ [.memory (.releaseAll "b")]
    let waiting := start.afterAll used
    let released := start.afterAll history
    start.closedAt? used = some 3 ∧ waiting.now = 12 ∧ waiting.isDone = false ∧
      (released.after .background).isDone = true ∧ start.futures (history ++ [.background]) [] = [true, true] ∧
      ((Watch.enter (N := .counting) waiting.slot.memory (0 : Nat)).afterAll
        [.step, .step, .use (.releaseAll "b")]).step.step.step.waiter = .through := by
  have hnew : TaskSlot.new? 0 0 TableConfig.standardProfile 4096 ⟨0⟩ ⟨1⟩ 10 = some _ := rfl
  refine ⟨_, hnew, ?_⟩
  intro start used history waiting released
  have hwaiting : ClosesOnce start waiting 10 used := closes_once_of_new hnew used
  have hreleased : ClosesOnce start released 10 history := closes_once_of_new hnew history
  have htime : start.closedAt? used = some 3 := by decide +kernel
  have htime' : start.closedAt? history = some 3 := by decide +kernel
  have hunused : released.slot.memory.isUnused = true := by decide +kernel
  have hnoticed := hwaiting.noticed .counting (0 : Nat) 3 htime [.memory (.releaseAll "b")]
    [.step, .step, .use (.releaseAll "b")] rfl
  exact ⟨htime, by decide +kernel, by decide +kernel, (hreleased.inTime_iff 3 htime').2 (.inl hunused),
    by decide +kernel, hnoticed.2 (by decide +kernel)⟩

end WorkerSlots
