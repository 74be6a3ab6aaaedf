import WorkerSlots.Proofs.Holdings

/-!
# Waiting for memory to be released

Whoever waits for memory to be released does not look at it all the time: it asks to be woken, looks once, sleeps
until it is woken, and starts again. Meanwhile the memory is used, between any two of these steps.

* `Notifier` : what wakes those who sleep, all who have asked at a time, `Notifier.counting`;
* `MemoryUse.rings` : the uses after which the sleepers are woken;
* `Watch` : a memory and one who waits for it, `Watch.step`, `Watch.use`, `Watch.afterAll`;
* `Watch.Alert` : one who sleeps has been woken if nothing is held. What is done to the memory keeps this, and so
  does the one who waits (`Alert.afterAll`);
* `Watch.through_iff` : no release is missed. Of a memory that is shut down, the wait is over if and only if
  nothing is held.
-/

namespace WorkerSlots

/-- What wakes those who have asked for it. A wait that has been woken stays so. -/
structure Notifier where
  State : Type
  Wait : Type
  ask : State → Wait
  /-- Wakes all who have asked. -/
  ring : State → State
  isRung : State → Wait → Bool
  rung_of_asked : ∀ n, isRung (ring n) (ask n) = true
  rung_stays : ∀ n wait, isRung n wait = true → isRung (ring n) wait = true

/-- Counts how often it has rung; a wait is the count at which it was asked for. -/
def Notifier.counting : Notifier where
  State := Nat
  Wait := Nat
  ask n := n
  ring n := n + 1
  isRung n wait := wait < n
  rung_of_asked _ := decide_eq_true (Nat.lt_succ_self _)
  rung_stays _ _ h := decide_eq_true (Nat.lt_succ_of_lt (of_decide_eq_true h))

/-- After a use the sleepers are woken if an owner has been looked up and nothing is held any more. -/
def MemoryUse.rings (m : ManagedMemory) : MemoryUse → Bool
  | release owner bytes => m.holdings.contains owner && (m.release owner bytes).2.isUnused
  | releaseAll owner => (m.releaseAll owner).2.isUnused
  | reserve .. | shutdown => false

/-- How far one who waits has come. -/
inductive Waiter (Wait : Type) where
  | entering
  /-- It has asked to be woken, and is about to look at the memory. -/
  | looking (wait : Wait)
  | sleeping (wait : Wait)
  | through

/-- A memory, and one who waits for it to be released. -/
structure Watch (N : Notifier) where
  memory : ManagedMemory
  notifier : N.State
  waiter : Waiter N.Wait

/-- What happens while one waits. -/
inductive WatchEvent where
  | step
  | use (use : MemoryUse)

namespace Watch

variable {N : Notifier}

def enter (memory : ManagedMemory) (notifier : N.State) : Watch N := ⟨memory, notifier, .entering⟩

/-- The next step of the one who waits. -/
def step (w : Watch N) : Watch N :=
  match w.waiter with
  | .entering => { w with waiter := .looking (N.ask w.notifier) }
  | .looking wait => { w with waiter := if w.memory.isUnused then .through else .sleeping wait }
  | .sleeping wait => if N.isRung w.notifier wait then { w with waiter := .entering } else w
  | .through => w

/-- The memory is used, and the sleepers are woken if there is a reason. -/
def use (w : Watch N) (use : MemoryUse) : Watch N :=
  { w with
    memory := use.run w.memory
    notifier := if use.rings w.memory then N.ring w.notifier else w.notifier }

def after (w : Watch N) : WatchEvent → Watch N
  | .step => w.step
  | .use use => w.use use

def afterAll (w : Watch N) (events : List WatchEvent) : Watch N := events.foldl after w

end Watch

/-- The uses of memory among what happens. -/
def WatchEvent.use? : WatchEvent → Option MemoryUse
  | .step => none
  | .use u => some u

/-- A use after which nothing is held wakes the sleepers, if something was held before. -/
theorem ManagedMemory.Accounted.rings_of_unused {m : ManagedMemory} (h : m.Accounted) {use : MemoryUse}
    (hused : m.isUnused = false) (hunused : (use.run m).isUnused = true) : use.rings m = true := by
  have hsame : (use.run m).used = m.used → False := fun hsame => by
    unfold isUnused at hused hunused
    rw [hsame, hused] at hunused
    cases hunused
  cases use with
  | reserve owner bytes =>
    change (m.reserve owner bytes).2.isUnused = true at hunused
    change (m.reserve owner bytes).2.used = m.used → False at hsame
    cases hanswer : (m.reserve owner bytes).1 with
    | error error => exact absurd (congrArg ManagedMemory.used (h.reserve_of_error hanswer)) hsame
    | ok amount =>
      -- what is taken is added to what was held
      obtain ⟨-, hmore⟩ := h.reserve_of_ok hanswer
      have hadded := hmore.used
      rw [isUnused_iff.1 hunused] at hadded
      have hnone : m.isUnused = true := isUnused_iff.2 (by omega)
      rw [hused] at hnone
      cases hnone
  | release owner bytes =>
    change (m.release owner bytes).2.used = m.used → False at hsame
    show (m.holdings.contains owner && (m.release owner bytes).2.isUnused) = true
    refine Bool.and_eq_true_iff.2 ⟨?_, hunused⟩
    cases hget : m.holdings.get? owner with
    | some held => exact SortedMap.contains_iff.2 ⟨held, hget⟩
    | none =>
      unfold ManagedMemory.release at hsame
      rw [hget] at hsame
      exact absurd rfl hsame
  | releaseAll owner => exact hunused
  | shutdown => exact absurd rfl hsame

namespace Watch

variable {N : Notifier} {w : Watch N}

/-- One who has asked will be woken by the next ring, and one who sleeps has been woken if nothing is held. -/
structure Alert (w : Watch N) : Prop where
  accounted : w.memory.Accounted
  looking : ∀ wait, w.waiter = .looking wait → N.isRung (N.ring w.notifier) wait = true
  sleeping : ∀ wait, w.waiter = .sleeping wait → N.isRung (N.ring w.notifier) wait = true ∧
    (w.memory.isUnused = true → N.isRung w.notifier wait = true)

theorem Alert.enter {m : ManagedMemory} (h : m.Accounted) (n : N.State) : (enter m n : Watch N).Alert :=
  ⟨h, nofun, nofun⟩

theorem Alert.step (h : w.Alert) : w.step.Alert := by
  obtain ⟨memory, notifier, waiter⟩ := w
  cases waiter with
  | entering =>
    refine ⟨h.accounted, fun wait hwait => ?_, nofun⟩
    obtain rfl := Waiter.looking.inj hwait
    exact N.rung_of_asked notifier
  | looking wait =>
    unfold Watch.step
    dsimp only
    cases hunused : memory.isUnused with
    | true => exact ⟨h.accounted, nofun, nofun⟩
    | false =>
      refine ⟨h.accounted, nofun, fun x hx => ?_⟩
      obtain rfl : wait = x := Waiter.sleeping.inj hx
      exact ⟨h.looking wait rfl, fun hnone => absurd (hunused.symm.trans hnone) nofun⟩
  | sleeping wait =>
    unfold Watch.step
    dsimp only
    split
    · exact ⟨h.accounted, nofun, nofun⟩
    · exact h
  | through => exact h

theorem Alert.use (h : w.Alert) (use : MemoryUse) : (w.use use).Alert := by
  have hring : ∀ wait, N.isRung (N.ring w.notifier) wait = true →
      N.isRung (N.ring (w.use use).notifier) wait = true := by
    intro wait hwait
    unfold Watch.use
    dsimp only
    split
    · exact N.rung_stays _ _ hwait
    · exact hwait
  refine ⟨h.accounted.run use, fun wait hwait => hring wait (h.looking wait hwait), fun wait hwait => ?_⟩
  obtain ⟨hnext, hrung⟩ := h.sleeping wait hwait
  refine ⟨hring wait hnext, fun hunused => ?_⟩
  show N.isRung (if use.rings w.memory then N.ring w.notifier else w.notifier) wait = true
  cases hbefore : w.memory.isUnused with
  | true =>
    split
    · exact hnext
    · exact hrung hbefore
  | false =>
    rw [if_pos (h.accounted.rings_of_unused hbefore hunused)]
    exact hnext

theorem Alert.afterAll (h : w.Alert) (events : List WatchEvent) : (w.afterAll events).Alert := by
  induction events generalizing w with
  | nil => exact h
  | cons e rest ih =>
    cases e with
    | step => exact ih h.step
    | use use => exact ih (h.use use)

/-- If nothing is held, one who waits is through after three steps at the most. -/
theorem Alert.through (h : w.Alert) (hunused : w.memory.isUnused = true) :
    w.step.step.step.waiter = .through := by
  obtain ⟨memory, notifier, waiter⟩ := w
  change memory.isUnused = true at hunused
  cases waiter with
  | entering | looking wait => simp [Watch.step, hunused]
  | sleeping wait =>
    have hrung : N.isRung notifier wait = true := (h.sleeping wait rfl).2 hunused
    simp [Watch.step, hunused, hrung]
  | through => rfl

/-- Of a memory that is shut down nothing is held once one who waits is through. -/
structure Over (w : Watch N) : Prop where
  accounted : w.memory.Accounted
  shutdown : w.memory.isShutdown = true
  through : w.waiter = .through → w.memory.isUnused = true

theorem Over.enter {m : ManagedMemory} (h : m.Accounted) (hshutdown : m.isShutdown = true) (n : N.State) :
    (enter m n : Watch N).Over := ⟨h, hshutdown, nofun⟩

theorem memory_step (w : Watch N) : w.step.memory = w.memory := by
  unfold step
  split
  · rfl
  · rfl
  · split <;> rfl
  · rfl

theorem Over.step (h : w.Over) : w.step.Over := by
  have hmemory := w.memory_step
  refine ⟨hmemory ▸ h.accounted, hmemory ▸ h.shutdown, fun hthrough => ?_⟩
  rw [hmemory]
  obtain ⟨memory, notifier, waiter⟩ := w
  unfold Watch.step at hthrough
  cases waiter with
  | entering => cases hthrough
  | looking wait =>
    dsimp only at hthrough
    split at hthrough
    · assumption
    · cases hthrough
  | sleeping wait =>
    dsimp only at hthrough
    split at hthrough <;> cases hthrough
  | through => exact h.through rfl

theorem Over.use (h : w.Over) (use : MemoryUse) : (w.use use).Over :=
  ⟨h.accounted.run use, ManagedMemory.isShutdown_run use h.shutdown,
    fun hthrough => h.accounted.unused_run use h.shutdown (h.through hthrough)⟩

theorem Over.afterAll (h : w.Over) (events : List WatchEvent) : (w.afterAll events).Over := by
  induction events generalizing w with
  | nil => exact h
  | cons e rest ih =>
    cases e with
    | step => exact ih h.step
    | use use => exact ih (h.use use)

theorem memory_afterAll (w : Watch N) (events : List WatchEvent) :
    (w.afterAll events).memory = w.memory.afterAll (events.filterMap (·.use?)) := by
  induction events generalizing w with
  | nil => rfl
  | cons e rest ih =>
    cases e with
    | step =>
      show (w.step.afterAll rest).memory = w.memory.afterAll (rest.filterMap (·.use?))
      rw [ih, memory_step]
    | use use =>
      show ((w.use use).afterAll rest).memory = (use.run w.memory).afterAll (rest.filterMap (·.use?))
      exact ih (w.use use)

/-- Whoever waits for a memory that is shut down is through, in three steps at the most, if and only if nothing is
held of it, however its steps fall between the uses. -/
theorem through_iff {m : ManagedMemory} (h : m.Accounted) (hshutdown : m.isShutdown = true) (n : N.State)
    (events : List WatchEvent) :
    ((enter m n : Watch N).afterAll events).step.step.step.waiter = .through ↔
      (m.afterAll (events.filterMap (·.use?))).isUnused = true := by
  have halert := (Alert.enter h n).afterAll events
  have hover := (Over.enter h hshutdown n).afterAll events
  have hmemory : ((enter m n : Watch N).afterAll events).memory =
      m.afterAll (events.filterMap (·.use?)) := memory_afterAll _ events
  rw [← hmemory]
  constructor
  · intro hthrough
    have hunused := hover.step.step.step.through hthrough
    rw [memory_step, memory_step, memory_step] at hunused
    exact hunused
  · exact halert.through

end Watch

end WorkerSlots
