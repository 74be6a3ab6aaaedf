import WorkerSlots.Proofs.Maps
import WorkerSlots.Proofs.Registrations
import WorkerSlots.Timer.Run

/-!
# What is done to a timer service

A timer service is started, stopped, used and given up, its tasks are run, and time passes, in any order. Time
passes only while all tasks sleep, and stops at every deadline. A task that can go on is run before that, but
nothing decides when: its registration may end first, at the very deadline.

* `TimerEvent` : all of this, `TimerRun.after`, `TimerRun.afterAll`;
* `task?_unregister`, `task?_record`, `task?_drop` : the tasks after each kind of change;
* `registration?_record`, `registration?_unregister`, `registration?_expire` : the registrations after each
  kind of change;
* `Does` : what one event does, `after_does`;
* `Does.registration`, `Does.task_cases`, `Does.delivered` : every registration and every task was there before or has
  just been made, and what is delivered is the expiry of a task;
* `Numbered` : tickets that have been issued are not issued again, and belong to one key. No task sleeps too
  long.
-/

namespace WorkerSlots

/-- What is done to a timer service, and how time passes. -/
inductive TimerEvent (K : Type) where
  | start
  | stop
  /-- The service is stopped by somebody else than its owner. -/
  | cancel
  | register (key : K) (delay : UInt64)
  | unregister (key : K)
  /-- The service is given up for a new one. -/
  | replace
  /-- A task is run. If its time has come and it has been told to give up as well, it delivers the expiry if it
  is `late`, and gives up if not. -/
  | poll (ticket : Ticket) (late : Bool)
  /-- Time passes, if all tasks sleep as long. -/
  | tick (ms : Nat)

/-- The events after which no timeout is registered any more. -/
def TimerEvent.Halts {K : Type} : TimerEvent K → Prop
  | stop | cancel | replace => True
  | start | register .. | unregister _ | poll .. | tick _ => False

/-- What happens to a timer service without its owner. -/
def TimerEvent.isInner {K : Type} : TimerEvent K → Bool
  | poll .. | tick _ => true
  | _ => false

namespace TimerTask

variable {K : Type}

/-- All tasks are told to give up. -/
theorem find?_cancel (tasks : List (TimerTask K)) (ticket : Ticket) :
    (tasks.map (·.cancel)).find? (·.ticket = ticket) =
      (tasks.find? (·.ticket = ticket)).map (·.cancel) :=
  List.find?_map

/-- The tasks of some tickets are told to give up. -/
theorem find?_cancelSome (tasks : List (TimerTask K)) (p : Ticket → Bool) (ticket : Ticket) :
    (tasks.map fun task => if p task.ticket then task.cancel else task).find? (·.ticket = ticket) =
      (tasks.find? (·.ticket = ticket)).map fun task => if p ticket then task.cancel else task := by
  have hsame : (fun task : TimerTask K => decide (task.ticket = ticket)) ∘
      (fun task => if p task.ticket then task.cancel else task) =
        fun task => decide (task.ticket = ticket) := by
    funext task
    rw [Function.comp_apply]
    split <;> rfl
  rw [List.find?_map, hsame]
  refine Option.map_congr fun task htask => ?_
  have hticket := List.find?_some htask
  rw [of_decide_eq_true hticket]

end TimerTask

namespace Timers

variable {K : Type} [Ord K] {t : Timers K}

/-- The service, or one that it has taken the place of, has issued a ticket. -/
def HasIssued (t : Timers K) (ticket : Ticket) : Prop :=
  ticket.service < t.service ∨ ticket.service = t.service ∧ ticket.number < t.issued

theorem isRunning_iff : t.isRunning = true ↔ t.started = true ∧ t.cancelled = false := by
  unfold isRunning
  rw [Bool.and_eq_true_iff, Bool.not_eq_true']

end Timers

namespace TimerRun

variable {K : Type} [Ord K] [DecidableEq K] [Std.TransOrd K] [Std.LawfulEqOrd K]

/-- All tasks sleep for some time. -/
def SleepsFor (r : TimerRun K) (ms : Nat) : Prop :=
  ∀ task ∈ r.tasks, task.cancelled = false ∧ r.now + ms ≤ task.deadline

omit [DecidableEq K] [Std.TransOrd K] [Std.LawfulEqOrd K] in
instance (r : TimerRun K) (ms : Nat) : Decidable (r.SleepsFor ms) :=
  inferInstanceAs (Decidable (∀ task ∈ r.tasks, task.cancelled = false ∧ r.now + ms ≤ task.deadline))

/-- A timer service after an event. -/
def after (r : TimerRun K) : TimerEvent K → TimerRun K
  | .start => r.start.2
  | .stop => r.stop
  | .cancel => r.cancel
  | .register key delay => (r.register key delay).2
  | .unregister key => r.unregister key
  | .replace => r.replace
  | .poll ticket late => r.poll ticket late
  | .tick ms => if r.SleepsFor ms then { r with now := r.now + ms } else r

/-- A timer service after some events, one after the other. -/
def afterAll (r : TimerRun K) (events : List (TimerEvent K)) : TimerRun K := events.foldl after r

theorem afterAll_append (r : TimerRun K) (events events' : List (TimerEvent K)) :
    r.afterAll (events ++ events') = (r.afterAll events).afterAll events' := List.foldl_append

theorem afterAll_concat (r : TimerRun K) (events : List (TimerEvent K)) (e : TimerEvent K) :
    r.afterAll (events ++ [e]) = (r.afterAll events).after e := List.foldl_append

/-! ## Registrations -/

/-- The registration of a key, if it has one. -/
def registration? (r : TimerRun K) (key : K) : Option Registration := r.timers.registrations.get? key

/-- The registration that is made next, with its ticket. -/
def fresh (r : TimerRun K) (delay : UInt64) : Registration :=
  ⟨⟨r.timers.service, r.timers.issued⟩, r.now + delay.toNat, false⟩

/-- The task of the registration that is made next. -/
def freshTask (r : TimerRun K) (key : K) (delay : UInt64) : TimerTask K :=
  ⟨key, (r.fresh delay).ticket, (r.fresh delay).deadline, false⟩

/-- A timer service with one more registration. -/
def record (r : TimerRun K) (key : K) (delay : UInt64) : TimerRun K :=
  { r with
    timers := { r.timers with
      registrations := r.timers.registrations.insert key (r.fresh delay)
      issued := r.timers.issued + 1 }
    tasks := r.cancelTask key ++ [r.freshTask key delay] }

/-- A timer service once a task has delivered its expiry in time. -/
def expire (r : TimerRun K) (task : TimerTask K) : TimerRun K :=
  { r.tell task with timers := r.timers.noteExpiry task.ticket }

theorem registration?_record (r : TimerRun K) (key other : K) (delay : UInt64) :
    (r.record other delay).registration? key =
      if key = other then some (r.fresh delay) else r.registration? key :=
  SortedMap.get?_insert _ _ _ _

omit [Std.TransOrd K] [Std.LawfulEqOrd K] in
theorem registration?_unregister (r : TimerRun K) (key other : K) :
    (r.unregister other).registration? key = if key = other then none else r.registration? key :=
  SortedMap.get?_erase _ _ _

omit [Std.TransOrd K] in
theorem registration?_expire (r : TimerRun K) (task : TimerTask K) (key : K) :
    (r.expire task).registration? key = (r.registration? key).map fun reg =>
      if reg.ticket = task.ticket then { reg with expired := true } else reg :=
  SortedMap.get?_map _ _ _

/-! ## Tasks -/

variable {r r' : TimerRun K} {e : TimerEvent K} {key : K} {ticket : Ticket} {reg' : Registration}
  {task task' : TimerTask K} {delay : UInt64}

omit [DecidableEq K] [Std.TransOrd K] [Std.LawfulEqOrd K] in
theorem mem_of_task? (h : r.task? ticket = some task) : task ∈ r.tasks ∧ task.ticket = ticket := by
  have hticket := List.find?_some h
  exact ⟨List.mem_of_find?_eq_some h, of_decide_eq_true hticket⟩

omit [Std.TransOrd K] [Std.LawfulEqOrd K] in
/-- The task of a key's registration is told to give up. -/
theorem task?_unregister (r : TimerRun K) (key : K) (ticket : Ticket) :
    (r.unregister key).task? ticket = (r.task? ticket).map fun task =>
      if (r.registration? key).any (·.ticket = ticket) then task.cancel else task :=
  TimerTask.find?_cancelSome r.tasks (fun other => (r.registration? key).any fun reg : Registration => reg.ticket = other) _

theorem task?_record (r : TimerRun K) (key : K) (delay : UInt64) (ticket : Ticket) :
    (r.record key delay).task? ticket = ((r.unregister key).task? ticket).or
      (if (r.fresh delay).ticket = ticket then some (r.freshTask key delay) else none) := by
  refine List.find?_append.trans (congrArg _ ?_)
  rw [List.find?_singleton]
  exact if_congr decide_eq_true_iff rfl rfl

omit [DecidableEq K] [Std.TransOrd K] [Std.LawfulEqOrd K] in
theorem task?_drop (r : TimerRun K) (ticket other : Ticket) :
    (r.drop other).task? ticket = if ticket = other then none else r.task? ticket := by
  unfold drop task?
  rw [List.find?_filter]
  split
  · rename_i hticket
    refine List.find?_eq_none.2 fun task _ => ?_
    simp [hticket]
  · rename_i hticket
    refine congrArg (List.find? · r.tasks) (funext fun task => ?_)
    by_cases htask : task.ticket = ticket <;> simp [htask, hticket]

omit [DecidableEq K] [Std.TransOrd K] [Std.LawfulEqOrd K] in
/-- The task of a ticket, where no two tasks have the same. -/
theorem task?_eq_some_iff (hdistinct : (r.tasks.map (·.ticket)).Nodup) :
    r.task? ticket = some task ↔ task ∈ r.tasks ∧ task.ticket = ticket := by
  refine ⟨mem_of_task?, fun ⟨htask, hticket⟩ => ?_⟩
  cases hfind : r.task? ticket with
  | none =>
    have hnone := List.find?_eq_none.1 hfind task htask
    exact absurd (decide_eq_true hticket) hnone
  | some other =>
    obtain ⟨hother, hsame⟩ := mem_of_task? hfind
    exact congrArg some (List.inj_on_of_nodup_map hdistinct hother htask (hsame.trans hticket.symm))

omit [DecidableEq K] [Std.TransOrd K] [Std.LawfulEqOrd K] in
theorem task?_eq_none_iff : r.task? ticket = none ↔ ∀ task ∈ r.tasks, task.ticket ≠ ticket := by
  unfold task?
  simp

/-! ## What one event does -/

/-- What an event does. A service that is not running registers nothing, and one that is running or stopped
is not started again. A task that is run sleeps on, tells of its expiry in time, gives up, or tells although it
was to give up. -/
inductive Does (r : TimerRun K) : TimerEvent K → TimerRun K → Prop where
  | start (hcancelled : r.timers.cancelled = false) :
      Does r .start { r with timers := { r.timers with started := true } }
  | notStart : Does r .start r
  | stop : Does r .stop r.stop
  | cancel : Does r .cancel r.cancel
  | register {key : K} {delay : UInt64} (hrunning : r.timers.isRunning = true) :
      Does r (.register key delay) (r.record key delay)
  | notRegister {key : K} {delay : UInt64} (hrunning : r.timers.isRunning = false) :
      Does r (.register key delay) r
  | unregister {key : K} : Does r (.unregister key) (r.unregister key)
  | replace : Does r .replace r.replace
  | sleep {ticket : Ticket} {late : Bool} (hasleep : ∀ task, r.task? ticket = some task →
      task.cancelled = false ∧ r.now < task.deadline) : Does r (.poll ticket late) r
  | expire {late : Bool} {task : TimerTask K} (htask : r.task? task.ticket = some task)
      (hlive : task.cancelled = false) (hdue : task.deadline ≤ r.now) :
      Does r (.poll task.ticket late) (r.expire task)
  | giveUp {late : Bool} {task : TimerTask K} (htask : r.task? task.ticket = some task)
      (hcancelled : task.cancelled = true) (hlate : late = true → r.now < task.deadline) :
      Does r (.poll task.ticket late) (r.drop task.ticket)
  | straggle {task : TimerTask K} (htask : r.task? task.ticket = some task)
      (hcancelled : task.cancelled = true) (hdue : task.deadline ≤ r.now) :
      Does r (.poll task.ticket true) (r.tell task)
  | tick {ms : Nat} (hasleep : r.SleepsFor ms) : Does r (.tick ms) { r with now := r.now + ms }
  | notTick {ms : Nat} (hnot : ¬ r.SleepsFor ms) : Does r (.tick ms) r

/-- A service that is running registers every timeout, and one that is not registers none. -/
theorem register_cases (r : TimerRun K) (key : K) (delay : UInt64) :
    r.timers.isRunning = true ∧ r.register key delay = (.ok (r.fresh delay).ticket, r.record key delay) ∨
    r.timers.isRunning = false ∧ ∃ error, r.register key delay = (.error error, r) := by
  obtain ⟨now, ⟨service, started, cancelled, registrations, issued⟩, tasks, delivered⟩ := r
  cases cancelled with
  | true => exact .inr ⟨Bool.and_false _, .stopped, rfl⟩
  | false =>
    cases started with
    | true => exact .inl ⟨rfl, rfl⟩
    | false => exact .inr ⟨rfl, .notStarted, rfl⟩

theorem register_eq_ok_iff : (r.register key delay).1 = .ok ticket ↔
    r.timers.isRunning = true ∧ (r.fresh delay).ticket = ticket := by
  obtain ⟨hrunning, heq⟩ | ⟨hrunning, error, heq⟩ := r.register_cases key delay <;> simp [heq, hrunning]

theorem register_of_isRunning (hrunning : r.timers.isRunning = true) :
    r.register key delay = (.ok (r.fresh delay).ticket, r.record key delay) := by
  obtain ⟨-, heq⟩ | ⟨hnot, -⟩ := r.register_cases key delay
  · exact heq
  · rw [hrunning] at hnot
    cases hnot

theorem poll_does (r : TimerRun K) (ticket : Ticket) (late : Bool) :
    r.Does (.poll ticket late) (r.poll ticket late) := by
  unfold poll
  cases htask : r.task? ticket with
  | none =>
    refine .sleep fun task hsome => ?_
    rw [htask] at hsome
    cases hsome
  | some task =>
    obtain rfl := (mem_of_task? htask).2
    dsimp only
    cases hcancelled : task.cancelled with
    | false =>
      by_cases hdue : task.deadline ≤ r.now
      · rw [decide_eq_true hdue]
        exact .expire htask hcancelled hdue
      · rw [decide_eq_false hdue]
        refine .sleep fun task' hsome => ?_
        rw [htask] at hsome
        obtain rfl := Option.some.inj hsome
        exact ⟨hcancelled, Nat.not_le.1 hdue⟩
    | true =>
      by_cases hdue : task.deadline ≤ r.now
      · rw [decide_eq_true hdue]
        cases late with
        | false => exact .giveUp htask hcancelled nofun
        | true => exact .straggle htask hcancelled hdue
      · rw [decide_eq_false hdue]
        exact .giveUp htask hcancelled fun _ => Nat.not_le.1 hdue

theorem after_does (r : TimerRun K) (e : TimerEvent K) : r.Does e (r.after e) := by
  cases e with
  | start =>
    show r.Does .start r.start.2
    unfold start
    cases hstart : r.timers.start with
    | error error => exact .notStart
    | ok timers =>
      obtain ⟨hcancelled, -, rfl⟩ := Timers.start_eq_ok hstart
      exact .start hcancelled
  | stop => exact .stop
  | cancel => exact .cancel
  | register key delay =>
    show r.Does (.register key delay) (r.register key delay).2
    obtain ⟨hrunning, heq⟩ | ⟨hrunning, error, heq⟩ := r.register_cases key delay
    · rw [heq]
      exact .register hrunning
    · rw [heq]
      exact .notRegister hrunning
  | unregister key => exact .unregister
  | replace => exact .replace
  | poll ticket late => exact r.poll_does ticket late
  | tick ms =>
    show r.Does (.tick ms) (if r.SleepsFor ms then { r with now := r.now + ms } else r)
    split
    · rename_i hasleep
      exact .tick hasleep
    · rename_i hnot
      exact .notTick hnot

/-! ## What an event leaves -/

theorem Does.now_le (h : r.Does e r') : r.now ≤ r'.now := by
  cases h with
  | tick => exact Nat.le_add_right _ _
  | _ => exact Nat.le_refl _

/-- A registration that was there before. -/
def Kept (r : TimerRun K) (key : K) (reg' : Registration) : Prop :=
  ∃ reg, r.registration? key = some reg ∧ reg'.ticket = reg.ticket

/-- A registration that an event has made. -/
def Made (r : TimerRun K) (e : TimerEvent K) (key : K) (ticket : Ticket) : Prop :=
  ∃ delay, e = .register key delay ∧ r.timers.isRunning = true ∧ ticket = (r.fresh delay).ticket

theorem Does.registration (h : r.Does e r') (hreg : r'.registration? key = some reg') :
    r.Kept key reg' ∨ r.Made e key reg'.ticket := by
  cases h with
  | stop | replace => cases hreg
  | start | notStart | cancel | notRegister | sleep | giveUp | straggle | tick | notTick =>
    exact .inl ⟨reg', hreg, rfl⟩
  | @register other delay hrunning =>
    rw [registration?_record] at hreg
    split at hreg
    · rename_i hkey
      obtain rfl := Option.some.inj hreg
      exact .inr ⟨delay, by rw [hkey], hrunning, rfl⟩
    · exact .inl ⟨reg', hreg, rfl⟩
  | @unregister other =>
    rw [registration?_unregister] at hreg
    split at hreg
    · cases hreg
    · exact .inl ⟨reg', hreg, rfl⟩
  | @expire late task htask hlive hdue =>
    rw [registration?_expire] at hreg
    obtain ⟨reg, hold, rfl⟩ := Option.map_eq_some_iff.1 hreg
    refine .inl ⟨reg, hold, ?_⟩
    split <;> rfl

omit [Std.TransOrd K] [Std.LawfulEqOrd K] in
theorem mem_cancelTask (h : task' ∈ r.cancelTask key) :
    ∃ task ∈ r.tasks, task' = task ∨ task' = task.cancel := by
  obtain ⟨task, htask, rfl⟩ := List.mem_map.1 h
  refine ⟨task, htask, ?_⟩
  split
  · exact .inr rfl
  · exact .inl rfl

/-- A task was there before, and may have been told to give up since, or its registration has just been
made. -/
theorem Does.task_cases (h : r.Does e r') (htask : task' ∈ r'.tasks) :
    (∃ task ∈ r.tasks, task' = task ∨ task' = task.cancel) ∨
      r.Made e task'.key task'.ticket ∧ r.now ≤ task'.deadline ∧ r'.now = r.now := by
  cases h with
  | start | notStart | notRegister | sleep | tick | notTick => exact .inl ⟨task', htask, .inl rfl⟩
  | stop | cancel | replace =>
    obtain ⟨task, hold, rfl⟩ := List.mem_map.1 htask
    exact .inl ⟨task, hold, .inr rfl⟩
  | @register key delay hrunning =>
    rcases List.mem_append.1 htask with hold | hnew
    · exact .inl (mem_cancelTask hold)
    · obtain rfl := List.mem_singleton.1 hnew
      exact .inr ⟨⟨delay, rfl, hrunning, rfl⟩, Nat.le_add_right _ _, rfl⟩
  | unregister => exact .inl (mem_cancelTask htask)
  | expire | giveUp | straggle => exact .inl ⟨task', (List.mem_filter.1 htask).1, .inl rfl⟩

/-- What is delivered is the expiry of a task whose time has come. -/
theorem Does.delivered (h : r.Does e r') : ∃ told, r'.delivered = r.delivered ++ told ∧
    ∀ x ∈ told, ∃ task ∈ r.tasks, x = ⟨r.now, task.key, task.ticket⟩ := by
  cases h with
  | expire htask | straggle htask =>
    refine ⟨_, rfl, fun x hx => ?_⟩
    obtain rfl := List.mem_singleton.1 hx
    exact ⟨_, (mem_of_task? htask).1, rfl⟩
  | _ => exact ⟨[], (List.append_nil _).symm, nofun⟩

theorem Does.isRunning (h : r.Does e r') (hrunning : r.timers.isRunning = true) (he : ¬ e.Halts) :
    r'.timers.isRunning = true := by
  cases h with
  | stop | cancel | replace => exact absurd trivial he
  | start => exact Timers.isRunning_iff.2 ⟨rfl, (Timers.isRunning_iff.1 hrunning).2⟩
  | _ => exact hrunning

theorem isRunning_afterAll {events : List (TimerEvent K)} (h : r.timers.isRunning = true)
    (hevents : ∀ e ∈ events, ¬ e.Halts) : (r.afterAll events).timers.isRunning = true := by
  induction events generalizing r with
  | nil => exact h
  | cons e rest ih =>
    refine ih ?_ fun x hx => hevents x (List.mem_cons_of_mem _ hx)
    exact (r.after_does e).isRunning h (hevents e List.mem_cons_self)

/-! ## Tickets -/

omit [DecidableEq K] [Std.TransOrd K] [Std.LawfulEqOrd K] in
theorem not_hasIssued_fresh (r : TimerRun K) (delay : UInt64) :
    ¬ r.timers.HasIssued (r.fresh delay).ticket := by
  rintro (h | ⟨-, h⟩) <;> exact Nat.lt_irrefl _ h

/-- What has been issued stays issued. -/
theorem Does.hasIssued (h : r.Does e r') (hissued : r.timers.HasIssued ticket) :
    r'.timers.HasIssued ticket := by
  cases h with
  | register =>
    obtain hservice | ⟨hservice, hnumber⟩ := hissued
    · exact .inl hservice
    · exact .inr ⟨hservice, Nat.lt_succ_of_lt hnumber⟩
  | replace =>
    obtain hservice | ⟨hservice, -⟩ := hissued
    · exact .inl (Nat.lt_succ_of_lt hservice)
    · exact .inl (hservice ▸ Nat.lt_succ_self _)
  | _ => exact hissued

/-- The ticket of a registration is issued as it is made. -/
theorem Made.hasIssued (h : r.Made e key ticket) : (r.after e).timers.HasIssued ticket := by
  obtain ⟨delay, rfl, hrunning, rfl⟩ := h
  show (r.register key delay).2.timers.HasIssued _
  rw [register_of_isRunning hrunning]
  exact .inr ⟨rfl, Nat.lt_succ_self _⟩

/-- The tickets of registrations, tasks and expiries have been issued, no two registrations and no two tasks have
the same, nothing is registered before the service is started, and no task sleeps beyond its deadline. -/
structure Numbered (r : TimerRun K) : Prop where
  registered : ∀ {key reg}, r.registration? key = some reg → r.timers.HasIssued reg.ticket
  unique : ∀ {key key' reg reg'}, r.registration? key = some reg → r.registration? key' = some reg' →
    reg.ticket = reg'.ticket → key = key'
  tasks : ∀ task ∈ r.tasks, r.timers.HasIssued task.ticket
  distinct : (r.tasks.map (·.ticket)).Nodup
  delivered : ∀ x ∈ r.delivered, r.timers.HasIssued x.ticket
  started : ∀ {key reg}, r.registration? key = some reg → r.timers.started = true
  early : ∀ task ∈ r.tasks, r.now ≤ task.deadline

omit [Std.TransOrd K] [Std.LawfulEqOrd K] in
theorem Numbered.new : (TimerRun.new : TimerRun K).Numbered :=
  ⟨nofun, nofun, nofun, .nil, nofun, nofun, nofun⟩

omit [Std.TransOrd K] [Std.LawfulEqOrd K] in
theorem Kept.hasIssued (h : r.Kept key reg') (hr : r.Numbered) : r.timers.HasIssued reg'.ticket := by
  obtain ⟨reg, hreg, hticket⟩ := h
  rw [hticket]
  exact hr.registered hreg

omit [DecidableEq K] [Std.TransOrd K] [Std.LawfulEqOrd K] in
theorem Made.not_hasIssued (h : r.Made e key ticket) : ¬ r.timers.HasIssued ticket := by
  obtain ⟨delay, -, -, rfl⟩ := h
  exact r.not_hasIssued_fresh delay

omit [Std.TransOrd K] [Std.LawfulEqOrd K] in
theorem tickets_cancelTask (r : TimerRun K) (key : K) :
    (r.cancelTask key).map (·.ticket) = r.tasks.map (·.ticket) := by
  unfold cancelTask
  rw [List.map_map]
  refine List.map_congr_left fun task _ => ?_
  rw [Function.comp_apply]
  split <;> rfl

theorem Does.distinct (h : r.Does e r') (hdistinct : (r.tasks.map (·.ticket)).Nodup)
    (hissued : ∀ task ∈ r.tasks, r.timers.HasIssued task.ticket) : (r'.tasks.map (·.ticket)).Nodup := by
  cases h with
  | start | notStart | notRegister | sleep | tick | notTick => exact hdistinct
  | stop | cancel | replace =>
    show ((r.tasks.map (·.cancel)).map (·.ticket)).Nodup
    rw [List.map_map]
    exact hdistinct
  | @register key delay hrunning =>
    show ((r.cancelTask key ++ [r.freshTask key delay]).map (·.ticket)).Nodup
    rw [List.map_append, tickets_cancelTask]
    refine hdistinct.append (List.nodup_singleton _) fun ticket hold hnew => ?_
    obtain ⟨task, htask, rfl⟩ := List.mem_map.1 hold
    have hfresh : task.ticket = (r.fresh delay).ticket := List.mem_singleton.1 hnew
    exact r.not_hasIssued_fresh delay (hfresh ▸ hissued task htask)
  | @unregister key =>
    show ((r.cancelTask key).map (·.ticket)).Nodup
    rw [tickets_cancelTask]
    exact hdistinct
  | expire | giveUp | straggle => exact hdistinct.sublist (List.filter_sublist.map _)

theorem Numbered.after (hr : r.Numbered) (e : TimerEvent K) : (r.after e).Numbered := by
  have hdoes := r.after_does e
  have hregistered : ∀ {key reg'}, (r.after e).registration? key = some reg' →
      (r.after e).timers.HasIssued reg'.ticket := by
    intro key reg' hreg
    obtain hkept | hmade := hdoes.registration hreg
    · exact hdoes.hasIssued (hkept.hasIssued hr)
    · exact hmade.hasIssued
  refine ⟨hregistered, fun {key key' reg₁ reg₂} h₁ h₂ hticket => ?_, fun task' htask => ?_,
    hdoes.distinct hr.distinct hr.tasks, fun x hx => ?_, fun {key reg'} hreg => ?_, fun task' htask => ?_⟩
  · obtain hkept₁ | hmade₁ := hdoes.registration h₁ <;> obtain hkept₂ | hmade₂ := hdoes.registration h₂
    · obtain ⟨_, hold₁, hticket₁⟩ := hkept₁
      obtain ⟨_, hold₂, hticket₂⟩ := hkept₂
      exact hr.unique hold₁ hold₂ (hticket₁.symm.trans (hticket.trans hticket₂))
    · exact absurd (hticket ▸ hkept₁.hasIssued hr) hmade₂.not_hasIssued
    · exact absurd (hticket ▸ hkept₂.hasIssued hr) hmade₁.not_hasIssued
    · obtain ⟨_, rfl, -⟩ := hmade₁
      obtain ⟨_, heq, -⟩ := hmade₂
      exact (TimerEvent.register.inj heq).1
  · obtain ⟨task, hold, rfl | rfl⟩ | ⟨hmade, -⟩ := hdoes.task_cases htask
    · exact hdoes.hasIssued (hr.tasks task' hold)
    · exact hdoes.hasIssued (hr.tasks task hold)
    · exact hmade.hasIssued
  · obtain ⟨told, hdelivered, htold⟩ := hdoes.delivered
    rw [hdelivered, List.mem_append] at hx
    refine hdoes.hasIssued ?_
    rcases hx with hx | hx
    · exact hr.delivered x hx
    · obtain ⟨task, htask, rfl⟩ := htold x hx
      exact hr.tasks task htask
  · -- a service that has registrations was started, and only a new one is not
    have hstarted : r.timers.started = true := by
      obtain ⟨reg, hold, -⟩ | ⟨delay, -, hrunning, -⟩ := hdoes.registration hreg
      · exact hr.started hold
      · exact (Timers.isRunning_iff.1 hrunning).1
    generalize r.after e = r' at hdoes hreg
    cases hdoes with
    | start => rfl
    | replace => cases hreg
    | _ => exact hstarted
  · obtain ⟨task, hold, heq⟩ | ⟨-, hlater, hnow⟩ := hdoes.task_cases htask
    · have hdeadline : task'.deadline = task.deadline := by
        rcases heq with rfl | rfl <;> rfl
      have hearly := hr.early task hold
      generalize r.after e = r' at hdoes
      cases hdoes with
      | tick hasleep => exact hdeadline ▸ (hasleep task hold).2
      | _ => exact hdeadline ▸ hearly
    · rw [hnow]
      exact hlater

/-- What one event keeps, all events keep. -/
theorem afterAll_keeps {P : TimerRun K → Prop} (hstep : ∀ r e, P r → P (r.after e)) (h : P r)
    (events : List (TimerEvent K)) : P (r.afterAll events) := by
  induction events generalizing r with
  | nil => exact h
  | cons e rest ih => exact ih (hstep r e h)

theorem Numbered.afterNew (events : List (TimerEvent K)) : (TimerRun.new.afterAll events).Numbered :=
  afterAll_keeps (fun _ e hr => hr.after e) .new events

end TimerRun

end WorkerSlots
