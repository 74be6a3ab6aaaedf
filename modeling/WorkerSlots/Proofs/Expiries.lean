import Mathlib.Data.List.Induction
import WorkerSlots.Proofs.Fates

/-!
# Which timeouts are delivered

* `isValid_after` : the tickets that are valid after one event;
* `Registered` : a registration of a history that succeeded;
* `expiries_of_history` : what is delivered and which tickets are valid, by the history alone;
* `not_told_iff_not_ended` : what is not decided at the very deadline.
-/

namespace WorkerSlots.TimerRun

variable {K : Type} [Ord K] [DecidableEq K] [Std.TransOrd K] [Std.LawfulEqOrd K]

variable {r r' : TimerRun K} {e : TimerEvent K} {key : K} {ticket : Ticket} {delay : UInt64}

/-! ## Valid tickets -/

omit [Std.TransOrd K] [Std.LawfulEqOrd K] in
theorem isValid_iff : r.timers.isValid key ticket = true ↔
    r.timers.cancelled = false ∧ ∃ reg, r.registration? key = some reg ∧ reg.ticket = ticket := by
  unfold Timers.isValid registration?
  cases r.timers.registrations.get? key <;> simp

theorem isValid_record (hrunning : r.timers.isRunning = true) (other : K) (delay : UInt64) :
    (r.record other delay).timers.isValid key ticket = true ↔
      if key = other then (r.fresh delay).ticket = ticket else r.timers.isValid key ticket = true := by
  have hcancelled : r.timers.cancelled = false := (Timers.isRunning_iff.1 hrunning).2
  have hsame : (r.record other delay).timers.cancelled = r.timers.cancelled := rfl
  rw [isValid_iff, isValid_iff, hsame, registration?_record]
  split
  · simp [hcancelled]
  · rfl

omit [Std.TransOrd K] [Std.LawfulEqOrd K] in
theorem isValid_unregister (r : TimerRun K) (other : K) :
    (r.unregister other).timers.isValid key ticket = true ↔
      key ≠ other ∧ r.timers.isValid key ticket = true := by
  have hsame : (r.unregister other).timers.cancelled = r.timers.cancelled := rfl
  rw [isValid_iff, isValid_iff, hsame, registration?_unregister]
  split
  · rename_i hkey
    simp [hkey]
  · rename_i hkey
    simp [hkey]

omit [Std.TransOrd K] in
/-- A ticket stays valid as its timeout expires. -/
theorem isValid_expire (r : TimerRun K) (task : TimerTask K) :
    (r.expire task).timers.isValid key ticket = r.timers.isValid key ticket := by
  have hreg := r.registration?_expire task key
  unfold registration? at hreg
  unfold Timers.isValid
  rw [hreg]
  refine congrArg (!r.timers.cancelled && ·) ?_
  cases r.timers.registrations.get? key with
  | none => rfl
  | some reg =>
    rw [Option.map_some, Option.any_some, Option.any_some]
    split <;> rfl

omit [Std.TransOrd K] [Std.LawfulEqOrd K] in
theorem isRunning_of_isValid (hr : r.Numbered) (hvalid : r.timers.isValid key ticket = true) :
    r.timers.isRunning = true := by
  obtain ⟨hcancelled, reg, hreg, -⟩ := isValid_iff.1 hvalid
  exact Timers.isRunning_iff.2 ⟨hr.started hreg, hcancelled⟩

/-- Once a key has been registered, no ticket of it is valid but the one that was given, if one was. -/
theorem isValid_register (hr : r.Numbered) (other : K) (delay : UInt64) :
    (r.register other delay).2.timers.isValid key ticket = true ↔
      if key = other then (r.register key delay).1 = .ok ticket
      else r.timers.isValid key ticket = true := by
  obtain ⟨hrunning, heq⟩ | ⟨hrunning, error, heq⟩ := r.register_cases other delay
  · rw [heq, isValid_record hrunning]
    split
    · rw [register_eq_ok_iff]
      exact (and_iff_right hrunning).symm
    · rfl
  · rw [heq]
    split
    · rename_i hkey
      rw [hkey, heq]
      constructor
      · intro hvalid
        rw [isRunning_of_isValid hr hvalid] at hrunning
        cases hrunning
      · intro hok
        cases hok
    · rfl

/-- A ticket is valid after an event if it was before and is not taken back, or has just been given. -/
theorem isValid_after (hr : r.Numbered) (e : TimerEvent K) :
    (r.after e).timers.isValid key ticket = true ↔
      ¬ e.Ends key ∧ r.timers.isValid key ticket = true ∨
        ∃ delay, e = .register key delay ∧ (r.register key delay).1 = .ok ticket := by
  -- an event that is no registration of the key gives none of its tickets
  have hother : (∀ delay, e ≠ .register key delay) → ∀ {p : Prop},
      (p ∨ ∃ delay, e = .register key delay ∧ (r.register key delay).1 = .ok ticket) ↔ p := by
    intro hne p
    refine or_iff_left ?_
    rintro ⟨delay, he, -⟩
    exact hne delay he
  cases e with
  | register other delay =>
    refine (isValid_register hr other delay).trans ?_
    split
    · rename_i hkey
      subst hkey
      constructor
      · exact fun hok => .inr ⟨delay, rfl, hok⟩
      · rintro (⟨hnot, -⟩ | ⟨delay', he, hok⟩)
        · exact absurd rfl hnot
        · obtain ⟨-, rfl⟩ := TimerEvent.register.inj he
          exact hok
    · rename_i hkey
      rw [hother fun delay he => hkey (TimerEvent.register.inj he).1.symm]
      exact (and_iff_right fun h => hkey (Eq.symm h)).symm
  | unregister other =>
    rw [hother (by simp)]
    refine (r.isValid_unregister other).trans ?_
    exact and_congr_left' (not_congr eq_comm)
  | stop | cancel | replace =>
    rw [hother (by simp)]
    exact ⟨fun hvalid => absurd hvalid Bool.false_ne_true, fun h => absurd trivial h.1⟩
  | poll other late =>
    rw [hother (by simp)]
    have hdoes := r.poll_does other late
    show (r.poll other late).timers.isValid key ticket = true ↔ _
    generalize r.poll other late = r' at hdoes
    cases hdoes with
    | expire =>
      rw [isValid_expire]
      exact (and_iff_right id).symm
    | _ => exact (and_iff_right id).symm
  | start =>
    rw [hother (by simp)]
    have hdoes := r.after_does .start
    generalize r.after .start = r' at hdoes
    cases hdoes <;> exact (and_iff_right id).symm
  | tick ms =>
    rw [hother (by simp)]
    have hdoes := r.after_does (.tick ms)
    generalize r.after (.tick ms) = r' at hdoes
    cases hdoes <;> exact (and_iff_right id).symm

/-! ## By the history -/

/-- A registration of a history that succeeded, what ticket it gave, how the service was left, and what came
after it. -/
def Registered (history : List (TimerEvent K)) (key : K) (delay : UInt64) (ticket : Ticket) (r : TimerRun K)
    (rest : List (TimerEvent K)) : Prop :=
  ∃ before, history = before ++ .register key delay :: rest ∧
    (new.afterAll before).register key delay = (.ok ticket, r)

variable {history rest : List (TimerEvent K)}

theorem register_eq_mk_iff : r.register key delay = (.ok ticket, r') ↔
    (r.register key delay).1 = .ok ticket ∧ r' = r.after (.register key delay) := by
  show _ ↔ _ ∧ r' = (r.register key delay).2
  rw [Prod.ext_iff, eq_comm (a := r')]

/-- After one more event there are the registrations of before, and it may be one itself. -/
theorem registered_concat_iff : Registered (history ++ [e]) key delay ticket r rest ↔
    (∃ rest', rest = rest' ++ [e] ∧ Registered history key delay ticket r rest') ∨
      rest = [] ∧ e = .register key delay ∧
        (new.afterAll history).register key delay = (.ok ticket, r) := by
  unfold Registered
  constructor
  · rintro ⟨before, hsplit, hok⟩
    obtain rfl | ⟨rest', last, rfl⟩ := List.eq_nil_or_concat rest
    · obtain ⟨rfl, hlast⟩ := List.append_inj' hsplit rfl
      obtain rfl := (List.cons.inj hlast).1
      exact .inr ⟨rfl, rfl, hok⟩
    · rw [List.concat_eq_append, ← List.cons_append, ← List.append_assoc] at hsplit
      obtain ⟨rfl, hlast⟩ := List.append_inj' hsplit rfl
      obtain rfl := (List.cons.inj hlast).1
      exact .inl ⟨rest', List.concat_eq_append, before, rfl, hok⟩
  · rintro (⟨rest', rfl, before, rfl, hok⟩ | ⟨rfl, rfl, hok⟩)
    · exact ⟨before, by rw [List.append_assoc, List.cons_append], hok⟩
    · exact ⟨history, rfl, hok⟩

/-- A registration that succeeds leaves a timeout whose task sleeps. -/
theorem Registered.sleeping (h : Registered history key delay ticket r rest) :
    r.Numbered ∧ r.Sleeping key ticket (r.now + delay.toNat) ∧ new.afterAll history = r.afterAll rest := by
  obtain ⟨before, rfl, hok⟩ := h
  have hbefore : (new.afterAll before : TimerRun K).Numbered := .afterNew before
  obtain ⟨hticket, rfl⟩ := register_eq_mk_iff.1 hok
  refine ⟨hbefore.after _, ?_, List.foldl_append⟩
  generalize (new.afterAll before : TimerRun K) = s at hbefore hticket
  obtain ⟨hrunning, rfl⟩ := register_eq_ok_iff.1 hticket
  have hafter : s.after (.register key delay) = s.record key delay :=
    congrArg Prod.snd (register_of_isRunning hrunning)
  have hunissued := s.not_hasIssued_fresh delay
  have hnone : (s.unregister key).task? (s.fresh delay).ticket = none := by
    rw [task?_unregister, task?_eq_none_iff.2, Option.map_none]
    exact fun task htask hticket => hunissued (hticket ▸ hbefore.tasks task htask)
  rw [hafter]
  refine ⟨(Timers.isRunning_iff.1 hrunning).2, ⟨s.fresh delay, ?_, rfl⟩, ?_, ?_⟩
  · rw [registration?_record, if_pos rfl]
  · rw [task?_record, hnone, if_pos rfl]
    rfl
  · refine List.filter_eq_nil_iff.2 fun x hx hticket => hunissued ?_
    rw [← of_decide_eq_true hticket]
    exact hbefore.delivered x hx

/-- Whatever is registered or waits or was delivered comes from a registration of the history. -/
theorem exists_registered (history : List (TimerEvent K)) :
    (∀ task ∈ (new.afterAll history).tasks, ∃ delay r rest,
      Registered history task.key delay task.ticket r rest) ∧
    ∀ x ∈ (new.afterAll history).delivered, ∃ delay r rest,
      Registered history x.key delay x.ticket r rest := by
  induction history using List.reverseRecOn with
  | nil => exact ⟨nofun, nofun⟩
  | append_singleton history e ih =>
    rw [afterAll_concat]
    have hdoes := (new.afterAll history).after_does e
    have hlater : ∀ {key ticket}, (∃ delay r rest, Registered history key delay ticket r rest) →
        ∃ delay r rest, Registered (history ++ [e]) key delay ticket r rest :=
      fun ⟨delay, r, rest, h⟩ => ⟨delay, r, _, registered_concat_iff.2 (.inl ⟨rest, rfl, h⟩)⟩
    refine ⟨fun task' htask => ?_, fun x hx => ?_⟩
    · obtain ⟨task, hold, rfl | rfl⟩ | ⟨⟨delay, rfl, hrunning, hticket⟩, -⟩ := hdoes.task_cases htask
      · exact hlater (ih.1 task' hold)
      · exact hlater (ih.1 task hold)
      · rw [hticket]
        exact ⟨delay, _, [], registered_concat_iff.2 (.inr ⟨rfl, rfl, register_of_isRunning hrunning⟩)⟩
    · obtain ⟨told, hdelivered, htold⟩ := hdoes.delivered
      rw [hdelivered, List.mem_append] at hx
      rcases hx with hx | hx
      · exact hlater (ih.2 x hx)
      · obtain ⟨task, htask, rfl⟩ := htold x hx
        exact hlater (ih.1 task htask)

theorem isValid_afterAll_iff (history : List (TimerEvent K)) :
    (new.afterAll history).timers.isValid key ticket = true ↔
      ∃ delay r rest, Registered history key delay ticket r rest ∧ ∀ e ∈ rest, ¬ e.Ends key := by
  induction history using List.reverseRecOn with
  | nil =>
    refine ⟨nofun, ?_⟩
    rintro ⟨delay, r, rest, ⟨before, hsplit, -⟩, -⟩
    cases before <;> cases hsplit
  | append_singleton history e ih =>
    rw [afterAll_concat, isValid_after (.afterNew history), ih]
    constructor
    · rintro (⟨he, delay, r, rest, hreg, hrest⟩ | ⟨delay, rfl, hok⟩)
      · refine ⟨delay, r, rest ++ [e], registered_concat_iff.2 (.inl ⟨rest, rfl, hreg⟩), fun x hx => ?_⟩
        rcases List.mem_append.1 hx with hx | hx
        · exact hrest x hx
        · rw [List.mem_singleton.1 hx]
          exact he
      · exact ⟨delay, _, [], registered_concat_iff.2 (.inr ⟨rfl, rfl, register_eq_mk_iff.2 ⟨hok, rfl⟩⟩), nofun⟩
    · rintro ⟨delay, r, rest, hreg, hrest⟩
      obtain ⟨rest', rfl, hreg'⟩ | ⟨-, rfl, hok⟩ := registered_concat_iff.1 hreg
      · refine .inl ⟨hrest e (List.mem_append_right _ List.mem_cons_self), delay, r, rest', hreg', ?_⟩
        exact fun x hx => hrest x (List.mem_append_left _ hx)
      · exact .inr ⟨delay, rfl, congrArg Prod.fst hok⟩

/-- In every history of a timer service, a timeout that was registered is delivered once at most, with its ticket
and at its deadline. It is delivered if its delay passes before anything ends it, and it is not if something ends
it earlier; what is done at the very deadline comes before or after its task is run then, and a task that is run
after it may still deliver. Nothing else is delivered. A ticket is valid if it is that of the last registration of
its key, expired or not, and the key's timeout has not been ended since. A service that is running registers every
timeout, and one that is not is left as it is. Time always goes on. -/
theorem expiries_of_history (history : List (TimerEvent K)) :
    let r := (new : TimerRun K).afterAll history
    (∀ key delay ticket start rest, Registered history key delay ticket start rest →
      start.Fate key ticket (start.now + delay.toNat) rest ∧ r = start.afterAll rest ∧
      ((∀ e ∈ rest, ¬ e.Halts) → r.timers.isRunning = true)) ∧
    (∀ x ∈ r.delivered, ∃ delay start rest, Registered history x.key delay x.ticket start rest) ∧
    (∀ key ticket, r.timers.isValid key ticket = true ↔
      ∃ delay start rest, Registered history key delay ticket start rest ∧ ∀ e ∈ rest, ¬ e.Ends key) ∧
    (∀ key delay, ((∃ ticket, (r.register key delay).1 = .ok ticket) ↔ r.timers.isRunning = true) ∧
      ∀ error, (r.register key delay).1 = .error error → (r.register key delay).2 = r) ∧
    ∀ ms, r.Comes (r.now + ms.toNat) (Timed.advance ms r) := by
  intro r
  refine ⟨fun key delay ticket start rest hreg => ?_, (exists_registered history).2,
    fun key ticket => isValid_afterAll_iff history, fun key delay => ⟨?_, fun error herror => ?_⟩,
    comes_advance (.afterNew history)⟩
  · obtain ⟨hstart, hsleeping, hrun⟩ := hreg.sleeping
    refine ⟨hsleeping.fate hstart rest, hrun, fun hrest => ?_⟩
    show (new.afterAll history : TimerRun K).timers.isRunning = true
    rw [hrun]
    exact isRunning_afterAll (hsleeping.isRunning hstart) hrest
  · obtain ⟨hrunning, heq⟩ | ⟨hrunning, error, heq⟩ := r.register_cases key delay
    · exact ⟨fun _ => hrunning, fun _ => ⟨_, congrArg Prod.fst heq⟩⟩
    · rw [heq, hrunning]
      exact ⟨nofun, nofun⟩
  · obtain ⟨-, heq⟩ | ⟨-, error, heq⟩ := r.register_cases key delay
    · rw [heq] at herror
      cases herror
    · rw [heq]

/-- One timeout runs out, and the one that takes its place is stopped from outside before it does. Another one has
no delay, and is delivered although it is taken back before its task is run. -/
theorem expiries_of_history_cancelled :
    let history : List (TimerEvent Nat) := [.start, .register 1 5, .register 2 0, .unregister 2, .poll ⟨0, 1⟩ true,
      .tick 5, .poll ⟨0, 0⟩ false, .register 1 3, .tick 2, .cancel, .poll ⟨0, 2⟩ true, .tick 9]
    let r := new.afterAll history
    r.told ⟨0, 0⟩ = [⟨5, 1, ⟨0, 0⟩⟩] ∧ r.told ⟨0, 1⟩ = [⟨0, 2, ⟨0, 1⟩⟩] ∧ r.told ⟨0, 2⟩ = [] ∧
      (r.register 1 4).2 = r := by
  intro history r
  obtain ⟨hfate, -, -, hregister, -⟩ := expiries_of_history history
  obtain ⟨hfirst, hrun, -⟩ := hfate 1 5 ⟨0, 0⟩ (new.afterAll (history.take 2)) (history.drop 2) ⟨[.start], rfl, rfl⟩
  obtain ⟨hsecond, hrun', -⟩ :=
    hfate 2 0 ⟨0, 1⟩ (new.afterAll (history.take 3)) (history.drop 3) ⟨history.take 2, rfl, rfl⟩
  obtain ⟨hthird, hrun'', -⟩ :=
    hfate 1 3 ⟨0, 2⟩ (new.afterAll (history.take 8)) (history.drop 8) ⟨history.take 7, rfl, rfl⟩
  refine ⟨?_, ?_, ?_, (hregister 1 4).2 .stopped rfl⟩
  · refine (congrArg (told · _) hrun).trans (hfirst.run ((history.drop 2).take 4) false _ rfl ?_ (by decide +kernel))
    simp [history, TimerEvent.Ends]
  · have hiff := hsecond.late [] (.unregister 2) _ rfl nofun rfl (by decide +kernel) (by decide +kernel)
    exact (congrArg (told · _) hrun').trans (hiff.2 ⟨[], _, rfl, nofun⟩)
  · exact (congrArg (told · _) hrun'').trans (hthird.early [.tick 2] .cancel _ rfl trivial (by decide +kernel))

/-! ## At the very deadline -/

/-- Some event that ends the timeout of a key comes at a time. -/
def EndsAt (r : TimerRun K) (key : K) (rest : List (TimerEvent K)) (time : Nat) : Prop :=
  ∃ waited e later, rest = waited ++ e :: later ∧ e.Ends key ∧ (r.afterAll waited).now = time

/-- A service that has a timeout of no delay. -/
def dueAtOnce : TimerRun Nat := new.afterAll [.start, .register 1 0]

/-- The timeout is taken back after its task has been run. -/
def ranFirst : List (TimerEvent Nat) := [.poll ⟨0, 0⟩ false, .unregister 1, .tick 1]

/-- The timeout is taken back before its task is run. -/
def endedFirst (late : Bool) : List (TimerEvent Nat) := [.unregister 1, .poll ⟨0, 0⟩ late, .tick 1]

/-- A timeout that is ended at its very deadline may be delivered or not: it is if its task has been run before,
and also if it is run late. So what is delivered is neither what nothing has ended up to the deadline, nor what
nothing has ended before it. -/
theorem not_told_iff_not_ended :
    ((dueAtOnce.afterAll ranFirst).told ⟨0, 0⟩ = [⟨0, 1, ⟨0, 0⟩⟩] ∧
      (dueAtOnce.afterAll (endedFirst true)).told ⟨0, 0⟩ = [⟨0, 1, ⟨0, 0⟩⟩] ∧
      (dueAtOnce.afterAll (endedFirst false)).told ⟨0, 0⟩ = []) ∧
    (¬ ∀ (history : List (TimerEvent Nat)) key delay ticket start rest,
      Registered history key delay ticket start rest → start.now + delay.toNat < (new.afterAll history).now →
        ((new.afterAll history).told ticket ≠ [] ↔
          ∀ time, start.EndsAt key rest time → start.now + delay.toNat < time)) ∧
    ¬ ∀ (history : List (TimerEvent Nat)) key delay ticket start rest,
      Registered history key delay ticket start rest → start.now + delay.toNat < (new.afterAll history).now →
        ((new.afterAll history).told ticket ≠ [] ↔
          ∀ time, start.EndsAt key rest time → start.now + delay.toNat ≤ time) := by
  have hregistered : ∀ rest, Registered ([.start, .register 1 0] ++ rest) 1 0 ⟨0, 0⟩ dueAtOnce rest :=
    fun rest => ⟨[.start], rfl, rfl⟩
  refine ⟨by decide +kernel, fun hclaim => ?_, fun hclaim => ?_⟩
  · have htold := hclaim _ _ _ _ _ _ (hregistered ranFirst) (by decide)
    have hends : dueAtOnce.EndsAt 1 ranFirst 0 := ⟨[.poll ⟨0, 0⟩ false], .unregister 1, _, rfl, rfl, rfl⟩
    exact Nat.lt_irrefl 0 (htold.1 (by decide) 0 hends)
  · have htold := hclaim _ _ _ _ _ _ (hregistered (endedFirst false)) (by decide)
    exact htold.2 (fun time _ => Nat.zero_le time) (by decide)

end WorkerSlots.TimerRun
