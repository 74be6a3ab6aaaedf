import WorkerSlots.Proofs.Advances

/-!
# What becomes of a timeout

A timeout that is registered has a task, which sleeps. Its registration may be ended, and then the task is to give up;
but at the deadline the task may have gone on already, or may still do so.

* `TimerEvent.Ends` : what ends the timeout of a key, and `TimerEvent.Runs` : its task is run;
* `Sleeping`, `Ending`, `Over` : a timeout that is registered, one that has been ended and whose task is still to
  give up, and one whose task has ended. What one event does to each (`Sleeping.ended`, `Sleeping.run`,
  `Sleeping.kept`, `Ending.run`, `Ending.kept`, `Over.after`);
* `Fate` : what becomes of a timeout, by what happens after its registration (`Sleeping.fate`).
-/

namespace WorkerSlots

/-- The events that take the timeout of a key back or put another one in its place. A registration that
fails does neither, but then the service has been halted since the timeout was registered. -/
def TimerEvent.Ends {K : Type} (key : K) : TimerEvent K → Prop
  | stop | cancel | replace => True
  | register other _ | unregister other => other = key
  | start | poll .. | tick _ => False

/-- The task of a ticket is run. -/
def TimerEvent.Runs {K : Type} (ticket : Ticket) : TimerEvent K → Prop
  | poll other _ => other = ticket
  | _ => False

theorem TimerEvent.exists_of_runs {K : Type} {e : TimerEvent K} {ticket : Ticket} (h : e.Runs ticket) :
    ∃ late, e = .poll ticket late := by
  cases e with
  | poll other late => exact ⟨late, congrArg (poll · late) h⟩
  | _ => cases h

/-- A task that is run ends nothing by that. -/
theorem TimerEvent.not_runs_of_ends {K : Type} {e : TimerEvent K} {key : K} {ticket : Ticket} (h : e.Ends key) :
    ¬ e.Runs ticket := by
  cases e with
  | poll => cases h
  | _ => exact id

namespace TimerRun

variable {K : Type} [Ord K] [DecidableEq K] [Std.TransOrd K] [Std.LawfulEqOrd K]

/-- What has been delivered with a ticket. -/
def told (r : TimerRun K) (ticket : Ticket) : List (Expiry K) := r.delivered.filter (·.ticket = ticket)

/-- The moment is over, or all that was to be done at it has been done. -/
def IsPast (r : TimerRun K) (time : Nat) : Prop := time < r.now ∨ time = r.now ∧ r.AtRest

variable {r r' : TimerRun K} {e : TimerEvent K} {key : K} {ticket : Ticket} {due : Nat} {told : List (Expiry K)}

/-! ## The task of a ticket -/

omit [DecidableEq K] [Std.TransOrd K] [Std.LawfulEqOrd K] in
theorem told_tell (r : TimerRun K) (task : TimerTask K) (ticket : Ticket) : (r.tell task).told ticket =
    r.told ticket ++ if task.ticket = ticket then [⟨r.now, task.key, ticket⟩] else [] := by
  refine (List.filter_append _ _).trans (congrArg _ ?_)
  split
  · rename_i hticket
    rw [List.filter_singleton, decide_eq_true hticket, hticket]
    rfl
  · rename_i hticket
    rw [List.filter_singleton, decide_eq_false hticket]
    rfl

omit [DecidableEq K] [Std.TransOrd K] [Std.LawfulEqOrd K] in
theorem told_tell_of_ne (task : TimerTask K) (hticket : task.ticket ≠ ticket) :
    (r.tell task).told ticket = r.told ticket := by
  rw [told_tell, if_neg hticket, List.append_nil]

/-- Only a task that is run delivers anything, and with its own ticket. -/
theorem Does.told_eq (h : r.Does e r') (he : ¬ e.Runs ticket) : r'.told ticket = r.told ticket := by
  cases h with
  | expire | straggle => exact told_tell_of_ne _ he
  | _ => rfl

/-- Unless it is run, a task stays, and may be told to give up. -/
theorem Does.task?_eq_or (h : r.Does e r') (he : ¬ e.Runs ticket)
    (hissued : r.timers.HasIssued ticket) :
    r'.task? ticket = r.task? ticket ∨ r'.task? ticket = (r.task? ticket).map (·.cancel) := by
  have hunregister : ∀ key, (r.unregister key).task? ticket = r.task? ticket ∨
      (r.unregister key).task? ticket = (r.task? ticket).map (·.cancel) := by
    intro key
    rw [task?_unregister]
    cases (r.registration? key).any (·.ticket = ticket) with
    | false => exact .inl (congrFun Option.map_id _)
    | true => exact .inr rfl
  have hdrop : ∀ {other}, other ≠ ticket → (r.drop other).task? ticket = r.task? ticket := by
    intro other hother
    rw [task?_drop, if_neg (Ne.symm hother)]
  cases h with
  | start | notStart | notRegister | sleep | tick | notTick => exact .inl rfl
  | stop | cancel | replace => exact .inr (TimerTask.find?_cancel _ _)
  | @register key delay =>
    have hfresh : (r.fresh delay).ticket ≠ ticket := by
      rintro rfl
      exact r.not_hasIssued_fresh delay hissued
    rw [task?_record, if_neg hfresh, Option.or_none]
    exact hunregister key
  | @unregister key => exact hunregister key
  | expire | giveUp | straggle => exact .inl (hdrop he)

/-! ## One timeout -/

/-- A timeout that is registered, and whose task sleeps or has yet to be run at the deadline. -/
structure Sleeping (r : TimerRun K) (key : K) (ticket : Ticket) (due : Nat) : Prop where
  running : r.timers.cancelled = false
  registered : ∃ reg, r.registration? key = some reg ∧ reg.ticket = ticket
  asleep : r.task? ticket = some ⟨key, ticket, due, false⟩
  untold : r.told ticket = []

/-- A timeout that has been ended, and whose task is to give up. -/
structure Ending (r : TimerRun K) (key : K) (ticket : Ticket) (due : Nat) : Prop where
  awake : r.task? ticket = some ⟨key, ticket, due, true⟩
  untold : r.told ticket = []

/-- A timeout whose task has ended. -/
structure Over (r : TimerRun K) (ticket : Ticket) (told : List (Expiry K)) : Prop where
  gone : r.task? ticket = none
  issued : r.timers.HasIssued ticket
  told : r.told ticket = told

theorem Over.after (h : r.Over ticket told) (e : TimerEvent K) : (r.after e).Over ticket told := by
  have hdoes := r.after_does e
  have hissued := hdoes.hasIssued h.issued
  by_cases he : e.Runs ticket
  · -- there is no task to be run
    obtain ⟨late, rfl⟩ := TimerEvent.exists_of_runs he
    have hsame : r.after (.poll ticket late) = r := by
      show r.poll ticket late = r
      unfold poll
      rw [h.gone]
    rw [hsame]
    exact h
  · refine ⟨?_, hissued, (hdoes.told_eq he).trans h.told⟩
    obtain hsame | hcancelled := hdoes.task?_eq_or he h.issued
    · exact hsame.trans h.gone
    · rw [hcancelled, h.gone]
      rfl

theorem Over.afterAll (h : r.Over ticket told) (events : List (TimerEvent K)) :
    (r.afterAll events).Over ticket told :=
  afterAll_keeps (P := fun r => r.Over ticket told) (fun _ e hr => hr.after e) h events

omit [Std.TransOrd K] [Std.LawfulEqOrd K] in
theorem Sleeping.isRunning (h : r.Sleeping key ticket due) (hr : r.Numbered) : r.timers.isRunning = true := by
  obtain ⟨reg, hreg, -⟩ := h.registered
  exact Timers.isRunning_iff.2 ⟨hr.started hreg, h.running⟩

omit [Std.TransOrd K] [Std.LawfulEqOrd K] in
theorem Sleeping.hasIssued (h : r.Sleeping key ticket due) (hr : r.Numbered) : r.timers.HasIssued ticket :=
  hr.tasks _ (mem_of_task? h.asleep).1

omit [Std.TransOrd K] [Std.LawfulEqOrd K] in
theorem Sleeping.now_le (h : r.Sleeping key ticket due) (hr : r.Numbered) : r.now ≤ due :=
  hr.early _ (mem_of_task? h.asleep).1

omit [Std.TransOrd K] [Std.LawfulEqOrd K] in
/-- The ticket is that of the key's registration, and of no other. -/
theorem Sleeping.holds_iff (h : r.Sleeping key ticket due) (hr : r.Numbered) (other : K) :
    ((r.registration? other).any (·.ticket = ticket)) = true ↔ other = key := by
  obtain ⟨reg, hreg, hticket⟩ := h.registered
  rw [Option.any_eq_true]
  constructor
  · rintro ⟨reg', hreg', hticket'⟩
    exact hr.unique hreg' hreg ((of_decide_eq_true hticket').trans hticket.symm)
  · rintro rfl
    exact ⟨reg, hreg, decide_eq_true hticket⟩

omit [Std.TransOrd K] [Std.LawfulEqOrd K] in
theorem Ending.hasIssued (h : r.Ending key ticket due) (hr : r.Numbered) : r.timers.HasIssued ticket :=
  hr.tasks _ (mem_of_task? h.awake).1

omit [Std.TransOrd K] [Std.LawfulEqOrd K] in
theorem Ending.now_le (h : r.Ending key ticket due) (hr : r.Numbered) : r.now ≤ due :=
  hr.early _ (mem_of_task? h.awake).1

/-- The task of a timeout that is taken back, replaced or halted is told to give up, at once. -/
theorem Sleeping.ended (h : r.Sleeping key ticket due) (hr : r.Numbered) (he : e.Ends key) :
    (r.after e).Ending key ticket due ∧ (r.after e).now = r.now := by
  have hdoes := r.after_does e
  have hunregister : (r.unregister key).task? ticket = some ⟨key, ticket, due, true⟩ := by
    rw [task?_unregister, h.asleep, Option.map_some, if_pos ((h.holds_iff hr key).2 rfl)]
    rfl
  have hcancel : (r.tasks.map (·.cancel)).find? (·.ticket = ticket) = some ⟨key, ticket, due, true⟩ :=
    (TimerTask.find?_cancel _ _).trans (congrArg (Option.map (·.cancel)) h.asleep)
  generalize r.after e = r' at hdoes
  cases hdoes with
  | start | notStart | sleep | expire | giveUp | straggle | tick | notTick => cases he
  | stop | cancel | replace => exact ⟨⟨hcancel, h.untold⟩, rfl⟩
  | register =>
    obtain rfl : _ = key := he
    refine ⟨⟨?_, h.untold⟩, rfl⟩
    rw [task?_record, hunregister]
    rfl
  | notRegister hrunning =>
    rw [h.isRunning hr] at hrunning
    cases hrunning
  | unregister =>
    obtain rfl : _ = key := he
    exact ⟨⟨hunregister, h.untold⟩, rfl⟩

/-- A task that is run at the deadline tells of the expiry, if the timeout has not been ended. -/
theorem Sleeping.run (h : r.Sleeping key ticket due) (hr : r.Numbered) (hdue : r.now = due) (late : Bool) :
    (r.after (.poll ticket late)).Over ticket [⟨due, key, ticket⟩] := by
  have hrun : r.after (.poll ticket late) = r.expire ⟨key, ticket, due, false⟩ := by
    show r.poll ticket late = _
    unfold poll
    rw [h.asleep]
    dsimp only
    rw [decide_eq_true (Nat.le_of_eq hdue.symm)]
    rfl
  rw [hrun]
  refine ⟨(task?_drop r ticket ticket).trans (if_pos rfl), h.hasIssued hr, ?_⟩
  exact (r.told_tell _ ticket).trans (by rw [h.untold, hdue, if_pos rfl, List.nil_append])

/-- Until then the timeout goes on. -/
theorem Sleeping.kept (h : r.Sleeping key ticket due) (hr : r.Numbered) (he : ¬ e.Ends key)
    (hearly : e.Runs ticket → r.now < due) : (r.after e).Sleeping key ticket due := by
  have hdoes := r.after_does e
  have hunregister : ∀ other, other ≠ key →
      (r.unregister other).task? ticket = some ⟨key, ticket, due, false⟩ := by
    intro other hne
    rw [task?_unregister, h.asleep, Option.map_some, if_neg fun hholds => hne ((h.holds_iff hr other).1 hholds)]
  have hmine : ∀ {task}, r.task? task.ticket = some task → task.ticket = ticket →
      task = ⟨key, ticket, due, false⟩ := by
    rintro task htask rfl
    exact Option.some.inj (htask.symm.trans h.asleep)
  have hdrop : ∀ {other}, other ≠ ticket → (r.drop other).task? ticket = some ⟨key, ticket, due, false⟩ := by
    intro other hne
    rw [task?_drop, if_neg (Ne.symm hne), h.asleep]
  obtain ⟨reg, hreg, hticket⟩ := h.registered
  generalize r.after e = r' at hdoes
  cases hdoes with
  | stop | cancel | replace => exact absurd trivial he
  | start | notStart | notRegister | sleep | tick | notTick => exact ⟨h.running, h.registered, h.asleep, h.untold⟩
  | @register other delay =>
    refine ⟨h.running, ⟨reg, ?_, hticket⟩, ?_, h.untold⟩
    · rw [registration?_record, if_neg fun hkey => he (Eq.symm hkey), hreg]
    · rw [task?_record, hunregister other he]
      rfl
  | @unregister other =>
    refine ⟨h.running, ⟨reg, ?_, hticket⟩, hunregister other he, h.untold⟩
    rw [registration?_unregister, if_neg fun hkey => he (Eq.symm hkey), hreg]
  | @expire late task htask hlive hdue =>
    have hother : task.ticket ≠ ticket := by
      intro hsame
      have hlater := hearly hsame
      obtain rfl := hmine htask hsame
      exact Nat.not_lt.2 hdue hlater
    refine ⟨h.running, ⟨reg, ?_, hticket⟩, hdrop hother, (told_tell_of_ne task hother).trans h.untold⟩
    rw [registration?_expire, hreg, Option.map_some, if_neg fun hsame => hother (hsame.symm.trans hticket)]
  | @giveUp late task htask hcancelled =>
    refine ⟨h.running, h.registered, hdrop fun hsame => ?_, h.untold⟩
    obtain rfl := hmine htask hsame
    cases hcancelled
  | @straggle task htask hcancelled hdue =>
    have hother : task.ticket ≠ ticket := by
      intro hsame
      obtain rfl := hmine htask hsame
      cases hcancelled
    exact ⟨h.running, h.registered, hdrop hother, (told_tell_of_ne task hother).trans h.untold⟩

/-- A task that is to give up tells of the expiry all the same if it is run late and its time has come. -/
theorem Ending.run (h : r.Ending key ticket due) (hr : r.Numbered) (late : Bool) :
    (r.after (.poll ticket late)).Over ticket
      (if late = true ∧ r.now = due then [⟨due, key, ticket⟩] else []) := by
  have hissued := (r.after_does (.poll ticket late)).hasIssued (h.hasIssued hr)
  have hearly := h.now_le hr
  have hrun : r.after (.poll ticket late) = if late = true ∧ r.now = due then r.tell ⟨key, ticket, due, true⟩
      else r.drop ticket := by
    show r.poll ticket late = _
    unfold poll
    rw [h.awake]
    dsimp only
    by_cases hdue : r.now = due
    · rw [decide_eq_true (Nat.le_of_eq hdue.symm)]
      cases late <;> simp [hdue]
    · rw [decide_eq_false fun hle => hdue (Nat.le_antisymm hearly hle)]
      exact (if_neg fun hlate => hdue hlate.2).symm
  have hgone : (r.drop ticket).task? ticket = none := (task?_drop r ticket ticket).trans (if_pos rfl)
  rw [hrun] at hissued ⊢
  split
  · rename_i hlate
    rw [if_pos hlate] at hissued
    refine ⟨hgone, hissued, (r.told_tell _ ticket).trans ?_⟩
    rw [h.untold, if_pos rfl, hlate.2, List.nil_append]
  · rename_i hnot
    rw [if_neg hnot] at hissued
    exact ⟨hgone, hissued, h.untold⟩

/-- Until it is run, no time passes. -/
theorem Ending.kept (h : r.Ending key ticket due) (hr : r.Numbered) (he : ¬ e.Runs ticket) :
    (r.after e).Ending key ticket due ∧ (r.after e).now = r.now := by
  have hdoes := r.after_does e
  refine ⟨⟨?_, (hdoes.told_eq he).trans h.untold⟩, ?_⟩
  · obtain hsame | hcancelled := hdoes.task?_eq_or he (h.hasIssued hr)
    · exact hsame.trans h.awake
    · rw [hcancelled, h.awake]
      rfl
  · generalize r.after e = r' at hdoes
    cases hdoes with
    | tick hasleep => cases (hasleep _ (mem_of_task? h.awake).1).1
    | _ => rfl

/-! ## What becomes of a timeout -/

/-- How far a timeout has come. -/
inductive Phase (r : TimerRun K) (key : K) (ticket : Ticket) (due : Nat) : Prop where
  | sleeping (h : r.Sleeping key ticket due)
  | ending (h : r.Ending key ticket due)
  | silent (h : r.Over ticket [])
  | heard (h : r.Over ticket [⟨due, key, ticket⟩]) (hdue : due ≤ r.now)

theorem Phase.after (h : r.Phase key ticket due) (hr : r.Numbered) (e : TimerEvent K) :
    (r.after e).Phase key ticket due := by
  have hnow := (r.after_does e).now_le
  cases h with
  | sleeping h =>
    by_cases he : e.Ends key
    · exact .ending (h.ended hr he).1
    · by_cases hrun : e.Runs ticket ∧ r.now = due
      · obtain ⟨hruns, hdue⟩ := hrun
        obtain ⟨late, rfl⟩ := TimerEvent.exists_of_runs hruns
        exact .heard (h.run hr hdue late) (hdue ▸ hnow)
      · refine .sleeping (h.kept hr he fun hruns => ?_)
        exact Nat.lt_of_le_of_ne (h.now_le hr) fun hdue => hrun ⟨hruns, hdue⟩
  | ending h =>
    by_cases he : e.Runs ticket
    · obtain ⟨late, rfl⟩ := TimerEvent.exists_of_runs he
      have hover := h.run hr late
      split at hover
      · rename_i hlate
        exact .heard hover (hlate.2 ▸ hnow)
      · exact .silent hover
    · exact .ending (h.kept hr he).1
  | silent h => exact .silent (h.after e)
  | heard h hdue => exact .heard (h.after e) (Nat.le_trans hdue hnow)

theorem Phase.afterAll (h : r.Phase key ticket due) (hr : r.Numbered) (events : List (TimerEvent K)) :
    (r.afterAll events).Phase key ticket due ∧ (r.afterAll events).Numbered := by
  refine afterAll_keeps (P := fun r => r.Phase key ticket due ∧ r.Numbered) ?_ ⟨h, hr⟩ events
  exact fun _ e h => ⟨h.1.after h.2 e, h.2.after e⟩

/-- As long as nothing ends it, the timeout goes on or has been delivered. -/
theorem Sleeping.afterAll (h : r.Sleeping key ticket due) (hr : r.Numbered) {events : List (TimerEvent K)}
    (hnone : ∀ e ∈ events, ¬ e.Ends key) : (r.afterAll events).Sleeping key ticket due ∨
      (r.afterAll events).Over ticket [⟨due, key, ticket⟩] := by
  induction events generalizing r with
  | nil => exact .inl h
  | cons e rest ih =>
    have he := hnone e List.mem_cons_self
    have hrest := fun x hx => hnone x (List.mem_cons_of_mem e hx)
    by_cases hrun : e.Runs ticket ∧ r.now = due
    · obtain ⟨hruns, hdue⟩ := hrun
      obtain ⟨late, rfl⟩ := TimerEvent.exists_of_runs hruns
      exact .inr ((h.run hr hdue late).afterAll rest)
    · refine ih (h.kept hr he fun hruns => ?_) (hr.after e) hrest
      exact Nat.lt_of_le_of_ne (h.now_le hr) fun hdue => hrun ⟨hruns, hdue⟩

/-- A timeout that is ended before its deadline is never delivered. -/
theorem Ending.afterAll_early (h : r.Ending key ticket due) (hr : r.Numbered) (hearly : r.now < due)
    (events : List (TimerEvent K)) : (r.afterAll events).told ticket = [] := by
  induction events generalizing r with
  | nil => exact h.untold
  | cons e rest ih =>
    by_cases he : e.Runs ticket
    · obtain ⟨late, rfl⟩ := TimerEvent.exists_of_runs he
      have hover := h.run hr late
      rw [if_neg fun hlate => Nat.ne_of_lt hearly hlate.2] at hover
      exact (hover.afterAll rest).told
    · obtain ⟨hending, hnow⟩ := h.kept hr he
      exact ih hending (hr.after e) (hnow.symm ▸ hearly)

/-- A timeout that is ended at its deadline is delivered if its task is run late. -/
theorem Ending.afterAll_iff (h : r.Ending key ticket due) (hr : r.Numbered) (hdue : r.now = due)
    (events : List (TimerEvent K)) : (r.afterAll events).told ticket = [⟨due, key, ticket⟩] ↔
      ∃ idle later, events = idle ++ .poll ticket true :: later ∧ ∀ e ∈ idle, ¬ e.Runs ticket := by
  induction events generalizing r with
  | nil =>
    constructor
    · intro htold
      cases htold.symm.trans h.untold
    · rintro ⟨idle, later, hsplit, -⟩
      cases idle <;> cases hsplit
  | cons e rest ih =>
    by_cases he : e.Runs ticket
    · obtain ⟨late, rfl⟩ := TimerEvent.exists_of_runs he
      have htold := ((h.run hr late).afterAll rest).told
      cases late with
      | false =>
        rw [if_neg fun hlate => Bool.false_ne_true hlate.1] at htold
        constructor
        · intro hheard
          cases hheard.symm.trans htold
        · rintro ⟨idle, later, hsplit, hidle⟩
          cases idle with
          | nil => cases hsplit
          | cons first idle =>
            obtain ⟨rfl, -⟩ := List.cons.inj hsplit
            exact absurd rfl (hidle _ List.mem_cons_self)
      | true =>
        rw [if_pos ⟨rfl, hdue⟩] at htold
        exact ⟨fun _ => ⟨[], rest, rfl, nofun⟩, fun _ => htold⟩
    · obtain ⟨hending, hnow⟩ := h.kept hr he
      refine (ih hending (hr.after e) (hnow.trans hdue)).trans ⟨?_, ?_⟩
      · rintro ⟨idle, later, rfl, hidle⟩
        exact ⟨e :: idle, later, rfl, List.forall_mem_cons.2 ⟨he, hidle⟩⟩
      · rintro ⟨idle, later, hsplit, hidle⟩
        cases idle with
        | nil =>
          obtain ⟨rfl, -⟩ := List.cons.inj hsplit
          exact absurd rfl he
        | cons first idle =>
          obtain ⟨-, rfl⟩ := List.cons.inj hsplit
          exact ⟨idle, later, rfl, fun x hx => hidle x (List.mem_cons_of_mem _ hx)⟩

/-- What becomes of a timeout that has just been registered, by what happens after that. What is done to it at
the very moment of its deadline comes before or after its task is run then. -/
structure Fate (r : TimerRun K) (key : K) (ticket : Ticket) (due : Nat) (rest : List (TimerEvent K)) : Prop where
  /-- It is delivered once at most, and at the deadline. -/
  once : (r.afterAll rest).told ticket = [] ∨ (r.afterAll rest).told ticket = [⟨due, key, ticket⟩]
  /-- It is delivered if nothing has ended it until the moment of the deadline is over. -/
  expired : ∀ waited later, rest = waited ++ later → (∀ e ∈ waited, ¬ e.Ends key) →
    (r.afterAll waited).IsPast due → (r.afterAll rest).told ticket = [⟨due, key, ticket⟩]
  /-- It is not if something ends it before the deadline. -/
  early : ∀ waited e later, rest = waited ++ e :: later → e.Ends key → (r.afterAll waited).now < due →
    (r.afterAll rest).told ticket = []
  /-- It is delivered if its task is run at the deadline before anything ends it. -/
  run : ∀ waited late later, rest = waited ++ .poll ticket late :: later → (∀ e ∈ waited, ¬ e.Ends key) →
    (r.afterAll waited).now = due → (r.afterAll rest).told ticket = [⟨due, key, ticket⟩]
  /-- If something ends it at the deadline before its task is run, the task may still deliver it or not. -/
  late : ∀ waited e later, rest = waited ++ e :: later → (∀ x ∈ waited, ¬ x.Ends key) → e.Ends key →
    (r.afterAll waited).now = due → (r.afterAll waited).told ticket = [] →
    ((r.afterAll rest).told ticket = [⟨due, key, ticket⟩] ↔
      ∃ idle later', later = idle ++ .poll ticket true :: later' ∧ ∀ x ∈ idle, ¬ x.Runs ticket)

theorem Sleeping.fate (h : r.Sleeping key ticket due) (hr : r.Numbered) (rest : List (TimerEvent K)) :
    r.Fate key ticket due rest := by
  have hphase := Phase.afterAll (.sleeping h) hr
  refine ⟨?_, ?_, ?_, ?_, ?_⟩
  · obtain ⟨h | h | h | ⟨h, -⟩, -⟩ := hphase rest
    · exact .inl h.untold
    · exact .inl h.untold
    · exact .inl h.told
    · exact .inr h.told
  · rintro waited later rfl hnone hpast
    rw [afterAll_append]
    obtain hsleeping | hover := h.afterAll hr hnone
    · -- a task that sleeps on does so until the deadline, and not at it
      have hnow := hsleeping.now_le (hphase waited).2
      obtain hlater | ⟨hsame, hrest⟩ := hpast
      · exact absurd hlater (Nat.not_lt.2 hnow)
      · have hasleep := (hrest _ (mem_of_task? hsleeping.asleep).1).2
        rw [← hsame] at hasleep
        exact absurd hasleep (Nat.lt_irrefl _)
    · exact (hover.afterAll later).told
  · rintro waited e later rfl he hearly
    rw [afterAll_append]
    have hnumbered := (hphase waited).2
    show (((r.afterAll waited).after e).afterAll later).told ticket = []
    obtain ⟨h | h | h | ⟨-, hdue⟩, -⟩ := hphase waited
    · obtain ⟨hending, hnow⟩ := h.ended hnumbered he
      exact hending.afterAll_early (hnumbered.after e) (hnow.symm ▸ hearly) later
    · obtain ⟨hending, hnow⟩ := h.kept hnumbered (TimerEvent.not_runs_of_ends he)
      exact hending.afterAll_early (hnumbered.after e) (hnow.symm ▸ hearly) later
    · exact ((h.after e).afterAll later).told
    · exact absurd hearly (Nat.not_lt.2 hdue)
  · rintro waited late later rfl hnone hdue
    rw [afterAll_append]
    obtain hsleeping | hover := h.afterAll hr hnone
    · exact ((hsleeping.run (hphase waited).2 hdue late).afterAll later).told
    · exact (hover.afterAll _).told
  · rintro waited e later rfl hnone he hdue huntold
    rw [afterAll_append]
    obtain hsleeping | hover := h.afterAll hr hnone
    · have hnumbered := (hphase waited).2
      obtain ⟨hending, hnow⟩ := hsleeping.ended hnumbered he
      exact hending.afterAll_iff (hnumbered.after e) (hnow.trans hdue) later
    · cases hover.told.symm.trans huntold

end TimerRun

end WorkerSlots
