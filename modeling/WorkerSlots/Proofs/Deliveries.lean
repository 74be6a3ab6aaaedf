import WorkerSlots.Proofs.TimerEvents

/-!
# Tasks and registrations

A table does not look at the tasks of its timer service. Whether a timeout is still to be delivered is noted with
the registration, and a delivery that comes from no registration any more is one of the past.

* `Tracked` : the registrations whose expiry is still to be delivered are those whose task sleeps;
* `poll_cases` : what a task delivers is the expiry of a registration that is due, or it is of the past;
* `poll_of_deliver?` : and every registration that is due has a task that delivers its expiry;
* `deliveries_of_history` : this is so in every history.
-/

namespace WorkerSlots.TimerRun

variable {K : Type} [Ord K] [DecidableEq K] [Std.TransOrd K] [Std.LawfulEqOrd K]

variable {r r' : TimerRun K} {e : TimerEvent K} {key : K} {ticket : Ticket} {task : TimerTask K}
  {reg : Registration}

/-- The task of each registration sleeps until the expiry has been delivered, and no other task does. -/
structure Tracked (r : TimerRun K) : Prop where
  asleep : ∀ {ticket task}, r.task? ticket = some task → task.cancelled = false →
    r.timers.cancelled = false ∧ r.registration? task.key = some ⟨ticket, task.deadline, false⟩
  registered : ∀ {key reg}, r.timers.cancelled = false → r.registration? key = some reg →
    r.task? reg.ticket = if reg.expired then none else some ⟨key, reg.ticket, reg.deadline, false⟩

omit [Std.TransOrd K] [Std.LawfulEqOrd K] in
theorem Tracked.new : (TimerRun.new : TimerRun K).Tracked := ⟨nofun, nofun⟩

omit [Std.TransOrd K] [Std.LawfulEqOrd K] in
/-- Where all tasks are to give up, nothing may be registered that is still to be delivered. -/
theorem Tracked.of_halted (hended : ∀ {ticket task}, r.task? ticket = some task → task.cancelled = true)
    (hempty : r.timers.cancelled = false → ∀ key, r.registration? key = none) : r.Tracked := by
  refine ⟨fun htask hlive => ?_, fun {key reg} hrunning hreg => ?_⟩
  · rw [hended htask] at hlive
    cases hlive
  · rw [hempty hrunning key] at hreg
    cases hreg

omit [Ord K] [DecidableEq K] [Std.TransOrd K] [Std.LawfulEqOrd K] in
/-- The tasks of a service that is halted are to give up. -/
theorem cancelled_of_find?_cancel {tasks : List (TimerTask K)}
    (h : (tasks.map (·.cancel)).find? (·.ticket = ticket) = some task) : task.cancelled = true := by
  rw [TimerTask.find?_cancel] at h
  obtain ⟨old, -, rfl⟩ := Option.map_eq_some_iff.1 h
  rfl

omit [Std.TransOrd K] [Std.LawfulEqOrd K] in
theorem Tracked.unregister (h : r.Tracked) (hr : r.Numbered) (other : K) : (r.unregister other).Tracked := by
  refine ⟨fun {ticket task} htask hlive => ?_, fun {key reg} hrunning hreg => ?_⟩
  · rw [task?_unregister] at htask
    obtain ⟨old, hold, rfl⟩ := Option.map_eq_some_iff.1 htask
    by_cases hholds : (r.registration? other).any (·.ticket = ticket) = true
    · rw [if_pos hholds] at hlive
      cases hlive
    · rw [if_neg hholds] at hlive ⊢
      obtain ⟨hrunning, hreg⟩ := h.asleep hold hlive
      refine ⟨hrunning, ?_⟩
      rw [registration?_unregister, if_neg, hreg]
      rintro rfl
      rw [hreg] at hholds
      exact hholds (decide_eq_true rfl)
  · rw [registration?_unregister] at hreg
    split at hreg
    · cases hreg
    · rename_i hkey
      have hother : ¬ (r.registration? other).any (·.ticket = reg.ticket) = true := by
        intro hholds
        obtain ⟨reg', hreg', hticket⟩ := (Option.any_eq_true _ _).1 hholds
        exact hkey (hr.unique hreg hreg' (Eq.symm (of_decide_eq_true hticket)))
      rw [task?_unregister, h.registered hrunning hreg]
      cases reg.expired with
      | true => rfl
      | false => exact congrArg some (if_neg hother)

theorem Tracked.record (h : r.Tracked) (hr : r.Numbered) (hrunning : r.timers.isRunning = true) (other : K)
    (delay : UInt64) : (r.record other delay).Tracked := by
  have hrest := h.unregister hr other
  have hcancelled : r.timers.cancelled = false := (Timers.isRunning_iff.1 hrunning).2
  have hunissued := r.not_hasIssued_fresh delay
  refine ⟨fun {ticket task} htask hlive => ⟨hcancelled, ?_⟩, fun {key reg} _ hreg => ?_⟩
  · rw [task?_record] at htask
    rw [registration?_record]
    obtain hold | ⟨-, hnew⟩ := Option.or_eq_some_iff.1 htask
    · obtain ⟨-, hreg⟩ := hrest.asleep hold hlive
      rw [registration?_unregister] at hreg
      split at hreg
      · cases hreg
      · rename_i hkey
        rw [if_neg hkey, hreg]
    · split at hnew
      · rename_i hticket
        obtain rfl := Option.some.inj hnew
        rw [← hticket]
        exact if_pos rfl
      · cases hnew
  · rw [task?_record]
    rw [registration?_record] at hreg
    split at hreg
    · rename_i hkey
      obtain rfl := Option.some.inj hreg
      have hnone : (r.unregister other).task? (r.fresh delay).ticket = none := by
        rw [task?_unregister, task?_eq_none_iff.2, Option.map_none]
        exact fun task htask hticket => hunissued (hticket ▸ hr.tasks task htask)
      rw [hnone, if_pos rfl, hkey]
      rfl
    · rename_i hkey
      have hfresh : (r.fresh delay).ticket ≠ reg.ticket := by
        intro hticket
        exact hunissued (hticket ▸ hr.registered hreg)
      have hold : (r.unregister other).registration? key = some reg := by
        rw [registration?_unregister, if_neg hkey, hreg]
      rw [if_neg hfresh, Option.or_none, hrest.registered hcancelled hold]

omit [Std.TransOrd K] in
theorem Tracked.expire (h : r.Tracked) (task : TimerTask K) : (r.expire task).Tracked := by
  have htask? : ∀ ticket, (r.expire task).task? ticket = if ticket = task.ticket then none else r.task? ticket :=
    fun ticket => r.task?_drop ticket task.ticket
  refine ⟨fun {ticket other} hother hlive => ?_, fun {key reg} hrunning hreg => ?_⟩
  · rw [htask?] at hother
    split at hother
    · cases hother
    · rename_i hticket
      obtain ⟨hrunning, hreg⟩ := h.asleep hother hlive
      refine ⟨hrunning, ?_⟩
      rw [registration?_expire, hreg, Option.map_some, if_neg hticket]
  · rw [registration?_expire] at hreg
    obtain ⟨old, hold, rfl⟩ := Option.map_eq_some_iff.1 hreg
    rw [htask?]
    by_cases hticket : old.ticket = task.ticket
    · rw [if_pos hticket]
      exact if_pos hticket
    · rw [if_neg hticket, if_neg hticket, h.registered hrunning hold]

omit [Std.TransOrd K] [Std.LawfulEqOrd K] in
/-- A task that is to give up is that of no registration. -/
theorem Tracked.ticket_ne (h : r.Tracked) (htask : r.task? task.ticket = some task) (hended : task.cancelled = true)
    (hrunning : r.timers.cancelled = false) (hreg : r.registration? key = some reg) : reg.ticket ≠ task.ticket := by
  intro hticket
  have hsame := h.registered hrunning hreg
  rw [hticket, htask] at hsame
  split at hsame
  · cases hsame
  · rw [Option.some.inj hsame] at hended
    cases hended

omit [Std.TransOrd K] [Std.LawfulEqOrd K] in
theorem Tracked.drop (h : r.Tracked) (htask : r.task? task.ticket = some task) (hended : task.cancelled = true) :
    (r.drop task.ticket).Tracked := by
  refine ⟨fun {ticket other} hother hlive => ?_, fun {key reg} hrunning hreg => ?_⟩
  · rw [task?_drop] at hother
    split at hother
    · cases hother
    · exact h.asleep hother hlive
  · rw [task?_drop, if_neg (h.ticket_ne htask hended hrunning hreg)]
    exact h.registered hrunning hreg

theorem Tracked.after (h : r.Tracked) (hr : r.Numbered) (e : TimerEvent K) : (r.after e).Tracked := by
  have hdoes := r.after_does e
  generalize r.after e = r' at hdoes
  cases hdoes with
  | start | notStart | notRegister | sleep | tick | notTick => exact ⟨h.asleep, h.registered⟩
  | stop | cancel => exact .of_halted (fun htask => cancelled_of_find?_cancel htask) nofun
  | replace => exact .of_halted (fun htask => cancelled_of_find?_cancel htask) fun _ _ => rfl
  | register hrunning => exact h.record hr hrunning _ _
  | unregister => exact h.unregister hr _
  | expire => exact h.expire _
  | giveUp htask hended => exact h.drop htask hended
  | straggle htask hended =>
    have hdropped := h.drop htask hended
    exact ⟨hdropped.asleep, hdropped.registered⟩

theorem tracked_afterNew (history : List (TimerEvent K)) : (new.afterAll history).Tracked :=
  (afterAll_keeps (P := fun r : TimerRun K => r.Tracked ∧ r.Numbered)
    (fun _ e h => ⟨h.1.after h.2 e, h.2.after e⟩) ⟨.new, .new⟩ history).1

/-! ## What a table sees of it -/

theorem deliver?_eq_some_iff {timers : Timers K} : r.timers.deliver? r.now key = some (ticket, timers) ↔
    ∃ reg, r.registration? key = some reg ∧
      (r.timers.cancelled = false ∧ reg.expired = false ∧ reg.deadline ≤ r.now) ∧ reg.ticket = ticket ∧
      timers = { r.timers with
        registrations := r.timers.registrations.insert key { reg with expired := true } } := by
  constructor
  · intro h
    unfold Timers.deliver? at h
    split at h
    · rename_i reg hreg
      split at h
      · rename_i hdue
        obtain ⟨rfl, rfl⟩ := Prod.mk.inj (Option.some.inj h)
        exact ⟨reg, hreg, hdue, rfl, rfl⟩
      · cases h
    · cases h
  · rintro ⟨reg, hreg, hdue, rfl, rfl⟩
    have hreg : r.timers.registrations.get? key = some reg := hreg
    unfold Timers.deliver?
    rw [hreg]
    exact if_pos hdue

/-- Noting an expiry by its ticket changes the registration of its key. -/
theorem noteExpiry_eq (hr : r.Numbered) (hreg : r.registration? key = some reg) :
    r.timers.noteExpiry reg.ticket = { r.timers with
      registrations := r.timers.registrations.insert key { reg with expired := true } } := by
  have hsame : (r.timers.noteExpiry reg.ticket).registrations =
      r.timers.registrations.insert key { reg with expired := true } := by
    refine SortedMap.ext_get? fun other => ?_
    unfold Timers.noteExpiry
    rw [SortedMap.get?_map, SortedMap.get?_insert]
    split
    · rename_i hkey
      have hreg' : r.timers.registrations.get? other = some reg := hkey ▸ hreg
      rw [hreg', Option.map_some, if_pos rfl]
    · rename_i hkey
      cases hother : r.timers.registrations.get? other with
      | none => rfl
      | some reg' => rw [Option.map_some, if_neg fun hticket => hkey (hr.unique hother hreg hticket)]
  exact congrArg (fun m => { r.timers with registrations := m }) hsame

omit [Std.TransOrd K] in
/-- A task that is to give up is of the past. -/
theorem Tracked.isPast (h : r.Tracked) (hr : r.Numbered) (htask : r.task? task.ticket = some task)
    (hended : task.cancelled = true) :
    task.ticket.service < r.timers.service ∨ r.timers.isPast task.ticket = true := by
  obtain hservice | ⟨hservice, hnumber⟩ := hr.tasks task (mem_of_task? htask).1
  · exact .inl hservice
  · refine .inr ?_
    unfold Timers.isPast
    rw [decide_eq_true hservice, decide_eq_true hnumber]
    cases hcancelled : r.timers.cancelled with
    | true => rfl
    | false =>
      refine List.all_eq_true.2 fun reg hreg => decide_eq_true ?_
      obtain ⟨key, hkey⟩ := SortedMap.mem_values_iff.1 hreg
      exact h.ticket_ne htask hended hcancelled hkey

/-- A task that is run delivers nothing, or the expiry of a registration that is due, or one of the past. -/
theorem poll_cases (h : r.Tracked) (hr : r.Numbered) (ticket : Ticket) (late : Bool) :
    (r.poll ticket late).timers = r.timers ∧ (r.poll ticket late).delivered = r.delivered ∨
    ∃ key, (r.poll ticket late).delivered = r.delivered ++ [⟨r.now, key, ticket⟩] ∧
      (r.timers.deliver? r.now key = some (ticket, (r.poll ticket late).timers) ∨
        (r.poll ticket late).timers = r.timers ∧
          (ticket.service < r.timers.service ∨ r.timers.isPast ticket = true)) := by
  have hdoes := r.poll_does ticket late
  generalize r.poll ticket late = r' at hdoes
  cases hdoes with
  | sleep | giveUp => exact .inl ⟨rfl, rfl⟩
  | @expire late task htask hlive hdue =>
    obtain ⟨hrunning, hreg⟩ := h.asleep htask hlive
    refine .inr ⟨task.key, rfl, .inl (deliver?_eq_some_iff.2 ⟨_, hreg, ⟨hrunning, rfl, hdue⟩, rfl, ?_⟩)⟩
    exact noteExpiry_eq hr hreg
  | @straggle task htask hended => exact .inr ⟨task.key, rfl, .inr ⟨rfl, h.isPast hr htask hended⟩⟩

/-- Every registration that is due has a task that delivers its expiry. -/
theorem poll_of_deliver? {timers : Timers K} (h : r.Tracked) (hr : r.Numbered)
    (hdeliver : r.timers.deliver? r.now key = some (ticket, timers)) (late : Bool) :
    (r.poll ticket late).timers = timers ∧
      (r.poll ticket late).delivered = r.delivered ++ [⟨r.now, key, ticket⟩] := by
  obtain ⟨reg, hreg, ⟨hrunning, hexpired, hdue⟩, rfl, rfl⟩ := deliver?_eq_some_iff.1 hdeliver
  have htask := h.registered hrunning hreg
  rw [if_neg (by rw [hexpired]; exact Bool.false_ne_true)] at htask
  have hpoll : r.poll reg.ticket late = r.expire ⟨key, reg.ticket, reg.deadline, false⟩ := by
    unfold poll
    rw [htask]
    dsimp only
    rw [decide_eq_true hdue]
    rfl
  rw [hpoll]
  exact ⟨noteExpiry_eq hr hreg, rfl⟩

/-- In every history, what comes of a task that is run is nothing, the expiry of a registration that is due, or a
delivery of the past; and the expiry of a registration that is due comes of its task. -/
theorem deliveries_of_history (history : List (TimerEvent K)) (ticket : Ticket) (late : Bool) :
    let r := (new : TimerRun K).afterAll history
    let r' := r.poll ticket late
    (r'.timers = r.timers ∧ r'.delivered = r.delivered ∨
      ∃ key, r'.delivered = r.delivered ++ [⟨r.now, key, ticket⟩] ∧
        (r.timers.deliver? r.now key = some (ticket, r'.timers) ∨
          r'.timers = r.timers ∧ (ticket.service < r.timers.service ∨ r.timers.isPast ticket = true))) ∧
    ∀ key timers, r.timers.deliver? r.now key = some (ticket, timers) →
      r'.timers = timers ∧ r'.delivered = r.delivered ++ [⟨r.now, key, ticket⟩] := by
  intro r r'
  have htracked : r.Tracked := tracked_afterNew history
  have hnumbered : r.Numbered := .afterNew history
  exact ⟨poll_cases htracked hnumbered ticket late,
    fun key timers hdeliver => poll_of_deliver? htracked hnumbered hdeliver late⟩

end WorkerSlots.TimerRun
