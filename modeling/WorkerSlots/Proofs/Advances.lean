import WorkerSlots.Proofs.TimerEvents

/-!
# Timer services as time passes

* `AtRest` : all tasks sleep, and go on sleeping now;
* `tasks_poll`, `tasks_settle` : who is left when one task or every task has been run;
* `Comes` : what a service gets to by itself, without its owner;
* `comes_advance` : moving the clock is a sequence of single events, after which the service is at rest.
-/

namespace WorkerSlots

/-- The task sleeps, and goes on sleeping at a time. -/
def TimerTask.Asleep {K : Type} (task : TimerTask K) (now : Nat) : Prop :=
  task.cancelled = false ∧ now < task.deadline

instance {K : Type} (task : TimerTask K) (now : Nat) : Decidable (task.Asleep now) :=
  inferInstanceAs (Decidable (_ ∧ _))

namespace TimerRun

variable {K : Type} [Ord K] [DecidableEq K] [Std.TransOrd K] [Std.LawfulEqOrd K]

/-- No task has anything to do now. -/
def AtRest (r : TimerRun K) : Prop := ∀ task ∈ r.tasks, task.Asleep r.now

variable {r r' r'' : TimerRun K}

/-! ## Running tasks -/

theorem tasks_poll (hr : r.Numbered) (ticket : Ticket) : (r.poll ticket false).tasks =
    r.tasks.filter fun task => task.ticket ≠ ticket ∨ task.Asleep r.now := by
  have hdoes := r.poll_does ticket false
  have hended : ∀ {task}, r.task? task.ticket = some task → ¬ task.Asleep r.now →
      (r.drop task.ticket).tasks = r.tasks.filter fun other => other.ticket ≠ task.ticket ∨ other.Asleep r.now := by
    intro task htask hawake
    refine List.filter_congr fun other hother => ?_
    refine decide_eq_decide.2 (or_iff_left_of_imp fun hasleep hticket => ?_).symm
    have hsame := (task?_eq_some_iff hr.distinct).2 ⟨hother, hticket⟩
    rw [htask] at hsame
    exact hawake (Option.some.inj hsame ▸ hasleep)
  generalize r.poll ticket false = r' at hdoes
  cases hdoes with
  | sleep hasleep =>
    refine (List.filter_eq_self.2 fun task htask => decide_eq_true ?_).symm
    by_cases hticket : task.ticket = ticket
    · exact .inr (hasleep task ((task?_eq_some_iff hr.distinct).2 ⟨htask, hticket⟩))
    · exact .inl hticket
  | expire htask hlive hdue => exact hended htask fun hasleep => Nat.not_lt.2 hdue hasleep.2
  | giveUp htask hcancelled =>
    refine hended htask fun hasleep => ?_
    rw [hasleep.1] at hcancelled
    cases hcancelled

theorem now_poll (r : TimerRun K) (ticket : Ticket) (late : Bool) : (r.poll ticket late).now = r.now := by
  have hdoes := r.poll_does ticket late
  generalize r.poll ticket late = r' at hdoes
  cases hdoes <;> rfl

/-- What is left when the tasks of some tickets have been run. -/
theorem afterAll_polls (hr : r.Numbered) (tickets : List Ticket) :
    (r.afterAll (tickets.map (.poll · false))).now = r.now ∧
      (r.afterAll (tickets.map (.poll · false))).tasks =
        r.tasks.filter fun task => task.ticket ∉ tickets ∨ task.Asleep r.now := by
  induction tickets generalizing r with
  | nil =>
    refine ⟨rfl, (List.filter_eq_self.2 fun task _ => ?_).symm⟩
    exact decide_eq_true (.inl List.not_mem_nil)
  | cons ticket rest ih =>
    obtain ⟨hnow, htasks⟩ := ih (hr.after (.poll ticket false))
    refine ⟨hnow.trans (r.now_poll ticket false), htasks.trans ?_⟩
    show (r.poll ticket false).tasks.filter _ = _
    rw [tasks_poll hr, List.filter_filter]
    refine List.filter_congr fun task _ => ?_
    have hsame : (r.after (.poll ticket false)).now = r.now := r.now_poll ticket false
    rw [hsame]
    by_cases hasleep : task.Asleep r.now <;> simp [hasleep, Bool.and_comm]

/-- Running every task is a sequence of events. -/
theorem settle_eq_afterAll (r : TimerRun K) :
    r.settle = r.afterAll ((r.tasks.map (·.ticket)).map (.poll · false)) := by
  unfold settle afterAll
  rw [List.map_map, List.foldl_map]
  rfl

theorem now_settle (hr : r.Numbered) : r.settle.now = r.now := by
  rw [settle_eq_afterAll]
  exact (afterAll_polls hr _).1

/-- Only those that sleep are left when every task has been run. -/
theorem tasks_settle (hr : r.Numbered) : r.settle.tasks = r.tasks.filter (·.Asleep r.now) := by
  rw [settle_eq_afterAll, (afterAll_polls hr _).2]
  refine List.filter_congr fun task htask => ?_
  exact decide_eq_decide.2 (or_iff_right (not_not_intro (List.mem_map_of_mem htask)))

theorem atRest_settle (hr : r.Numbered) : r.settle.AtRest := by
  intro task htask
  rw [tasks_settle hr] at htask
  rw [now_settle hr]
  exact of_decide_eq_true (List.mem_filter.1 htask).2

/-! ## Moving the clock -/

/-- The clock can be moved to a time at which no task has been woken before. -/
theorem moveTo_eq_after {time : Nat} (hnow : r.now ≤ time)
    (hwakes : ∀ task ∈ r.tasks, time ≤ task.wakesAt r.now) :
    Timed.moveTo time r = r.after (.tick (time - r.now)) := by
  have hmove : Timed.moveTo time r = { r with now := r.now + (time - r.now) } := by
    rw [Nat.add_sub_cancel' hnow]
    rfl
  show _ = if r.SleepsFor (time - r.now) then { r with now := r.now + (time - r.now) } else r
  split
  · exact hmove
  · rename_i hnot
    -- a task that is to give up does so now
    have hsame : time = r.now := by
      by_contra hne
      refine hnot fun task htask => ?_
      have hwake := hwakes task htask
      unfold TimerTask.wakesAt at hwake
      cases hcancelled : task.cancelled with
      | true =>
        rw [hcancelled, if_pos rfl] at hwake
        exact absurd (Nat.le_antisymm hwake hnow) hne
      | false =>
        rw [hcancelled] at hwake
        exact ⟨rfl, Nat.le_trans (Nat.le_of_eq (Nat.add_sub_cancel' hnow)) hwake⟩
    rw [hsame]
    rfl

/-- The service gets by itself to another state, at a time, with nothing left to do then. -/
def Comes (r : TimerRun K) (time : Nat) (r' : TimerRun K) : Prop :=
  ∃ steps, (∀ e ∈ steps, e.isInner = true) ∧ r' = r.afterAll steps ∧ r'.now = time ∧ r'.AtRest

theorem Comes.numbered {time : Nat} (h : r.Comes time r') (hr : r.Numbered) : r'.Numbered := by
  obtain ⟨steps, -, rfl, -⟩ := h
  exact afterAll_keeps (fun _ e hr => hr.after e) hr steps

theorem Comes.trans {early late : Nat} (h : r.Comes early r') (h' : r'.Comes late r'') : r.Comes late r'' := by
  obtain ⟨steps, hinner, rfl, -⟩ := h
  obtain ⟨steps', hinner', rfl, hnow, hrest⟩ := h'
  refine ⟨steps ++ steps', fun e he => ?_, (r.afterAll_append _ _).symm, hnow, hrest⟩
  rcases List.mem_append.1 he with he | he
  · exact hinner e he
  · exact hinner' e he

/-- One stop of the clock is a sequence of events. Those that sleep then are left. -/
theorem comes_wake (hr : r.Numbered) {time : Nat} (hnow : r.now ≤ time)
    (hwakes : ∀ task ∈ r.tasks, time ≤ task.wakesAt r.now) :
    r.Comes time (Timed.wake time r) ∧ (Timed.wake time r).tasks = r.tasks.filter (·.Asleep time) := by
  have hmoved := moveTo_eq_after hnow hwakes
  have hnumbered : (Timed.moveTo time r).Numbered := by
    rw [hmoved]
    exact hr.after _
  refine ⟨⟨.tick (time - r.now) :: ((r.tasks.map (·.ticket)).map (.poll · false)), ?_, ?_, ?_, ?_⟩, ?_⟩
  · intro e he
    rcases List.mem_cons.1 he with rfl | he
    · rfl
    · obtain ⟨ticket, -, rfl⟩ := List.mem_map.1 he
      rfl
  · exact (settle_eq_afterAll _).trans (congrArg (afterAll · _) hmoved)
  · exact now_settle hnumbered
  · exact atRest_settle hnumbered
  · exact tasks_settle hnumbered

/-- The clock stops whenever a task goes on, the earliest time first. -/
theorem comes_advanceTo (hr : r.Numbered) {limit fuel : Nat} (hlimit : r.now ≤ limit)
    (hfuel : r.tasks.length ≤ fuel) : r.Comes limit (Timed.advanceTo limit fuel r) := by
  induction fuel generalizing r with
  | zero =>
    refine (comes_wake hr hlimit ?_).1
    rw [List.eq_nil_of_length_eq_zero (Nat.le_zero.1 hfuel)]
    nofun
  | succ fuel ih =>
    unfold Timed.advanceTo
    cases hnext : Timed.next? r with
    | none =>
      refine (comes_wake hr hlimit ?_).1
      rw [List.map_eq_nil_iff.1 (List.min?_eq_none_iff.1 hnext)]
      nofun
    | some stop =>
      obtain ⟨hmem, hleast⟩ := List.min?_eq_some_iff.1 hnext
      obtain ⟨first, hfirst, hwake⟩ := List.mem_map.1 hmem
      have hwakes : ∀ task ∈ r.tasks, stop ≤ task.wakesAt r.now :=
        fun task htask => hleast _ (List.mem_map_of_mem htask)
      by_cases hstop : stop < limit
      · have hnow : r.now ≤ stop := by
          rw [← hwake]
          unfold TimerTask.wakesAt
          split
          · exact Nat.le_refl _
          · exact hr.early first hfirst
        obtain ⟨hcomes, htasks⟩ := comes_wake hr hnow hwakes
        -- the task that is woken first has ended after this stop
        have hfewer : (Timed.wake stop r).tasks.length < r.tasks.length := by
          rw [htasks]
          refine List.length_filter_lt_length_iff_exists.2 ⟨first, hfirst, ?_⟩
          rw [decide_eq_true_iff]
          rintro ⟨hlive, hlater⟩
          unfold TimerTask.wakesAt at hwake
          rw [hlive] at hwake
          exact Nat.lt_irrefl _ (hwake ▸ hlater)
        have hthen : (Timed.wake stop r).now ≤ limit := by
          obtain ⟨-, -, -, hthen, -⟩ := hcomes
          rw [hthen]
          exact Nat.le_of_lt hstop
        simp only [hstop, ↓reduceIte]
        exact hcomes.trans (ih (hcomes.numbered hr) hthen (by omega))
      · simp only [hstop, ↓reduceIte]
        exact (comes_wake hr hlimit fun task htask => Nat.le_trans (Nat.not_lt.1 hstop) (hwakes task htask)).1

/-- Moving the clock is a sequence of events, after which the service is at rest. -/
theorem comes_advance (hr : r.Numbered) (ms : UInt64) : r.Comes (r.now + ms.toNat) (Timed.advance ms r) :=
  comes_advanceTo hr (Nat.le_add_right _ _) (Nat.le_refl _)

end TimerRun

end WorkerSlots
