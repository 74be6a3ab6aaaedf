import WorkerSlots.Proofs.Commands

/-!
# Timeouts that come late

The timeout of a slot may be under way when the slot is claimed, and is delivered all the same. Its ticket tells
the supervisor that it is of the past, and the supervisor goes on as if it had not heard of it.

* `SlotTable.Ignores` : what a table asks for in vain, and `Supervisor.drain_of_ignored` : it is taken up before
  everything else, and nothing comes of it;
* `Supervisor.straggle`, `Agent.straggle` : some timeouts come late, one after the other;
* `Supervisor.Undisturbed` : a supervisor that is asked about nothing but timeouts, none of them valid;
* `Agent.heard`, `Agent.Resting.heard` : an agent at rest that has heard of such timeouts is at rest again, with
  the same table. Whatever is done next, the agent goes on from there (`settle_straggle`, `call_straggle`,
  `advance_straggle`).
-/

namespace WorkerSlots

open SlotTable

/-- Nothing comes of this when it is taken up: it is a timeout, and not a valid one. -/
def SlotTable.Ignores (t : SlotTable) (x : SlotAction) : Prop :=
  ∃ a ticket, x = .timeout a ticket ∧ t.isValidTimeout a ticket ≠ .ok true

/-- The action is about a timeout. -/
def SlotAction.IsTimeout (x : SlotAction) : Prop := ∃ a ticket, x = .timeout a ticket

/-- Where the table is not running any more, or nothing is registered, no timeout is valid. -/
theorem SlotAction.IsTimeout.ignored {x : SlotAction} (h : x.IsTimeout) {t : SlotTable}
    (hnone : t.state ≠ .running ∨ t.timers.registrations = .empty) : t.Ignores x := by
  obtain ⟨a, ticket, rfl⟩ := h
  refine ⟨a, ticket, rfl, fun hvalid => ?_⟩
  unfold isValidTimeout at hvalid
  split at hvalid
  · obtain ⟨hrunning, hregistered⟩ := Bool.and_eq_true_iff.1 (Except.ok.inj hvalid)
    obtain hstate | hempty := hnone
    · exact hstate (of_decide_eq_true hrunning)
    · unfold Timers.isValid at hregistered
      rw [hempty, Bool.and_eq_true_iff] at hregistered
      cases hregistered.2
  · cases hvalid

theorem TableRun.heed_of_ignored {r : TableRun} {x : SlotAction} (h : r.table.Ignores x) : r.heed x = r := by
  obtain ⟨a, ticket, rfl, hinvalid⟩ := h
  unfold TableRun.heed
  dsimp only
  split
  · rename_i hvalid
    exact absurd hvalid hinvalid
  · rfl

namespace Supervisor

variable {α : Type} {s : Supervisor α} {x : SlotAction}

/-- The supervisor without what the table asks for. -/
def unqueued (s : Supervisor α) : Supervisor α := { s with run := { s.run with queue := [] } }

/-- What is ignored is taken up, and nothing comes of it. -/
theorem turn?_of_ignored {queue : List SlotAction} (hqueue : s.run.queue = x :: queue)
    (hignored : s.run.table.Ignores x)
    (hphase : s.phase = .serving ∧ s.shutdownRequested = false ∨ s.phase = .closing)
    (hopen : s.phase = .closing → s.run.table.isClosed = false) :
    s.turn? = some { s with run := { s.run with queue } } := by
  have hserve : s.serve? = some { s with run := { s.run with queue } } := by
    have hheed := TableRun.heed_of_ignored (r := { s.run with queue }) hignored
    unfold serve?
    rw [hqueue]
    dsimp only
    rw [hheed]
  refine Eq.trans ?_ hserve
  obtain ⟨hserving, hunasked⟩ | hclosing := hphase
  · exact turn?_of_serving hserving hunasked
  · unfold Supervisor.turn?
    rw [hclosing]
    exact if_neg (Bool.eq_false_iff.1 (hopen hclosing))

/-- A supervisor that is asked only for what it ignores goes on as if it were asked for nothing. -/
theorem drain_of_ignored (hignored : ∀ x ∈ s.run.queue, s.run.table.Ignores x)
    (hphase : s.phase = .serving ∧ s.shutdownRequested = false ∨ s.phase = .closing) :
    s.drain = s.unqueued.drain := by
  generalize hqueue : s.run.queue = queue at hignored
  induction queue generalizing s with
  | nil =>
    have hsame : s.unqueued = s := by
      unfold unqueued
      rw [← hqueue]
    rw [hsame]
  | cons x queue ih =>
    by_cases hend : s.phase = .closing ∧ s.run.table.isClosed = true
    · -- the supervisor stops, and takes nothing up
      have hstop : ∀ s' : Supervisor α, s'.phase = .closing ∧ s'.run.table.isClosed = true →
          s'.turn? = some s'.stop := by
        rintro s' ⟨hclosing, hclosed⟩
        unfold Supervisor.turn?
        rw [hclosing]
        exact if_pos hclosed
      rw [drain_of_turn (hstop s hend), drain_of_turn (hstop s.unqueued hend)]
      rfl
    · have hopen : s.phase = .closing → s.run.table.isClosed = false :=
        fun hclosing => Bool.eq_false_iff.2 fun hclosed => hend ⟨hclosing, hclosed⟩
      rw [drain_of_turn (turn?_of_ignored hqueue (hignored x List.mem_cons_self) hphase hopen)]
      exact ih (s := { s with run := { s.run with queue } }) hphase rfl
        fun y hy => hignored y (List.mem_cons_of_mem x hy)

end Supervisor

/-- A table that is told of a late timeout asks its owner about it, or for nothing. -/
theorem TableRun.undergo_straggler (r : TableRun) (a : AllocationId) (ticket : Ticket) :
    ∃ actions asked, (∀ x ∈ actions, x.IsTimeout) ∧
      r.undergo (.straggler a ticket) = { r with queue := r.queue ++ actions, asked } := by
  have hactions : ∀ x ∈ (r.table.expireLate a ticket).actions, x.IsTimeout := by
    intro x hx
    unfold expireLate timeoutActions at hx
    split at hx
    · split at hx
      · exact ⟨a, ticket, List.mem_singleton.1 hx⟩
      · cases hx
    · cases hx
  have hsame : (r.table.expireLate a ticket).table = r.table ∧ (r.table.expireLate a ticket).failures = [] := by
    unfold expireLate
    split <;> exact ⟨rfl, rfl⟩
  refine ⟨if r.listening then (r.table.expireLate a ticket).actions else [],
    (r.undergo (.straggler a ticket)).asked, fun x hx => ?_, ?_⟩
  · split at hx
    · exact hactions x hx
    · cases hx
  · unfold TableRun.undergo TableRun.absorb
    dsimp only
    rw [hsame.1, hsame.2, List.append_nil]

namespace Supervisor

variable {α : Type} {s : Supervisor α} {command : Command α} {late : List (AllocationId × Ticket)}

/-- Some timeouts are delivered late, one after the other. -/
def straggle (s : Supervisor α) (late : List (AllocationId × Ticket)) : Supervisor α :=
  late.foldl (fun s x => s.after (.happening (.straggler x.1 x.2))) s

/-- The table asks for these timeouts, and is the same otherwise. -/
theorem straggle_eq (s : Supervisor α) (late : List (AllocationId × Ticket)) :
    ∃ queue asked, (∀ x ∈ queue, x.IsTimeout) ∧
      s.straggle late = { s with run := { s.run with queue := s.run.queue ++ queue, asked } } := by
  induction late generalizing s with
  | nil => exact ⟨[], s.run.asked, nofun, by rw [List.append_nil]; rfl⟩
  | cons x late ih =>
    obtain ⟨actions, asked', htimeouts', hfirst⟩ := s.run.undergo_straggler x.1 x.2
    obtain ⟨queue, asked, htimeouts, heq⟩ := ih (s.after (.happening (.straggler x.1 x.2)))
    refine ⟨actions ++ queue, asked, fun y hy => (List.mem_append.1 hy).elim (htimeouts' y) (htimeouts y), ?_⟩
    rw [← List.append_assoc]
    refine heq.trans ?_
    unfold Supervisor.after
    dsimp only
    rw [hfirst]

/-- A supervisor that serves a running table to which nothing happens by itself, and is asked about nothing but
timeouts, so that it has nothing to do but its calls. -/
structure Undisturbed (s : Supervisor α) : Prop where
  serving : s.phase = .serving
  unasked : s.shutdownRequested = false
  running : s.run.table.state = .running
  still : s.run.table.Still
  timeouts : ∀ x ∈ s.run.queue, x.IsTimeout

theorem Undisturbed.round (h : s.Undisturbed) : s.round = s.unqueued.round := by
  unfold Supervisor.round
  rw [Still.background_of_running h.still h.running,
    Still.background_of_running (r := s.unqueued.run) h.still h.running]
  exact drain_of_ignored (fun x hx => (h.timeouts x hx).ignored (.inr h.still.registrations))
    (.inl ⟨h.serving, h.unasked⟩)

theorem Undisturbed.round_post (h : s.Undisturbed) (command : Command α) :
    (s.post command).round = (s.unqueued.post command).round := by
  have hunstopped : s.phase ≠ .stopped := by
    rw [h.serving]
    nofun
  have hreceived : (s.received command).Undisturbed := ⟨h.serving, h.unasked, h.running, h.still, h.timeouts⟩
  rw [post_of_unstopped hunstopped, post_of_unstopped (s := s.unqueued) hunstopped]
  exact hreceived.round

theorem Undisturbed.moveTo (h : s.Undisturbed) (time : Nat) : (Timed.moveTo time s).Undisturbed :=
  ⟨h.serving, h.unasked, h.running, h.still, h.timeouts⟩

theorem Resting.unqueued (h : s.Resting) : s.unqueued = s := by
  unfold Supervisor.unqueued
  rw [← h.queue]

/-- A supervisor at rest that has heard of late timeouts is at rest again, with the same table. -/
theorem Resting.straggle (h : s.Resting) (late : List (AllocationId × Ticket)) :
    (s.straggle late).Undisturbed ∧ (s.straggle late).unqueued.Resting ∧
      (s.straggle late).run.table = s.run.table := by
  obtain ⟨queue, asked, htimeouts, heq⟩ := s.straggle_eq late
  rw [heq, h.queue]
  exact ⟨⟨h.serving, h.unasked, h.running, h.still, htimeouts⟩,
    ⟨h.serving, h.unasked, h.listening, rfl, h.inbox, h.running, h.still, h.numbered⟩, rfl⟩

end Supervisor

namespace Agent

variable {a : Agent} {late : List (AllocationId × Ticket)}

/-- Some timeouts of the agent's slots are delivered late. -/
def straggle (a : Agent) (late : List (AllocationId × Ticket)) : Agent :=
  { a with supervisor := a.supervisor.straggle late }

/-- The agent once its supervisor has heard of them. -/
def heard (a : Agent) (late : List (AllocationId × Ticket)) : Agent :=
  { a with supervisor := (a.supervisor.straggle late).unqueued }

theorem straggle_nil (a : Agent) : a.straggle [] = a := rfl

/-- What an agent does depends on the first round of its supervisor. -/
theorem settle_congr {a' : Agent} (hround : a.supervisor.round = a'.supervisor.round)
    (hunbound : a.unbound = a'.unbound) : a.settle = a'.settle := by
  have hsettle : a.supervisor.settle = a'.supervisor.settle := by
    unfold Supervisor.settle
    rw [hround]
  unfold Agent.settle
  dsimp only
  rw [hsettle, hunbound]

namespace Resting

theorem heard (h : a.Resting) (late : List (AllocationId × Ticket)) :
    (a.heard late).Resting ∧ (a.heard late).table = a.table := by
  obtain ⟨-, hrest, htable⟩ := h.supervisor.straggle late
  obtain ⟨queue, asked, -, heq⟩ := a.supervisor.straggle_eq late
  refine ⟨⟨hrest, ?_, h.unbound⟩, htable⟩
  show (a.supervisor.straggle late).run.failures = []
  rw [heq]
  exact h.failures

/-- Late timeouts leave the table of an agent at rest as it is, and the agent is at rest again. -/
theorem settle_straggle (h : a.Resting) (late : List (AllocationId × Ticket)) :
    (a.straggle late).settle.Resting ∧ (a.straggle late).settle.table = a.table := by
  obtain ⟨hundisturbed, -, -⟩ := h.supervisor.straggle late
  have hsame : (a.straggle late).settle = (a.heard late).settle := settle_congr hundisturbed.round rfl
  rw [hsame, (h.heard late).1.settle]
  exact h.heard late

/-- A command that is sent meanwhile is carried out as if no timeout had come late. -/
theorem call_straggle (h : a.Resting) (late : List (AllocationId × Ticket)) (command : Command AgentAnswer) :
    (a.straggle late).call command = (a.heard late).call command := by
  obtain ⟨hundisturbed, -, -⟩ := h.supervisor.straggle late
  have hsame : Agent.settle { a with supervisor := (a.supervisor.straggle late).post command } =
      Agent.settle { a with supervisor := (a.supervisor.straggle late).unqueued.post command } :=
    settle_congr (hundisturbed.round_post command) rfl
  unfold Agent.call Agent.straggle Agent.heard
  dsimp only
  rw [hsame]
  rfl

/-- Time passes as if none had. -/
theorem advance_straggle (h : a.Resting) (late : List (AllocationId × Ticket)) (ms : UInt64) :
    Timed.advance ms (a.straggle late) = Timed.advance ms (a.heard late) := by
  obtain ⟨hundisturbed, hrest, -⟩ := h.supervisor.straggle late
  rw [advance_of_still hrest.still, advance_of_still (a := a.heard late) hrest.still]
  exact settle_congr (hundisturbed.moveTo _).round rfl

end Resting

end Agent

end WorkerSlots
