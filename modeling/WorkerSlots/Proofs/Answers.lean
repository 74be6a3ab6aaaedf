import Mathlib.Data.List.Infix
import WorkerSlots.Proofs.Callers

/-!
# What callers are told

* `Faithful` : what holds of a supervisor and its callers in every run. The commands that got in are carried out
  in this order, and the answers say which of them were (`Faithful.after`, `faithful_afterAll`);
* `Faithful.reply?_of_served`, `Faithful.reply?_of_unserved` : what a caller is told, by the commands that were
  carried out;
* `Faithful.exists_reply` : everybody is told something before the supervisor and its callers are at rest;
* `Faithful.executions_of_stopped` : nothing is carried out once the supervisor has stopped.
-/

namespace WorkerSlots

/-! ## Lists -/

theorem getElem?_append_of_some {β : Type} {l : List β} {i : Nat} {x : β} (h : l[i]? = some x) (l' : List β) :
    (l ++ l')[i]? = some x := by
  rw [List.getElem?_append_left (List.getElem?_eq_some_iff.1 h).1]
  exact h

theorem lookup_map_const {β : Type} (l : List Nat) (v : β) (n : Nat) :
    (l.map fun k => (k, v)).lookup n = if n ∈ l then some v else none := by
  induction l with
  | nil => rfl
  | cons k l ih =>
    rw [List.map_cons, List.lookup_cons, ih]
    by_cases hk : n = k
    · simp [hk]
    · rw [beq_false_of_ne hk]
      simp [hk]

namespace Callers

variable {α : Type} {s : Callers α} {commands : List (Command α)} {log : List (Execution α)} {caller n : Nat}
  {command : Command α} {first : Call α} {inbox : List (Call α)}

/-! ## Supervisors and callers -/

/-- A supervisor and its callers, who have sent some commands of which some were carried out. Each caller's command
got in, waits for room, or was turned away; those that got in are carried out one after the other, and the rest of
them is dropped when the supervisor stops. -/
structure Faithful (s : Callers α) (commands : List (Command α)) (log : List (Execution α)) : Prop where
  count : commands.length = s.count
  everybody : (s.accepted ++ s.waiting.map Prod.fst ++ s.turnedAway).Perm (List.range s.count)
  waiting : ∀ x ∈ s.waiting, commands[x.1]? = some x.2
  calls : s.supervisor.calls = s.accepted.length
  room : s.supervisor.inbox.length ≤ inboxRoom
  numbers : s.supervisor.phase ≠ .stopped →
    s.supervisor.inbox.map Call.number = List.range' log.length s.supervisor.inbox.length
  pending : s.supervisor.phase ≠ .stopped → log.length + s.supervisor.inbox.length = s.accepted.length
  inbox : ∀ call ∈ s.supervisor.inbox, ∃ caller, s.accepted[call.number]? = some caller ∧
    commands[caller]? = some call.command
  order : log.map Execution.caller <+: s.accepted
  own : ∀ x ∈ log, commands[x.caller]? = some x.command
  answered : ∀ {n x}, log[n]? = some x → s.supervisor.answers.lookup n = some (.carriedOut x.result)
  dropped : ∀ {n}, log.length ≤ n → s.supervisor.answers.lookup n =
    if s.supervisor.phase = .stopped ∧ n < s.accepted.length then some .stopped else none
  goes : s.supervisor.phase ≠ .stopped → s.turnedAway = []
  stopped : s.supervisor.phase = .stopped → s.waiting = [] ∧ s.supervisor.inbox = []

theorem Faithful.new (run : TableRun) : (Callers.new run : Callers α).Faithful [] [] := by
  have hnobody : ∀ x ∈ ([] : List (Execution α)), ([] : List (Command α))[x.caller]? = some x.command :=
    fun x hx => absurd hx List.not_mem_nil
  exact ⟨rfl, .refl _, nofun, rfl, Nat.zero_le _, fun _ => rfl, fun _ => rfl, nofun, List.nil_prefix, hnobody, nofun,
    fun _ => rfl, fun _ => rfl, nofun⟩

namespace Faithful

theorem nodup (h : s.Faithful commands log) : (s.accepted ++ s.waiting.map Prod.fst ++ s.turnedAway).Nodup :=
  h.everybody.nodup_iff.2 List.nodup_range

theorem nodup_accepted (h : s.Faithful commands log) : s.accepted.Nodup :=
  (List.nodup_append.1 (List.nodup_append.1 h.nodup).1).1

/-- The calls that wait have no answers. -/
theorem lookup_pending (h : s.Faithful commands log) (hphase : s.supervisor.phase ≠ .stopped)
    (hn : log.length ≤ n) : s.supervisor.answers.lookup n = none := by
  rw [h.dropped hn, if_neg fun hstopped => hphase hstopped.1]

/-- The supervisor does something that leaves the calls alone. -/
theorem same (h : s.Faithful commands log) {supervisor : Supervisor α} (hsame : s.supervisor.SameCalls supervisor) :
    Faithful { s with supervisor } commands log := by
  obtain ⟨hinbox, hanswers, hcalls, hstopped⟩ := hsame
  refine ⟨h.count, h.everybody, h.waiting, ?_, ?_, ?_, ?_, ?_, h.order, h.own, ?_, ?_, ?_, ?_⟩
  · exact hcalls.trans h.calls
  all_goals dsimp only
  all_goals simp only [hinbox, hanswers, hstopped, ne_eq]
  · exact h.room
  · exact h.numbers
  · exact h.pending
  · exact h.inbox
  · exact h.answered
  · exact h.dropped
  · exact h.goes
  · exact h.stopped

theorem call (h : s.Faithful commands log) (command : Command α) :
    (s.call command).Faithful (commands ++ [command]) log := by
  have hcount : (commands ++ [command]).length = s.count + 1 := by
    simp [h.count]
  have hinbox : ∀ call ∈ s.supervisor.inbox, ∃ caller, s.accepted[call.number]? = some caller ∧
      (commands ++ [command])[caller]? = some call.command := by
    intro call hmem
    obtain ⟨caller, hcaller, hcommand⟩ := h.inbox call hmem
    exact ⟨caller, hcaller, getElem?_append_of_some hcommand _⟩
  have hown : ∀ x ∈ log, (commands ++ [command])[x.caller]? = some x.command :=
    fun x hx => getElem?_append_of_some (h.own x hx) _
  unfold Callers.call Supervisor.isStopped
  by_cases hphase : s.supervisor.phase = .stopped
  · simp only [hphase, decide_true, ↓reduceIte]
    refine ⟨hcount, ?_, fun x hx => ?_, h.calls, h.room, h.numbers, h.pending, hinbox, h.order, hown, h.answered,
      h.dropped, fun hgoes => absurd hphase hgoes, h.stopped⟩
    · show (s.accepted ++ s.waiting.map Prod.fst ++ (s.turnedAway ++ [s.count])).Perm (List.range (s.count + 1))
      rw [List.range_succ, ← List.append_assoc]
      exact h.everybody.append_right _
    · exact getElem?_append_of_some (h.waiting x hx) _
  · simp only [hphase, decide_false, Bool.false_eq_true, ↓reduceIte]
    have haway := h.goes hphase
    have heverybody := h.everybody
    refine ⟨hcount, ?_, fun x hx => ?_, h.calls, h.room, h.numbers, h.pending, hinbox, h.order, hown, h.answered,
      h.dropped, h.goes, fun hstopped => absurd hstopped hphase⟩
    · show (s.accepted ++ (s.waiting ++ [(s.count, command)]).map Prod.fst ++ s.turnedAway).Perm
        (List.range (s.count + 1))
      rw [haway, List.append_nil] at heverybody ⊢
      rw [List.range_succ, List.map_append, ← List.append_assoc]
      exact heverybody.append_right _
    · obtain hx | hx := List.mem_append.1 hx
      · exact getElem?_append_of_some (h.waiting x hx) _
      · obtain rfl := List.mem_singleton.1 hx
        show (commands ++ [command])[s.count]? = some command
        rw [← h.count]
        simp

/-- A command that waits gets in, if there is room. -/
theorem enter_eq (h : s.Faithful commands log) (hcaller : s.waiting.lookup caller = some command)
    (hroom : s.supervisor.inbox.length < inboxRoom) :
    s.supervisor.phase ≠ .stopped ∧ s.enter caller = { s with
      supervisor := { s.supervisor with
        calls := s.supervisor.calls + 1
        inbox := s.supervisor.inbox ++ [⟨s.supervisor.calls, command⟩] }
      waiting := s.waiting.filter fun x => x.1 ≠ caller
      accepted := s.accepted ++ [caller] } := by
  have hphase : s.supervisor.phase ≠ .stopped := by
    intro hstopped
    rw [(h.stopped hstopped).1] at hcaller
    cases hcaller
  have hpost : s.supervisor.after (.post command) = { s.supervisor with
      calls := s.supervisor.calls + 1
      inbox := s.supervisor.inbox ++ [⟨s.supervisor.calls, command⟩] } := by
    show s.supervisor.post command = _
    simp [Supervisor.post, Supervisor.isStopped, hphase]
  refine ⟨hphase, ?_⟩
  unfold enter
  simp only [hcaller, hroom, hpost, ↓reduceIte]

theorem mem_of_lookup (h : s.waiting.lookup caller = some command) : (caller, command) ∈ s.waiting := by
  obtain ⟨before, rest, heq, -⟩ := List.lookup_eq_some_iff.1 h
  rw [heq]
  exact List.mem_append_right _ List.mem_cons_self

/-- A caller leaves those that wait for those that got in. -/
theorem everybody_enter (h : s.Faithful commands log) (hmem : (caller, command) ∈ s.waiting) :
    (s.accepted ++ [caller] ++ (s.waiting.filter fun x => x.1 ≠ caller).map Prod.fst ++ s.turnedAway).Perm
      (List.range s.count) := by
  have hnodup : (s.waiting.map Prod.fst).Nodup := (List.nodup_append.1 (List.nodup_append.1 h.nodup).1).2.1
  have hleft : (s.waiting.filter fun x => x.1 ≠ caller).map Prod.fst = (s.waiting.map Prod.fst).erase caller := by
    rw [hnodup.erase_eq_filter, List.filter_map]
    congr 1
    refine List.filter_congr fun x _ => ?_
    by_cases hx : x.1 = caller <;> simp [hx]
  have hperm := List.perm_cons_erase (List.mem_map_of_mem (f := Prod.fst) hmem)
  refine List.Perm.trans (List.Perm.append_right _ ?_) h.everybody
  rw [hleft, List.append_assoc]
  exact hperm.symm.append_left _

theorem enter (h : s.Faithful commands log) (caller : Nat) : (s.enter caller).Faithful commands log := by
  obtain hkept | ⟨command, hcaller, hroom, -⟩ := s.enter_cases caller
  · rw [hkept]
    exact h
  · obtain ⟨hphase, heq⟩ := h.enter_eq hcaller hroom
    have hmem := mem_of_lookup hcaller
    have hpending := h.pending hphase
    have hcalls := h.calls
    rw [heq]
    refine ⟨h.count, ?_, fun x hx => h.waiting x (List.mem_filter.1 hx).1, ?_, ?_, fun _ => ?_, fun _ => ?_,
      fun call hcall => ?_, h.order.trans (List.prefix_append _ _), h.own, h.answered, fun hn => ?_, h.goes,
      fun hstopped => absurd hstopped hphase⟩
    · exact h.everybody_enter hmem
    · simp [hcalls]
    · simp only [List.length_append, List.length_singleton]
      omega
    · have hnumber : s.supervisor.calls = log.length + s.supervisor.inbox.length := by omega
      rw [List.map_append, h.numbers hphase, List.length_append]
      simp [List.range'_1_concat, hnumber]
    · simp only [List.length_append, List.length_singleton]
      omega
    · obtain hcall | hcall := List.mem_append.1 hcall
      · obtain ⟨other, hother, hcommand⟩ := h.inbox call hcall
        exact ⟨other, getElem?_append_of_some hother _, hcommand⟩
      · obtain rfl := List.mem_singleton.1 hcall
        refine ⟨caller, ?_, h.waiting _ hmem⟩
        simp [hcalls]
    · rw [if_neg fun hstopped => hphase hstopped.1]
      exact h.lookup_pending hphase hn

/-! ## Turns -/

/-- The first call that waits is that of the first caller whose command has not been carried out. -/
theorem first_call (h : s.Faithful commands log) (hphase : s.supervisor.phase ≠ .stopped)
    (hinbox : s.supervisor.inbox = first :: inbox) : first.number = log.length ∧
      inbox.map Call.number = List.range' (log.length + 1) inbox.length ∧
      ∃ caller, s.accepted[log.length]? = some caller ∧ commands[caller]? = some first.command := by
  have hnumbers := h.numbers hphase
  rw [hinbox, List.map_cons, List.length_cons, List.range'_succ] at hnumbers
  obtain ⟨hnumber, hrest⟩ := List.cons.inj hnumbers
  obtain ⟨caller, hcaller, hcommand⟩ := h.inbox first (hinbox ▸ List.mem_cons_self)
  rw [hnumber] at hcaller
  exact ⟨hnumber, hrest, caller, hcaller, hcommand⟩

theorem lookup_answer (h : s.Faithful commands log) (hphase : s.supervisor.phase ≠ .stopped)
    (answer : CallAnswer α) : (s.supervisor.answers ++ [(log.length, answer)]).lookup n =
      if n = log.length then some answer else s.supervisor.answers.lookup n := by
  rw [List.lookup_append]
  by_cases hn : n = log.length
  · subst hn
    rw [if_pos rfl, h.lookup_pending hphase (Nat.le_refl _)]
    simp
  · rw [if_neg hn, List.lookup_cons, beq_false_of_ne hn]
    simp

/-- The first call is carried out and answered. -/
theorem answer (h : s.Faithful commands log) (hphase : s.supervisor.phase ≠ .stopped)
    (hinbox : s.supervisor.inbox = first :: inbox) (hcaller : s.accepted[log.length]? = some caller)
    (hcommand : commands[caller]? = some first.command) :
    Faithful { s with supervisor := { s.supervisor with inbox }.answer first } commands
      (log ++ [⟨caller, first.command, s.supervisor.run⟩]) := by
  obtain ⟨hnumber, hrest, -⟩ := h.first_call hphase hinbox
  have hpending := h.pending hphase
  have hroom := h.room
  rw [hinbox, List.length_cons] at hpending hroom
  refine ⟨h.count, h.everybody, h.waiting, h.calls, ?_, fun _ => ?_, fun _ => ?_, fun call hcall => ?_, ?_, fun x hx => ?_,
    fun {n x} hn => ?_, fun {n} hn => ?_, h.goes, fun hstopped => absurd hstopped hphase⟩
  · show inbox.length ≤ inboxRoom
    omega
  · show inbox.map Call.number = _
    rw [hrest, List.length_append]
    rfl
  · show (log ++ _).length + inbox.length = s.accepted.length
    simp only [List.length_append, List.length_singleton]
    omega
  · exact h.inbox call (hinbox ▸ List.mem_cons_of_mem _ hcall)
  · rw [← List.length_map Execution.caller] at hcaller
    obtain ⟨hlt, rfl⟩ := List.getElem?_eq_some_iff.1 hcaller
    rw [List.map_append]
    exact List.concat_get_prefix h.order hlt
  · obtain hx | hx := List.mem_append.1 hx
    · exact h.own x hx
    · obtain rfl := List.mem_singleton.1 hx
      exact hcommand
  all_goals
    show (s.supervisor.answers ++ [(first.number, CallAnswer.carriedOut _)]).lookup n = _
    rw [hnumber, h.lookup_answer hphase]
  · -- the answer is the last one, or one of those before
    by_cases hlast : n = log.length
    · subst hlast
      rw [List.getElem?_append_right (Nat.le_refl _), Nat.sub_self] at hn
      obtain rfl := Option.some.inj hn
      rw [if_pos rfl]
      rfl
    · have hlt : n < log.length := by
        have hlength := (List.getElem?_eq_some_iff.1 hn).1
        simp only [List.length_append, List.length_singleton] at hlength
        omega
      rw [List.getElem?_append_left hlt] at hn
      rw [if_neg hlast, h.answered hn]
  · simp only [List.length_append, List.length_singleton] at hn
    rw [if_neg (by omega), h.lookup_pending hphase (by omega), if_neg fun hstopped => hphase hstopped.1]

/-- The supervisor stops. Those that wait for room are turned away, and the calls that wait are dropped. -/
theorem stop (h : s.Faithful commands log) (hphase : s.supervisor.phase ≠ .stopped) :
    Faithful { s with
      supervisor := s.supervisor.stop
      waiting := []
      turnedAway := s.turnedAway ++ s.waiting.map Prod.fst } commands log := by
  have hpending := h.pending hphase
  refine ⟨h.count, ?_, nofun, h.calls, Nat.zero_le _, fun hgoes => absurd rfl hgoes, fun hgoes => absurd rfl hgoes,
    nofun, h.order, h.own, fun {n x} hn => ?_, fun {n} hn => ?_, fun hgoes => absurd rfl hgoes,
    fun _ => ⟨rfl, rfl⟩⟩
  · show (s.accepted ++ [] ++ (s.turnedAway ++ s.waiting.map Prod.fst)).Perm _
    have heverybody := h.everybody
    rw [h.goes hphase, List.append_nil] at heverybody
    rw [h.goes hphase, List.append_nil, List.nil_append]
    exact heverybody
  all_goals
    show (s.supervisor.answers ++ s.supervisor.inbox.map fun x : Call α => (x.number, CallAnswer.stopped)).lookup n = _
    rw [List.lookup_append]
  · rw [h.answered hn]
    rfl
  · have hmap : (s.supervisor.inbox.map fun x : Call α => (x.number, (CallAnswer.stopped : CallAnswer α))) =
        (List.range' log.length s.supervisor.inbox.length).map fun k => (k, CallAnswer.stopped) := by
      rw [← h.numbers hphase, List.map_map]
      rfl
    rw [h.lookup_pending hphase hn, hmap, lookup_map_const, Option.none_or]
    refine if_congr ?_ rfl rfl
    rw [List.mem_range'_1]
    constructor
    · rintro ⟨-, hlt⟩
      refine ⟨rfl, ?_⟩
      show n < s.accepted.length
      omega
    · rintro ⟨-, hlt⟩
      have hlt : n < s.accepted.length := hlt
      omega

theorem executes?_turn (h : s.Faithful commands log) (hphase : s.supervisor.phase ≠ .stopped)
    (hinbox : s.supervisor.inbox = first :: inbox) (hdue : s.supervisor.due? = some first)
    (hcaller : s.accepted[log.length]? = some caller) :
    s.executes? .turn = some ⟨caller, first.command, s.supervisor.run⟩ := by
  unfold executes?
  rw [hdue, Option.bind_some, (h.first_call hphase hinbox).1, hcaller]
  rfl

theorem turn (h : s.Faithful commands log) :
    s.turn.Faithful commands (log ++ (s.executes? .turn).toList) := by
  have hturn := s.supervisor.after_turn_cases
  have hexecutes : s.supervisor.due? = none → s.executes? .turn = none := by
    intro hdue
    unfold executes?
    rw [hdue]
    rfl
  unfold Callers.turn Supervisor.isStopped
  generalize hdue : s.supervisor.due? = due, s.supervisor.after .turn = supervisor at hturn
  cases hturn with
  | @answer call inbox hphase hinbox =>
    obtain ⟨-, -, caller, hcaller, hcommand⟩ := h.first_call hphase hinbox
    have hgoes : ¬ ({ s.supervisor with inbox }.answer call).phase = .stopped := hphase
    rw [h.executes?_turn hphase hinbox hdue hcaller]
    simp only [hgoes, decide_false, Bool.false_eq_true, ↓reduceIte]
    exact h.answer hphase hinbox hcaller hcommand
  | same hsame =>
    rw [hexecutes hdue, Option.toList_none, List.append_nil]
    have hkept := h.same hsame
    by_cases hphase : supervisor.phase = .stopped
    · simp only [hphase, decide_true, ↓reduceIte]
      have hwaiting : s.waiting = [] := (hkept.stopped hphase).1
      rw [hwaiting, List.map_nil, List.append_nil, ← hwaiting]
      exact hkept
    · simp only [hphase, decide_false, Bool.false_eq_true, ↓reduceIte]
      exact hkept
  | stop hphase =>
    rw [hexecutes hdue, Option.toList_none, List.append_nil]
    exact h.stop hphase

/-- Whatever happens, a supervisor and its callers stay faithful. -/
theorem after (h : s.Faithful commands log) (e : CallersEvent α) :
    (s.after e).Faithful (commands ++ e.command?.toList) (log ++ (s.executes? e).toList) := by
  cases e with
  | call command =>
    rw [show s.executes? (.call command) = none from rfl, Option.toList_none, List.append_nil]
    exact h.call command
  | enter caller =>
    show (s.enter caller).Faithful (commands ++ []) (log ++ [])
    rw [List.append_nil, List.append_nil]
    exact h.enter caller
  | turn =>
    show s.turn.Faithful (commands ++ []) _
    rw [List.append_nil]
    exact h.turn
  | requestShutdown | happening happening =>
    show Faithful { s with supervisor := _ } (commands ++ []) (log ++ [])
    rw [List.append_nil, List.append_nil]
    exact h.same ⟨rfl, rfl, rfl, Iff.rfl⟩

end Faithful

theorem faithful_afterAll (run : TableRun) (events : List (CallersEvent α)) :
    ((Callers.new run).afterAll events).Faithful (sent events) ((Callers.new run).executions events) := by
  induction events using List.reverseRecOn with
  | nil => exact .new run
  | append_singleton events e ih =>
    rw [afterAll_concat, executions_concat, sent_append]
    have hsent : sent [e] = e.command?.toList := by
      unfold sent
      cases h : e.command? <;> simp [h]
    rw [hsent]
    exact ih.after e

/-! ## What callers are told -/

namespace Faithful

/-- The caller of a command that got in is told what its call is answered. -/
theorem reply?_of_accepted (h : s.Faithful commands log) (hcaller : s.accepted[n]? = some caller) :
    s.reply? caller = s.supervisor.answers.lookup n := by
  obtain ⟨hlt, heq⟩ := List.getElem?_eq_some_iff.1 hcaller
  have hmem : caller ∈ s.accepted := List.mem_of_getElem? hcaller
  have haway : caller ∉ s.turnedAway := fun haway =>
    (List.nodup_append.1 h.nodup).2.2 _ (List.mem_append_left _ hmem) _ haway rfl
  have hplace : s.accepted.idxOf caller = n := by
    subst heq
    exact h.nodup_accepted.idxOf_getElem n hlt
  unfold reply?
  rw [if_neg haway, if_pos hmem, hplace]
  rfl

/-- Every caller got in, waits for room, or was turned away. -/
theorem mem_of_lt (h : s.Faithful commands log) (hcaller : caller < s.count) :
    caller ∈ s.accepted ∨ caller ∈ s.waiting.map Prod.fst ∨ caller ∈ s.turnedAway := by
  have hmem := h.everybody.mem_iff.2 (List.mem_range.2 hcaller)
  rwa [List.mem_append, List.mem_append, or_assoc] at hmem

/-- The command that is carried out at some place is that of the caller which got in there. -/
theorem accepted_of_log (h : s.Faithful commands log) {x : Execution α} (hx : log[n]? = some x) :
    s.accepted[n]? = some x.caller := by
  obtain ⟨rest, heq⟩ := h.order
  rw [← heq]
  refine getElem?_append_of_some ?_ rest
  rw [List.getElem?_map, hx]
  rfl

/-- The caller of a command that was carried out is told of its result. -/
theorem reply?_of_served (h : s.Faithful commands log) {x : Execution α} (hx : x ∈ log) :
    s.reply? x.caller = some (.carriedOut x.result) := by
  obtain ⟨n, hn⟩ := List.mem_iff_getElem?.1 hx
  rw [h.reply?_of_accepted (h.accepted_of_log hn), h.answered hn]

/-- A caller whose command was not carried out waits until the supervisor has stopped. -/
theorem reply?_of_unserved (h : s.Faithful commands log) (hcaller : caller < s.count)
    (hunserved : ∀ x ∈ log, x.caller ≠ caller) :
    s.reply? caller = if s.supervisor.phase = .stopped then some .stopped else none := by
  obtain hmem | hmem | hmem := h.mem_of_lt hcaller
  · obtain ⟨n, hn⟩ := List.mem_iff_getElem?.1 hmem
    have hlog : log[n]? = none := by
      cases hx : log[n]? with
      | none => rfl
      | some x =>
        have hown := (h.accepted_of_log hx).symm.trans hn
        exact absurd (Option.some.inj hown) (hunserved x (List.mem_of_getElem? hx))
    rw [h.reply?_of_accepted hn, h.dropped (List.getElem?_eq_none_iff.1 hlog)]
    exact if_congr (and_iff_left (List.getElem?_eq_some_iff.1 hn).1) rfl rfl
  · have hphase : s.supervisor.phase ≠ .stopped := by
      intro hstopped
      rw [(h.stopped hstopped).1] at hmem
      cases hmem
    have hout : caller ∉ s.accepted := by
      intro haccepted
      exact (List.nodup_append.1 (List.nodup_append.1 h.nodup).1).2.2 _ haccepted _ hmem rfl
    unfold reply?
    rw [h.goes hphase, if_neg List.not_mem_nil, if_neg hout, if_neg hphase]
  · have hphase : s.supervisor.phase = .stopped := by
      by_contra hgoes
      rw [h.goes hgoes] at hmem
      cases hmem
    unfold reply?
    rw [if_pos hmem, if_pos hphase]

/-- Who has not called is told nothing. -/
theorem lt_of_reply? (h : s.Faithful commands log) {answer : CallAnswer α} (hreply : s.reply? caller = some answer) :
    caller < s.count := by
  refine List.mem_range.1 (h.everybody.mem_iff.1 ?_)
  unfold reply? at hreply
  split at hreply
  case isTrue haway => exact List.mem_append_right _ haway
  case isFalse =>
    split at hreply
    case isTrue haccepted => exact List.mem_append_left _ (List.mem_append_left _ haccepted)
    case isFalse => cases hreply

/-- A caller is told of a result if and only if its command was carried out with this result. -/
theorem reply?_eq_carriedOut_iff (h : s.Faithful commands log) {result : Except TableError α} :
    s.reply? caller = some (.carriedOut result) ↔ ∃ x ∈ log, x.caller = caller ∧ x.result = result := by
  constructor
  · intro hreply
    have hserved : ∃ x ∈ log, x.caller = caller := by
      by_contra hnone
      rw [h.reply?_of_unserved (h.lt_of_reply? hreply) fun x hx heq => hnone ⟨x, hx, heq⟩] at hreply
      split at hreply <;> cases hreply
    obtain ⟨x, hx, rfl⟩ := hserved
    rw [h.reply?_of_served hx] at hreply
    exact ⟨x, hx, rfl, CallAnswer.carriedOut.inj (Option.some.inj hreply)⟩
  · rintro ⟨x, hx, rfl, rfl⟩
    exact h.reply?_of_served hx

/-- A caller is told that its command will not be carried out if and only if the supervisor has stopped, and it was
not. -/
theorem reply?_eq_stopped_iff (h : s.Faithful commands log) : s.reply? caller = some .stopped ↔
    s.supervisor.phase = .stopped ∧ caller < s.count ∧ ∀ x ∈ log, x.caller ≠ caller := by
  constructor
  · intro hreply
    have hcaller := h.lt_of_reply? hreply
    have hunserved : ∀ x ∈ log, x.caller ≠ caller := by
      rintro x hx rfl
      rw [h.reply?_of_served hx] at hreply
      cases hreply
    refine ⟨?_, hcaller, hunserved⟩
    by_contra hphase
    rw [h.reply?_of_unserved hcaller hunserved, if_neg hphase] at hreply
    cases hreply
  · rintro ⟨hphase, hcaller, hunserved⟩
    rw [h.reply?_of_unserved hcaller hunserved, if_pos hphase]

/-- Whoever is left without an answer at rest has not called. -/
theorem exists_reply (h : s.Faithful commands log) (hrest : s.AtRest) (hcaller : caller < s.count) :
    ∃ answer, s.reply? caller = some answer := by
  by_cases hserved : ∃ x ∈ log, x.caller = caller
  · obtain ⟨x, hx, hcaller⟩ := hserved
    exact ⟨_, h.reply?_eq_carriedOut_iff.2 ⟨x, hx, hcaller, rfl⟩⟩
  · have hunserved : ∀ x ∈ log, x.caller ≠ caller := fun x hx heq => hserved ⟨x, hx, heq⟩
    refine ⟨.stopped, h.reply?_eq_stopped_iff.2 ⟨?_, hcaller, hunserved⟩⟩
    by_contra hphase
    obtain hstopped | ⟨-, hinbox⟩ := Supervisor.rest_of_turn?_eq_none hrest.turn
    · exact hphase hstopped
    · -- nothing waits, so that all that got in was carried out
      have hpending := h.pending hphase
      rw [hinbox, List.length_nil, Nat.add_zero] at hpending
      obtain hmem | hmem | hmem := h.mem_of_lt hcaller
      · have hall : log.map Execution.caller = s.accepted :=
          h.order.eq_of_length (by rw [List.length_map, hpending])
        rw [← hall, List.mem_map] at hmem
        obtain ⟨x, hx, heq⟩ := hmem
        exact hunserved x hx heq
      · rw [hrest.waiting] at hmem
        cases hmem
      · rw [h.goes hphase] at hmem
        cases hmem

/-! ## What happens once the supervisor has stopped -/

/-- A supervisor that has stopped carries nothing out. -/
theorem executes?_of_stopped (hphase : s.supervisor.phase = .stopped) (e : CallersEvent α) :
    s.executes? e = none := by
  cases e with
  | turn =>
    unfold executes? Supervisor.due?
    rw [hphase]
    rfl
  | call | enter | requestShutdown | happening => rfl

theorem stopped_after (h : s.Faithful commands log) (hphase : s.supervisor.phase = .stopped) (e : CallersEvent α) :
    (s.after e).supervisor.phase = .stopped := by
  cases e with
  | call command =>
    show (s.call command).supervisor.phase = _
    rw [call_supervisor]
    exact hphase
  | enter caller =>
    show (s.enter caller).supervisor.phase = _
    unfold Callers.enter
    rw [(h.stopped hphase).1]
    exact hphase
  | turn =>
    show s.turn.supervisor.phase = _
    rw [turn_supervisor, Supervisor.after_turn_stopped hphase]
    exact hphase
  | requestShutdown | happening => exact hphase

theorem executions_of_stopped (h : s.Faithful commands log) (hphase : s.supervisor.phase = .stopped)
    (more : List (CallersEvent α)) : s.executions more = [] ∧ (s.afterAll more).supervisor.phase = .stopped := by
  induction more generalizing s commands log with
  | nil => exact ⟨rfl, hphase⟩
  | cons e rest ih =>
    obtain ⟨hnone, hstopped⟩ := ih (h.after e) (h.stopped_after hphase e)
    unfold executions
    rw [executes?_of_stopped hphase e, hnone]
    exact ⟨rfl, hstopped⟩

end Faithful

end Callers

end WorkerSlots
