import Mathlib.Data.List.Nodup
import WorkerSlots.Proofs.Bindings
import WorkerSlots.Proofs.Repeats
import WorkerSlots.Proofs.SlotTimeouts
import WorkerSlots.Proofs.Supervision

/-!
# Tasks that are told to fail

* `binds`, `accepts`, `askedBack?` : a task is bound to the slot of its allocation, an event binds it, and an
  event asks for a slot to be given back;
* `firstCause?`, `failuresDue` : what a task is to be told in a run. Each time that it is bound, this is the cause
  of the first request for its slot, if it is still bound then;
* `isExposed` : a request would tell the task, as it is the first one;
* `Sound.free_told`, `Sound.closeInOrder_told` : whom a request tells;
* `told_after`, `isExposed_after_of_accepted` and the like : what one event does to a task;
* `failures_afterAll` : what it is told in a run;
* `Granted.sealed_of_asked` : no task is bound to a slot after the first request for it;
* `ToldOnce`, `told_once_of_new` : all of this in every run.
-/

namespace WorkerSlots

open SlotTable TableRun

variable {t : SlotTable} {r start : TableRun} {now : Nat} {e : TableEvent} {task : Task} {a b : AllocationId}
  {s s' : TaskSlot} {cause : String} {order : List AllocationId} {history events : List TableEvent}

namespace SlotTable

/-! ## What is due to a task -/

/-- A task is bound to the slot of its allocation. -/
def binds (t : SlotTable) (task : Task) : Bool :=
  (t.slot? task.allocation).any fun s => s.tasks.get? task.execution = some task

/-- An event binds a task that is new to its slot. -/
def accepts (t : SlotTable) (task : Task) : TableEvent → Bool
  | .operation (.addTask x) => x = task && (t.addTask x).result.toOption = some true
  | _ => false

/-- The cause that is given with a request for the slot of an allocation, or for all slots. -/
def askedBack? (t : SlotTable) (a : AllocationId) : TableEvent → Option String
  | .operation (.free b cause) => if b = a then some cause else none
  | .operation .close => some closeCause
  | .closing order => if order.isPerm t.slots.keys then some closeCause else none
  | _ => none

end SlotTable

namespace TableRun

/-- The cause of the first request for the slot of a task, if the task is bound until then. -/
def firstCause? (r : TableRun) (task : Task) : List TableEvent → Option String
  | [] => none
  | e :: rest =>
    if r.table.binds task then
      (r.table.askedBack? task.allocation e).or ((r.after e).firstCause? task rest)
    else none

/-- All that a task is to be told in a run, the earliest first. -/
def failuresDue (r : TableRun) (task : Task) : List TableEvent → List TaskFailure
  | [] => []
  | e :: rest =>
    (if r.table.accepts task e then ((r.after e).firstCause? task rest).toList.map (⟨task, ·⟩) else []) ++
      (r.after e).failuresDue task rest

end TableRun

namespace SlotTable

theorem binds_iff : t.binds task = true ↔ t.Holds task.allocation task.execution task := by
  unfold binds Holds slot?
  rw [Option.any_eq_true]
  simp only [decide_eq_true_iff]

theorem accepts_iff : t.accepts task e = true ↔
    e = .operation (.addTask task) ∧ (t.addTask task).result = .ok true := by
  unfold accepts
  split
  · rename_i x
    rw [Bool.and_eq_true, decide_eq_true_iff, decide_eq_true_iff]
    constructor
    · rintro ⟨rfl, hok⟩
      refine ⟨rfl, ?_⟩
      cases hresult : (t.addTask x).result with
      | ok added =>
        rw [hresult] at hok
        rw [Option.some.inj hok]
      | error error =>
        rw [hresult] at hok
        cases hok
    · rintro ⟨he, hok⟩
      obtain rfl : x = task := by
        cases he
        rfl
      refine ⟨rfl, ?_⟩
      rw [hok]
      rfl
  · rename_i hne
    exact iff_of_false nofun fun h => hne task h.1

/-! ## Whom a request tells -/

/-- A task is bound to a slot that has not been asked for. -/
def isExposed (t : SlotTable) (task : Task) : Bool :=
  (t.slot? task.allocation).any fun s => s.state ≠ .releasing && s.tasks.get? task.execution = some task

theorem isExposed_iff : t.isExposed task = true ↔
    ∃ s, t.slots.get? task.allocation = some s ∧ s.state ≠ .releasing ∧
      s.tasks.get? task.execution = some task := by
  unfold isExposed slot?
  rw [Option.any_eq_true]
  simp only [Bool.and_eq_true, decide_eq_true_iff]

theorem isExposed_of_live (hlive : t.slots.get? task.allocation = some s) :
    t.isExposed task = true ↔ s.state ≠ .releasing ∧ s.tasks.get? task.execution = some task := by
  unfold isExposed slot?
  rw [hlive, Option.any_some, Bool.and_eq_true, decide_eq_true_iff, decide_eq_true_iff]

theorem isExposed_congr {t' : SlotTable} (h : t'.slots.get? task.allocation = t.slots.get? task.allocation) :
    t'.isExposed task = t.isExposed task := by
  unfold isExposed slot?
  rw [h]

/-- What a task is told by a request that reaches it. -/
def toldIf (task : Task) (cause : String) (told : Bool) : List TaskFailure := if told then [⟨task, cause⟩] else []

theorem toldIf_of_not (h : a = task.allocation → ¬ t.isExposed task = true) :
    toldIf task cause (a = task.allocation && t.isExposed task) = [] := by
  refine if_neg fun hand => ?_
  rw [Bool.and_eq_true, decide_eq_true_iff] at hand
  exact h hand.1 hand.2

end SlotTable

/-- A map of tasks that are there under their own keys has each of them once. -/
theorem filter_values {tasks : SortedMap ExecutionId Task} (task : Task)
    (hown : ∀ {x y}, tasks.get? x = some y → y.execution = x) :
    tasks.values.filter (· = task) = if tasks.get? task.execution = some task then [task] else [] := by
  have hnodup : tasks.values.Nodup := SortedMap.nodup_values hown
  have hmem : task ∈ tasks.values ↔ tasks.get? task.execution = some task := by
    rw [SortedMap.mem_values_iff]
    constructor
    · rintro ⟨x, hx⟩
      rw [hown hx]
      exact hx
    · exact fun h => ⟨_, h⟩
  rw [List.filter_eq, hnodup.count]
  simp only [hmem]
  split <;> rfl

namespace SlotTable

/-- A request for a slot tells a task that is bound to it, unless the slot was asked for before. -/
theorem Sound.slot_told (h : t.Sound) (hlive : t.slots.get? a = some s) (cause : String) (task : Task) :
    (if s.state = .releasing then [] else s.tasks.values.map (⟨·, cause⟩ : Task → TaskFailure)).filter
        (·.task = task) =
      toldIf task cause (a = task.allocation && t.isExposed task) := by
  by_cases hstate : s.state = .releasing
  · rw [if_pos hstate, toldIf_of_not]
    · rfl
    · rintro rfl hexposed
      exact ((isExposed_of_live hlive).1 hexposed).1 hstate
  · have hiff : (s.tasks.get? task.execution = some task) ↔
        (a = task.allocation && t.isExposed task) = true := by
      rw [Bool.and_eq_true, decide_eq_true_iff]
      constructor
      · intro htask
        have ha : a = task.allocation := (h.keyed hlive).symm.trans (h.own hlive htask).2.2.symm
        subst ha
        exact ⟨rfl, (isExposed_of_live hlive).2 ⟨hstate, htask⟩⟩
      · rintro ⟨rfl, hexposed⟩
        exact ((isExposed_of_live hlive).1 hexposed).2
    have hfilter := filter_values task fun hx => (h.own hlive hx).1
    unfold toldIf
    rw [if_neg hstate, List.filter_map, Function.comp_def, hfilter, apply_ite (List.map _)]
    simp only [hiff]
    rfl

/-- Freeing a slot tells a task that is bound to it, unless the slot was asked for before. -/
theorem Sound.free_told (h : t.Sound) (now : Nat) (a : AllocationId) (cause : String) (task : Task) :
    (t.free now a cause).failures.filter (·.task = task) =
      toldIf task cause (a = task.allocation && t.isExposed task) := by
  cases hlive : t.slots.get? a with
  | some s =>
    rw [(h.free_live now hlive cause).failures]
    exact h.slot_told hlive cause task
  | none =>
    rw [(free_none now hlive cause).2, toldIf_of_not]
    · rfl
    · rintro rfl hexposed
      obtain ⟨s, hs, -⟩ := isExposed_iff.1 hexposed
      exact absurd (hlive.symm.trans hs) nofun

/-- Freeing several slots tells a task that is bound to one of them, unless that was asked for before. -/
theorem Sound.releaseAll_told (h : t.Sound) (hnodup : order.Nodup)
    (hlive : ∀ a ∈ order, ∃ s, t.slots.get? a = some s) (now : Nat) (task : Task) :
    (SlotTable.releaseAll now order t).failures.filter (·.task = task) =
      toldIf task closeCause (task.allocation ∈ order && t.isExposed task) := by
  induction order generalizing t with
  | nil => rfl
  | cons a rest ih =>
    obtain ⟨ha, hrest⟩ := List.nodup_cons.1 hnodup
    obtain ⟨s, hs⟩ := hlive a List.mem_cons_self
    obtain ⟨freed, failures, u, hfreed, hstep, -, hasked⟩ := h.release_live now hs closeCause
    have hlive' : ∀ b ∈ rest, ∃ s, u.slots.get? b = some s := fun b hb => by
      rw [hasked.others b (ne_of_mem_of_not_mem hb ha)]
      exact hlive b (List.mem_cons_of_mem _ hb)
    have hhead := h.slot_told hs closeCause task
    rw [← hasked.failures] at hhead
    rw [releaseAll_cons now hfreed, List.filter_append, hhead, ih (h.step hstep) hrest hlive']
    by_cases hat : a = task.allocation
    · -- the task's slot is the first, and is not among the rest
      subst hat
      simp [toldIf, ha]
    · have hsame := isExposed_congr (hasked.others task.allocation (Ne.symm hat))
      simp [toldIf, hat, Ne.symm hat, hsame]

theorem andThen_answer_failures {α β : Type} (reply : Reply α) (f : α → SlotTable → SlotTable) (b : β) :
    (reply.andThen fun a t => .answer (f a t) b).failures = reply.failures := by
  unfold Reply.andThen
  cases reply.result with
  | ok a => exact List.append_nil _
  | error e => rfl

/-- Closing a table tells a task whose slot has not been asked for before. -/
theorem Sound.closeInOrder_told (h : t.Sound) (hending : t.Ending) (horder : order.Perm t.slots.keys) (now : Nat)
    (task : Task) :
    (t.closeInOrder now order).failures.filter (·.task = task) = toldIf task closeCause (t.isExposed task) := by
  by_cases hstate : t.state = .running
  · have hbegin : Step now t (.operation .close) [] [] { t with state := .closing } := .beginClose hstate
    have hbound : ¬ (!t.bound) = true := by
      rw [h.bound hstate]
      nofun
    have hnodup : order.Nodup := horder.nodup_iff.2 (SortedMap.nodup_keys _)
    have htold := (h.step hbegin).releaseAll_told hnodup
      (fun a ha => SortedMap.mem_keys_iff.1 (horder.mem_iff.1 ha)) now task
    have hexposed : (task.allocation ∈ order && t.isExposed task) = t.isExposed task := by
      refine Bool.and_eq_right_iff_imp.2 fun hexposed => decide_eq_true ?_
      obtain ⟨s, hs, -⟩ := isExposed_iff.1 hexposed
      exact horder.mem_iff.2 (SortedMap.mem_keys_iff.2 ⟨s, hs⟩)
    unfold SlotTable.closeInOrder
    rw [hstate]
    dsimp only
    rw [if_neg hbound, andThen_answer_failures, htold]
    exact congrArg (toldIf task closeCause) hexposed
  · -- all slots that are left have been asked for
    have hnot : t.isExposed task = false := by
      refine Bool.eq_false_iff.2 fun hexposed => ?_
      obtain ⟨s, hs, hreleasing, -⟩ := isExposed_iff.1 hexposed
      exact hstate (hending.running h hs hreleasing)
    have hnone : (t.closeInOrder now order).failures = [] := by
      unfold SlotTable.closeInOrder
      cases hst : t.state with
      | running => exact absurd hst hstate
      | created | closing | closed => rfl
    rw [hnone, hnot]
    rfl

/-- The slots that are left when a table has been asked to close are to be given back. -/
theorem Sound.releasing_of_closeInOrder (h : t.Sound) (hending : t.Ending) (horder : order.Perm t.slots.keys)
    (hs : (t.closeInOrder now order).table.slots.get? a = some s) : s.state = .releasing := by
  cases hstate : t.state with
  | running =>
    obtain ⟨grants, failures, u, heq, -, -, -, hmarked⟩ := h.closeInOrder_running now horder hstate
    rw [heq] at hs
    exact hmarked a s hs
  | created =>
    unfold SlotTable.closeInOrder at hs
    rw [hstate] at hs
    exact absurd ((h.fresh hstate a).symm.trans hs) nofun
  | closing =>
    unfold SlotTable.closeInOrder at hs
    rw [hstate] at hs
    exact (hending.marked hstate hs).1
  | closed =>
    unfold SlotTable.closeInOrder at hs
    rw [hstate] at hs
    exact absurd ((hending.gone hstate a).symm.trans hs) nofun

/-- Only what asks for a slot tells tasks to fail. -/
theorem Step.failures_eq_nil {t' : SlotTable} {actions : List SlotAction} {failures : List TaskFailure}
    (h : Step now t e actions failures t') (hfree : ∀ a cause, e ≠ .operation (.free a cause)) :
    failures = [] := by
  cases h with
  | retire | drain => exact absurd rfl (hfree _ _)
  | _ => rfl

end SlotTable

namespace TableRun

/-- An event that asks for a slot frees it, or closes the table. -/
theorem after_of_askedBack (h : r.table.askedBack? a e = some cause) :
    e = .operation (.free a cause) ∨ cause = closeCause ∧ ∃ order, order.Perm r.table.slots.keys ∧
      r.after e = r.absorb (r.table.closeInOrder r.now order) := by
  unfold askedBack? at h
  split at h
  · split at h
    · rename_i heq
      obtain rfl := Option.some.inj h
      exact .inl (heq ▸ rfl)
    · cases h
  · exact .inr ⟨(Option.some.inj h).symm, _, .refl _, rfl⟩
  · rename_i order
    split at h
    · rename_i horder
      refine .inr ⟨(Option.some.inj h).symm, order, List.isPerm_iff.1 horder, ?_⟩
      unfold after
      dsimp only
      rw [if_pos horder]
    · cases h
  · cases h

/-- An event that does not ask for a slot comes to nothing, or is none of those that could. -/
theorem after_of_not_askedBack (h : r.table.askedBack? a e = none) : r.after e = r ∨ ¬ e.AsksBack a := by
  by_cases hasks : e.AsksBack a
  · obtain ⟨cause, rfl⟩ | rfl | ⟨order, rfl⟩ := hasks
    · exact absurd ((if_pos rfl).symm.trans h) nofun
    · cases h
    · refine .inl ?_
      unfold after
      dsimp only
      refine if_neg fun horder => ?_
      exact absurd ((if_pos horder).symm.trans h) nofun
  · exact .inr hasks

theorem failures_of_moves {r' : TableRun} (h : r.Moves e r')
    (hfree : ∀ a cause, e ≠ .operation (.free a cause)) (hcloses : ¬ e.Closes) : r'.failures = r.failures := by
  cases h with
  | tick | take | leave => rfl
  | change hparts hsteps =>
    have hnone : ∀ {failures : List TaskFailure}, failures = [] → r.failures ++ failures = r.failures :=
      fun hnil => hnil ▸ List.append_nil _
    refine hnone ?_
    cases hparts with
    | none =>
      cases hsteps
      rfl
    | self =>
      cases hsteps with
      | cons hstep hrest =>
        cases hrest
        exact (List.append_nil _).trans (hstep.failures_eq_nil hfree)
    | close | closing => exact absurd (by first | exact .inl rfl | exact .inr ⟨_, rfl⟩) hcloses

/-! ## What one event does to a task -/

/-- A task is told of an event that asks for its slot, unless somebody has asked before, and of no other event. -/
theorem told_after (h : r.table.Sound) (hending : r.table.Ending) (e : TableEvent) (task : Task) :
    (r.after e).failures.filter (·.task = task) = r.failures.filter (·.task = task) ++
      (r.table.askedBack? task.allocation e).elim [] (toldIf task · (r.table.isExposed task)) := by
  have hfreed : ∀ b cause, (r.after (.operation (.free b cause))).failures.filter (·.task = task) =
      r.failures.filter (·.task = task) ++ toldIf task cause (b = task.allocation && r.table.isExposed task) := by
    intro b cause
    show (r.failures ++ (r.table.free r.now b cause).failures).filter (·.task = task) = _
    rw [List.filter_append, h.free_told]
  cases hasked : r.table.askedBack? task.allocation e with
  | some cause =>
    obtain rfl | ⟨rfl, order, horder, hafter⟩ := after_of_askedBack hasked
    · rw [hfreed, decide_eq_true rfl]
      rfl
    · rw [hafter]
      show (r.failures ++ (r.table.closeInOrder r.now order).failures).filter (·.task = task) = _
      rw [List.filter_append, h.closeInOrder_told hending horder]
      rfl
  | none =>
    rw [Option.elim_none, List.append_nil]
    obtain hsame | hasks := after_of_not_askedBack hasked
    · rw [hsame]
    · by_cases hfree : ∃ b cause, e = .operation (.free b cause)
      · obtain ⟨b, cause, rfl⟩ := hfree
        have hb : b ≠ task.allocation := fun hb => hasks (.inl ⟨cause, hb ▸ rfl⟩)
        rw [hfreed, decide_eq_false hb]
        exact List.append_nil _
      · rw [failures_of_moves (after_moves h e) (fun b cause he => hfree ⟨b, cause, he⟩) fun he => hasks (.inr he)]

/-- A slot that is left when somebody has asked for it is to be given back. -/
theorem releasing_after (h : r.table.Sound) (hending : r.table.Ending)
    (hasked : r.table.askedBack? a e = some cause) (hs : (r.after e).table.slots.get? a = some s) :
    s.state = .releasing := by
  obtain rfl | ⟨-, order, horder, hafter⟩ := after_of_askedBack hasked
  · exact (h.free_state r.now hs).1
  · rw [hafter] at hs
    exact h.releasing_of_closeInOrder hending horder hs

/-- A task whose slot has just been asked for cannot be told again. -/
theorem isExposed_after_of_asked (h : r.table.Sound) (hending : r.table.Ending)
    (hasked : r.table.askedBack? task.allocation e = some cause) : (r.after e).table.isExposed task = false := by
  refine Bool.eq_false_iff.2 fun hexposed => ?_
  obtain ⟨s, hs, hstate, -⟩ := isExposed_iff.1 hexposed
  exact hstate (releasing_after h hending hasked hs)

/-- As long as nobody asks for the slot of a task that is bound, it is exposed if and only if it is bound. -/
theorem isExposed_after_of_not_asked (h : r.table.Sound) (hexposed : r.table.isExposed task = true)
    (hasked : r.table.askedBack? task.allocation e = none) :
    (r.after e).table.isExposed task = (r.after e).table.binds task := by
  refine Bool.eq_iff_iff.2 ?_
  rw [isExposed_iff, binds_iff]
  constructor
  · rintro ⟨s, hs, -, htask⟩
    exact ⟨s, hs, htask⟩
  · rintro ⟨s', hs', htask⟩
    refine ⟨s', hs', fun hstate => ?_, htask⟩
    obtain ⟨s, hs, hreleasing, -⟩ := isExposed_iff.1 hexposed
    obtain hsame | hasks := after_of_not_askedBack hasked
    · rw [hsame] at hs'
      obtain rfl : s = s' := Option.some.inj (hs.symm.trans hs')
      exact hreleasing hstate
    · obtain ⟨-, x, hx, -, hbefore⟩ := (keepsTimeouts_of_moves (after_moves h e)).kept hs' (.inl hstate)
      obtain rfl : s = x := Option.some.inj (hs.symm.trans hx)
      exact hreleasing ((hbefore hstate).resolve_right hasks)

/-- Only a task that is accepted becomes exposed, and it was not bound before. -/
theorem isExposed_after_of_accepted (haccepts : r.table.accepts task e = true) :
    r.table.isExposed task = false ∧ (r.after e).table.isExposed task = true ∧
      r.table.askedBack? task.allocation e = none := by
  obtain ⟨rfl, hok⟩ := accepts_iff.1 haccepts
  obtain ⟨hstate, s, hlive, hactive, hnew⟩ := bindable_of_addTask hok
  refine ⟨Bool.eq_false_iff.2 fun hexposed => ?_, ?_, rfl⟩
  · have htask := ((isExposed_of_live hlive).1 hexposed).2
    exact absurd (hnew.symm.trans htask) nofun
  · show (r.table.addTask task).table.isExposed task = true
    rw [addTask_of_bindable hstate hlive hactive hnew]
    refine isExposed_iff.2 ⟨_, SortedMap.get?_insert_self _ _ _, ?_, SortedMap.get?_insert_self _ _ _⟩
    show s.state ≠ .releasing
    rw [(TaskSlot.isActive_iff.1 hactive).1]
    nofun

theorem isExposed_after_of_not_accepted (h : r.table.Sound) (hgranted : r.table.Granted)
    (haccepts : r.table.accepts task e = false) (hexposed : r.table.isExposed task = false) :
    (r.after e).table.isExposed task = false := by
  refine Bool.eq_false_iff.2 fun hafter => ?_
  obtain ⟨s', hs', hstate', htask'⟩ := isExposed_iff.1 hafter
  -- the task was bound before, as it has not been accepted now
  have hholds : r.table.Holds task.allocation task.execution task := by
    have hholds' : (r.after e).table.Holds task.allocation task.execution task := ⟨s', hs', htask'⟩
    have hchange := h.taskChange e
    generalize (r.after e).table = t' at hchange hholds'
    cases hchange with
    | same _ hholds => exact (hholds _ _ _).1 hholds'
    | @bind x hevent hok _ _ hholds =>
      obtain ⟨-, -, rfl⟩ | hbefore := (hholds _ _ _).1 hholds'
      · exact absurd (accepts_iff.2 ⟨hevent, hok⟩) (Bool.eq_false_iff.1 haccepts)
      · exact hbefore
    | unbind _ _ _ hholds => exact ((hholds _ _ _).1 hholds').1
  obtain ⟨s, hs, htask⟩ := hholds
  have hstate : s.state = .releasing := by
    by_contra hstate
    exact absurd (isExposed_iff.2 ⟨s, hs, hstate, htask⟩) (Bool.eq_false_iff.1 hexposed)
  obtain ⟨x, hx, hlater⟩ | ⟨hgone, -⟩ := (hgranted.passage h e).fate hs
  · obtain rfl : x = s' := Option.some.inj (hx.symm.trans hs')
    exact hstate' (hlater.releasing hstate)
  · exact absurd (hgone.symm.trans hs') nofun

/-! ## Every run -/

theorem firstCause?_of_not_bound (h : r.table.binds task = false) (events : List TableEvent) :
    r.firstCause? task events = none := by
  cases events with
  | nil => rfl
  | cons e rest =>
    unfold firstCause?
    rw [h]
    rfl

/-- What a task that is exposed, or is not, is told in a run from there on. -/
theorem failures_afterAll (h : r.table.Sound) (hgranted : r.table.Granted) (hending : r.table.Ending)
    (events : List TableEvent) (task : Task) :
    (r.afterAll events).failures.filter (·.task = task) = r.failures.filter (·.task = task) ++
      ((if r.table.isExposed task then (r.firstCause? task events).toList.map (⟨task, ·⟩) else []) ++
        r.failuresDue task events) := by
  induction events generalizing r with
  | nil => simp [firstCause?, failuresDue]
  | cons e rest ih =>
    have ih := ih (h.after e).1 (hgranted.after h e) (hending.after h hgranted e)
    rw [afterAll_cons, ih, told_after h hending, failuresDue]
    cases haccepts : r.table.accepts task e with
    | true =>
      obtain ⟨hbefore, hafter, hasked⟩ := isExposed_after_of_accepted haccepts
      simp [hbefore, hafter, hasked]
    | false =>
      cases hexposed : r.table.isExposed task with
      | false =>
        have hafter := isExposed_after_of_not_accepted h hgranted haccepts hexposed
        cases hasked : r.table.askedBack? task.allocation e <;> simp [hafter, toldIf]
      | true =>
        have hbound : r.table.binds task = true := by
          obtain ⟨s, hs, -, htask⟩ := isExposed_iff.1 hexposed
          exact binds_iff.2 ⟨s, hs, htask⟩
        cases hasked : r.table.askedBack? task.allocation e with
        | some cause =>
          have hafter := isExposed_after_of_asked h hending hasked
          simp [firstCause?, hbound, hasked, hafter, toldIf]
        | none =>
          have hafter := isExposed_after_of_not_asked h hexposed hasked
          cases hstill : (r.after e).table.binds task with
          | true => simp [firstCause?, hbound, hasked, hafter, hstill]
          | false =>
            have hnone := firstCause?_of_not_bound hstill rest
            simp [firstCause?, hbound, hasked, hafter, hstill, hnone]

/-- A slot that somebody has asked for loses tasks, and gets none. -/
theorem Granted.sealed_of_asked (h : r.table.Sound) (hgranted : r.table.Granted) (hending : r.table.Ending)
    (hs : r.table.slots.get? a = some s) (hasked : r.table.askedBack? a e = some cause) (rest : List TableEvent)
    (hs' : (r.afterAll (e :: rest)).table.slots.get? a = some s') (hgrant : s'.grant = s.grant) :
    s'.state = .releasing ∧ ∀ x task, s'.tasks.get? x = some task → s.tasks.get? x = some task := by
  have hgranted' := hgranted.after h e
  have hsound' := (h.after e).1
  obtain ⟨x, hx, hlater⟩ | ⟨-, x, hx, -⟩ := (hgranted.passage h e).fate hs
  · have hstate := releasing_after h hending hasked hx
    have hlater' := hgranted'.later_of_grant hsound' hx hs' (hgrant.trans hlater.grant.symm)
    refine ⟨hlater'.releasing hstate, fun y task htask => ?_⟩
    have hholds : (r.after e).table.Holds a y task := ⟨x, hx, hlater'.tasks hstate htask⟩
    -- what asks for a slot binds no task
    have hchange := h.taskChange e
    generalize (r.after e).table = t' at hchange hholds
    refine (holds_iff_of_live hs).1 ?_
    cases hchange with
    | same _ hiff => exact (hiff _ _ _).1 hholds
    | bind hevent =>
      subst hevent
      cases hasked
    | unbind _ _ _ hiff => exact ((hiff _ _ _).1 hholds).1
  · -- a slot that has left the table does not come back
    obtain ⟨y, hy, -⟩ := hgranted'.stays_afterAll hsound' hx rest
    have hapart := (hgranted'.afterAll hsound' rest).apart hs'
    rw [hgrant, hy] at hapart
    cases hapart

end TableRun

/-- No task is bound to a slot that is to be given back. -/
theorem SlotTable.addTask_of_releasing (hs : t.slots.get? task.allocation = some s) (hstate : s.state = .releasing) :
    ∃ error, t.addTask task = .refuse t error := by
  unfold addTask whenRunning
  split
  · have hinactive : ¬ s.isActive task.job task.allocation = true := by
      rw [TaskSlot.isActive_iff, hstate]
      rintro ⟨hactive, -⟩
      cases hactive
    rw [hs]
    dsimp only
    rw [if_neg hinactive]
    exact ⟨_, rfl⟩
  · exact ⟨_, rfl⟩

/-- Which tasks are told to fail in a run, and why. -/
structure ToldOnce (start : TableRun) (history : List TableEvent) : Prop where
  /-- Each time that a task has been bound, it is told the cause of the first request for its slot if it is still
  bound then, and nothing else. -/
  told : ∀ task, (start.afterAll history).failures.filter (·.task = task) = start.failuresDue task history
  /-- A slot that has been asked for holds none but the tasks that it held then, and accepts none. -/
  sealed : ∀ before e rest a s s' cause, history = before ++ e :: rest →
    (start.afterAll before).table.slot? a = some s → (start.afterAll before).table.askedBack? a e = some cause →
    (start.afterAll history).table.slot? a = some s' → s'.grant = s.grant →
    s'.state = .releasing ∧ (∀ x task, s'.tasks.get? x = some task → s.tasks.get? x = some task) ∧
      ∀ task, task.allocation = a → ∃ error,
        (start.afterAll history).table.addTask task = .refuse (start.afterAll history).table error

/-- Of the timeouts that a supervisor takes up, those that are valid are requests for their slots. -/
theorem Supervisor.serveEvents_timeout {α : Type} {s : Supervisor α} {ticket : Ticket} {queue : List SlotAction}
    (hqueue : s.run.queue = .timeout a ticket :: queue) :
    (s.run.table.isValidTimeout a ticket = .ok true →
      s.serveEvents = [.take, .operation (.free a unclaimedCause)]) ∧
    (s.run.table.isValidTimeout a ticket ≠ .ok true → s.serveEvents = [.take]) := by
  unfold serveEvents heedEvents
  rw [hqueue]
  dsimp only
  constructor
  · intro hvalid
    rw [hvalid]
  · intro hinvalid
    split
    · rename_i hvalid
      exact absurd hvalid hinvalid
    · rfl

/-- In every run of a table, a task that has been accepted is told to fail once if it is still bound when its slot
is first asked for, with the cause of that request, and not otherwise; no task is bound to a slot that has been
asked for. In every run of a supervisor this is so, too, and a timeout that it takes up is a request if and only if
it is valid. -/
theorem told_once_of_new {config : TableConfig} {timers : Timers AllocationId} {table : SlotTable}
    (hnew : SlotTable.new config timers = .ok table) :
    (∀ listening history, ToldOnce (.new table listening) history) ∧
    ∀ {α : Type} (s : Supervisor α) (history : List TableEvent), Supervisor.Reached table history s →
      (∀ task, s.run.failures.filter (·.task = task) =
        (TableRun.new table true).failuresDue task history) ∧
      ∀ a ticket queue, s.run.queue = .timeout a ticket :: queue →
        (s.run.table.isValidTimeout a ticket = .ok true →
          s.serveEvents = [.take, .operation (.free a unclaimedCause)]) ∧
        (s.run.table.isValidTimeout a ticket ≠ .ok true → s.serveEvents = [.take]) := by
  have hsound := (Sound.new hnew).1
  have hgranted := Granted.new hnew
  have hending := Ending.new hnew
  have htold : ∀ listening history task,
      ((TableRun.new table listening).afterAll history).failures.filter (·.task = task) =
        (TableRun.new table listening).failuresDue task history := by
    intro listening history task
    have hexposed : table.isExposed task = false := by
      refine Bool.eq_false_iff.2 fun hexposed => ?_
      obtain ⟨s, hs, -, htask⟩ := isExposed_iff.1 hexposed
      exact not_holds_of_new hnew _ _ task ⟨s, hs, htask⟩
    have hall := failures_afterAll (r := .new table listening) hsound hgranted hending history task
    rw [show (TableRun.new table listening).table.isExposed task = false from hexposed] at hall
    exact hall
  refine ⟨fun listening history => ⟨htold listening history, ?_⟩, fun s history h => ⟨fun task => ?_,
    fun a ticket queue hqueue => Supervisor.serveEvents_timeout hqueue⟩⟩
  · rintro before e rest a s s' cause rfl hs hasked hs' hgrant
    have hsound₀ := (hsound.afterAll (r := .new table listening) before).1
    have hgranted₀ := hgranted.afterAll (r := .new table listening) hsound before
    have hending₀ := hending.afterAll (r := .new table listening) hsound hgranted before
    have hlive : (((TableRun.new table listening).afterAll before).afterAll (e :: rest)).table.slots.get? a =
        some s' := by
      rw [← afterAll_append]
      exact hs'
    obtain ⟨hstate, htasks⟩ := Granted.sealed_of_asked hsound₀ hgranted₀ hending₀ hs hasked rest hlive hgrant
    refine ⟨hstate, htasks, ?_⟩
    rintro task rfl
    exact addTask_of_releasing hs' hstate
  · rw [h.run_eq]
    exact htold true history task

/-- Of two tasks of a slot, one is unbound before the slot is freed. The other one is told to fail then, and neither
when the slot is freed again nor when the table is closed. -/
theorem told_once_of_new_drained : ∃ table,
    SlotTable.new (.evenlyDivided 2 TableConfig.standardProfile) (.new 0) = .ok table ∧
    let used : List TableEvent :=
      [.operation .start, .operation (.allocate ⟨.fixed 0, ⟨0⟩, ⟨1⟩, none, 5⟩), .operation (.markActive ⟨1⟩),
        .operation (.addTask ⟨⟨7⟩, ⟨0⟩, ⟨1⟩⟩), .operation (.addTask ⟨⟨8⟩, ⟨0⟩, ⟨1⟩⟩),
        .operation (.removeTask ⟨8⟩)]
    let history := used ++ .operation (.free ⟨1⟩ "lost") ::
      [.operation (.free ⟨1⟩ "lost again"), .operation .close]
    let asked := (TableRun.new table true).afterAll used
    let r := (TableRun.new table true).afterAll history
    asked.table.binds ⟨⟨7⟩, ⟨0⟩, ⟨1⟩⟩ = true ∧
      r.failures.filter (·.task = ⟨⟨7⟩, ⟨0⟩, ⟨1⟩⟩) = [⟨⟨⟨7⟩, ⟨0⟩, ⟨1⟩⟩, "lost"⟩] ∧
      r.failures.filter (·.task = ⟨⟨8⟩, ⟨0⟩, ⟨1⟩⟩) = [] ∧
      ∃ s, r.table.slot? ⟨1⟩ = some s ∧ s.state = .releasing ∧
        ∃ error, r.table.addTask ⟨⟨9⟩, ⟨0⟩, ⟨1⟩⟩ = .refuse r.table error := by
  have hnew : SlotTable.new (.evenlyDivided 2 TableConfig.standardProfile) (.new 0) = .ok _ := rfl
  refine ⟨_, hnew, ?_⟩
  intro used history asked r
  have htold : ToldOnce (.new _ true) history := (told_once_of_new hnew).1 true history
  obtain ⟨s, hs⟩ := Option.isSome_iff_exists.1 (by decide +kernel : (asked.table.slot? ⟨1⟩).isSome = true)
  obtain ⟨s', hs'⟩ := Option.isSome_iff_exists.1 (by decide +kernel : (r.table.slot? ⟨1⟩).isSome = true)
  have hgrant : s'.grant = s.grant := by
    have hgrants : (r.table.slot? ⟨1⟩).map (·.grant) = (asked.table.slot? ⟨1⟩).map (·.grant) := by decide +kernel
    rw [hs, hs'] at hgrants
    exact Option.some.inj hgrants
  obtain ⟨hstate, -, hrefused⟩ := htold.sealed used _ _ ⟨1⟩ s s' "lost" rfl hs rfl hs' hgrant
  refine ⟨by decide +kernel, ?_, ?_, s', hs', hstate, hrefused ⟨⟨9⟩, ⟨0⟩, ⟨1⟩⟩ rfl⟩
  · rw [htold.told]
    decide +kernel
  · rw [htold.told]
    decide +kernel

end WorkerSlots
