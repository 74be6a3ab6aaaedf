import Mathlib.Order.Bounds.Basic
import WorkerSlots.Proofs.Holdings

/-!
# Memory in whole pages

* `IsFewestPages` : the fewest whole pages that are enough for some bytes;
* `isFewestPages_roundUp`, `roundUp_of_not_dvd` : so many are asked for, unless no word is as large. Then it is
  the largest word that is asked for;
* `InPages` : all of a memory is held in whole pages. Giving back keeps it so (`InPages.release`), and so does
  taking whole pages (`InPages.reserve`);
* `TakesAll` : the only reservation of something else takes a memory of the largest size as a whole
  (`Accounted.taken_cases`);
* `paged_of_new` : which memories are held in whole pages whatever their users do, and for how long all
  others are.
-/

namespace WorkerSlots.ManagedMemory

variable {m low high : ManagedMemory} {owner : String} {bytes : UInt64} {amount : MemorySize}

/-! ## Pages for some bytes -/

/-- An amount is that of the fewest whole pages that are enough for some bytes. -/
def IsFewestPages (pageSize bytes amount : Nat) : Prop :=
  IsLeast {n | pageSize ∣ n ∧ bytes ≤ n} amount

theorem isFewestPages_roundUp (hpage : m.pageSize ≠ 0)
    (hdvd : m.pageSize.toNat ∣ (m.roundUp bytes).bytes.toNat) :
    IsFewestPages m.pageSize.toNat bytes.toNat (m.roundUp bytes).bytes.toNat := by
  obtain ⟨henough, -, hfew⟩ := roundUp_least hpage bytes
  refine ⟨⟨hdvd, henough⟩, ?_⟩
  rintro n ⟨⟨pages, rfl⟩, hn⟩
  rw [Nat.mul_comm] at hn ⊢
  exact hfew pages hn

/-- Where the amount is not one of whole pages, no whole pages that are enough fit in a word. -/
theorem roundUp_of_not_dvd (hpage : m.pageSize ≠ 0)
    (hnot : ¬ m.pageSize.toNat ∣ (m.roundUp bytes).bytes.toNat) :
    (m.roundUp bytes).bytes.toNat = UInt64.size - 1 ∧
      ∀ n, m.pageSize.toNat ∣ n → bytes.toNat ≤ n → UInt64.size ≤ n := by
  obtain ⟨-, hwhole, hfew⟩ := roundUp_least hpage bytes
  have hlargest := hwhole.resolve_left hnot
  refine ⟨hlargest, fun n hn henough => ?_⟩
  have hne : n ≠ UInt64.size - 1 := by
    rintro rfl
    rw [hlargest] at hnot
    exact hnot hn
  obtain ⟨pages, rfl⟩ := hn
  rw [Nat.mul_comm] at henough hne ⊢
  have hle := hfew pages henough
  omega

/-! ## What is held -/

/-- All of a memory is held in whole pages. -/
structure InPages (m : ManagedMemory) : Prop where
  used : m.pageSize.toNat ∣ m.used.bytes.toNat
  held : ∀ owner, m.pageSize.toNat ∣ (m.held owner).bytes.toNat

theorem InPages.more (h : low.InPages) (hmore : low.HoldsMore high owner amount)
    (hamount : low.pageSize.toNat ∣ amount.bytes.toNat) : high.InPages := by
  refine ⟨?_, fun other => ?_⟩
  · rw [hmore.pageSize, hmore.used]
    exact Nat.dvd_add h.used hamount
  · rw [hmore.pageSize]
    by_cases hother : other = owner
    · subst hother
      rw [hmore.own]
      exact Nat.dvd_add (h.held other) hamount
    · rw [hmore.others other hother]
      exact h.held other

theorem InPages.less (h : high.InPages) (hmore : low.HoldsMore high owner amount)
    (hamount : high.pageSize.toNat ∣ amount.bytes.toNat) : low.InPages := by
  refine ⟨?_, fun other => ?_⟩
  · have hused := h.used
    rw [hmore.used] at hused
    rw [← hmore.pageSize]
    exact (Nat.dvd_add_left hamount).1 hused
  · have hheld := h.held other
    rw [← hmore.pageSize]
    by_cases hother : other = owner
    · subst hother
      rw [hmore.own] at hheld
      exact (Nat.dvd_add_left hamount).1 hheld
    · rwa [hmore.others other hother] at hheld

theorem InPages.reserve (h : m.InPages) (ha : m.Accounted)
    (hwhole : ∀ amount, (m.reserve owner bytes).1 = .ok amount → m.pageSize.toNat ∣ amount.bytes.toNat) :
    (m.reserve owner bytes).2.InPages := by
  cases hanswer : (m.reserve owner bytes).1 with
  | error error =>
    rw [ha.reserve_of_error hanswer]
    exact h
  | ok amount => exact h.more (ha.reserve_of_ok hanswer).2 (hwhole amount hanswer)

/-- Whatever an owner asks to give back, it gives back whole pages: those that it asks for, or all that it
holds. -/
theorem InPages.release (h : m.InPages) (ha : m.Accounted) (hpage : m.pageSize ≠ 0) (owner : String)
    (bytes : UInt64) : (m.release owner bytes).2.InPages := by
  obtain ⟨hless, hfreed⟩ := ha.release_holdsMore owner bytes
  refine h.less hless ?_
  rw [hfreed]
  by_cases hdvd : m.pageSize.toNat ∣ (m.roundUp bytes).bytes.toNat
  · obtain hle | hle := Nat.le_total (m.roundUp bytes).bytes.toNat (m.held owner).bytes.toNat
    · rw [Nat.min_eq_left hle]
      exact hdvd
    · rw [Nat.min_eq_right hle]
      exact h.held owner
  · -- nobody holds more than the largest amount
    have hlargest := (roundUp_of_not_dvd hpage hdvd).1
    have hsize := (m.held owner).bytes.toNat_lt_size
    rw [Nat.min_eq_right (by omega)]
    exact h.held owner

theorem InPages.releaseAll (h : m.InPages) (ha : m.Accounted) (owner : String) :
    (m.releaseAll owner).2.InPages := by
  obtain ⟨hless, hfreed⟩ := ha.releaseAll_holdsMore owner
  refine h.less hless ?_
  rw [hfreed]
  exact h.held owner

/-- A memory stays in whole pages as long as no reservation takes anything else. -/
theorem InPages.run (h : m.InPages) (ha : m.Accounted) (hpage : m.pageSize ≠ 0) (use : MemoryUse)
    (hwhole : ∀ owner bytes amount, use = .reserve owner bytes → (m.reserve owner bytes).1 = .ok amount →
      m.pageSize.toNat ∣ amount.bytes.toNat) : (use.run m).InPages := by
  cases use with
  | reserve owner bytes => exact h.reserve ha fun amount => hwhole owner bytes amount rfl
  | release owner bytes => exact h.release ha hpage owner bytes
  | releaseAll owner => exact h.releaseAll ha owner
  | shutdown => exact ⟨h.used, h.held⟩

theorem InPages.afterAll (h : m.InPages) (ha : m.Accounted) (hpage : m.pageSize ≠ 0) (uses : List MemoryUse)
    (hwhole : ∀ before owner bytes after, uses = before ++ .reserve owner bytes :: after →
      ∀ amount, ((m.afterAll before).reserve owner bytes).1 = .ok amount →
        m.pageSize.toNat ∣ amount.bytes.toNat) : (m.afterAll uses).InPages := by
  induction uses generalizing m with
  | nil => exact h
  | cons use rest ih =>
    have hfirst : (use.run m).InPages := by
      refine h.run ha hpage use ?_
      rintro owner bytes amount rfl hok
      exact hwhole [] owner bytes rest rfl amount hok
    have hsize := (pageSize_run use ha).1
    refine ih hfirst (ha.run use) (hsize ▸ hpage) ?_
    rintro before owner bytes after rfl amount hok
    rw [hsize]
    exact hwhole (use :: before) owner bytes after rfl amount hok

/-! ## What is taken -/

/-- A reservation takes a memory of the largest size as a whole: nothing of it was used, and no whole pages that
would be enough fit in a word. -/
structure TakesAll (m : ManagedMemory) (bytes : UInt64) (amount : MemorySize) : Prop where
  largest : amount.bytes.toNat = UInt64.size - 1
  total : m.total.bytes.toNat = UInt64.size - 1
  unused : m.used.bytes.toNat = 0
  partly : ¬ m.pageSize.toNat ∣ UInt64.size - 1
  enough : ∀ n, m.pageSize.toNat ∣ n → bytes.toNat ≤ n → UInt64.size ≤ n

/-- A reservation takes the fewest pages that are enough, or a memory of the largest size as a whole. -/
theorem Accounted.taken_cases (h : m.Accounted) (hpage : m.pageSize ≠ 0)
    (hok : (m.reserve owner bytes).1 = .ok amount) :
    IsFewestPages m.pageSize.toNat bytes.toNat amount.bytes.toNat ∨ m.TakesAll bytes amount := by
  obtain ⟨rfl, hmore⟩ := h.reserve_of_ok hok
  by_cases hdvd : m.pageSize.toNat ∣ (m.roundUp bytes).bytes.toNat
  · exact .inl (isFewestPages_roundUp hpage hdvd)
  · obtain ⟨hlargest, henough⟩ := roundUp_of_not_dvd hpage hdvd
    -- what is used afterwards is no more than there is
    have hkept : (m.reserve owner bytes).2.Accounted := h.reserve
    have hwithin := hkept.within
    have htotal := m.total.bytes.toNat_lt_size
    rw [hmore.used, hmore.total] at hwithin
    rw [hlargest] at hdvd
    exact .inr ⟨hlargest, by omega, by omega, hdvd, henough⟩

/-- All of a memory is held in whole pages, and a reservation takes the fewest that are enough. -/
structure Paged (m : ManagedMemory) : Prop extends InPages m where
  taken : ∀ owner bytes amount, (m.reserve owner bytes).1 = .ok amount →
    IsFewestPages m.pageSize.toNat bytes.toNat amount.bytes.toNat

/-- The largest amount can be taken of an unused memory of the largest size. -/
theorem Accounted.reserve_largest (h : m.Accounted) (hpage : m.pageSize ≠ 0) (hrunning : m.isShutdown = false)
    (htotal : m.total.bytes.toNat = UInt64.size - 1) (hused : m.used.bytes.toNat = 0) (owner : String)
    (hbytes : bytes.toNat = UInt64.size - 1) :
    ∃ amount, (m.reserve owner bytes).1 = .ok amount ∧ amount.bytes.toNat = UInt64.size - 1 := by
  have henough := (roundUp_least hpage bytes).1
  have hsize := (m.roundUp bytes).bytes.toNat_lt_size
  obtain ⟨hshutdown, -⟩ | ⟨-, hless, -⟩ | ⟨-, -, m', heq, -⟩ := h.reserve_cases owner bytes
  · rw [hshutdown] at hrunning
    cases hrunning
  · omega
  · refine ⟨m.roundUp bytes, by rw [heq], ?_⟩
    omega

/-! ## After any uses -/

theorem pageSize_of_new {total : MemorySize} {pageSize : UInt64} (hnew : new? total pageSize = some m) :
    pageSize ≠ 0 ∧ m = ⟨pageSize, total, .zero, .empty, false⟩ := by
  unfold new? at hnew
  split at hnew
  · cases hnew
  · exact ⟨‹_›, (Option.some.inj hnew).symm⟩

/-- The accounts, the size and the pages of a memory, after any uses. -/
theorem Accounted.afterAll (h : m.Accounted) (uses : List MemoryUse) :
    (m.afterAll uses).Accounted ∧ (m.afterAll uses).pageSize = m.pageSize ∧
      (m.afterAll uses).total = m.total := by
  refine afterAll_keeps (P := fun m' => m'.Accounted ∧ m'.pageSize = m.pageSize ∧ m'.total = m.total)
    (fun m' use hm => ?_) ⟨h, rfl, rfl⟩ uses
  obtain ⟨hsize, htotal⟩ := pageSize_run use hm.1
  exact ⟨hm.1.run use, hsize.trans hm.2.1, htotal.trans hm.2.2⟩

/-- A memory in whole pages stays so until a reservation takes a memory of the largest size as a whole. -/
theorem InPages.afterAll_or (h : m.InPages) (ha : m.Accounted) (hpage : m.pageSize ≠ 0)
    (uses : List MemoryUse) : (m.afterAll uses).InPages ∨
      ∃ before owner bytes after amount, uses = before ++ .reserve owner bytes :: after ∧
        ((m.afterAll before).reserve owner bytes).1 = .ok amount ∧
        (m.afterAll before).TakesAll bytes amount := by
  by_cases hall : ∃ before owner bytes after amount, uses = before ++ .reserve owner bytes :: after ∧
      ((m.afterAll before).reserve owner bytes).1 = .ok amount ∧
      (m.afterAll before).TakesAll bytes amount
  · exact .inr hall
  · refine .inl (h.afterAll ha hpage uses fun before owner bytes after huses amount hok => ?_)
    obtain ⟨hkept, hsize, -⟩ := ha.afterAll before
    rw [← hsize] at hpage ⊢
    obtain hfewest | htakes := hkept.taken_cases hpage hok
    · exact hfewest.1.1
    · exact absurd ⟨before, owner, bytes, after, amount, huses, hok, htakes⟩ hall

/-- A memory is in whole pages whatever its users do if and only if its size is not the largest one, or the
largest one is of whole pages. Of any other memory too a reservation takes the fewest whole pages that are
enough, unless it takes all there is, and until then all is held in whole pages. -/
theorem paged_of_new {total : MemorySize} {pageSize : UInt64} {created : ManagedMemory}
    (hnew : new? total pageSize = some created) :
    ((∀ uses, (created.afterAll uses).Paged) ↔
        (total.bytes.toNat = UInt64.size - 1 → pageSize.toNat ∣ UInt64.size - 1)) ∧
      ∀ uses, let m := created.afterAll uses
        m.pageSize = pageSize ∧ m.total = total ∧
        (∀ owner bytes amount, (m.reserve owner bytes).1 = .ok amount →
          IsFewestPages pageSize.toNat bytes.toNat amount.bytes.toNat ∨ m.TakesAll bytes amount) ∧
        (m.InPages ∨ ∃ before owner bytes after amount, uses = before ++ .reserve owner bytes :: after ∧
          ((created.afterAll before).reserve owner bytes).1 = .ok amount ∧
          (created.afterAll before).TakesAll bytes amount) := by
  have ha := Accounted.new hnew
  obtain ⟨hpage, rfl⟩ := pageSize_of_new hnew
  have hunheld : InPages ⟨pageSize, total, .zero, .empty, false⟩ :=
    ⟨Nat.dvd_zero _, fun _ => Nat.dvd_zero _⟩
  have hcases : ∀ uses owner bytes amount,
      ((afterAll ⟨pageSize, total, .zero, .empty, false⟩ uses).reserve owner bytes).1 = .ok amount →
        IsFewestPages pageSize.toNat bytes.toNat amount.bytes.toNat ∨
          (afterAll ⟨pageSize, total, .zero, .empty, false⟩ uses).TakesAll bytes amount := by
    intro uses owner bytes amount hok
    obtain ⟨hkept, hsize, -⟩ := ha.afterAll uses
    have htaken := hkept.taken_cases (by rwa [hsize]) hok
    rwa [hsize] at htaken
  refine ⟨⟨fun hpaged htotal => ?_, fun hdvd uses => ?_⟩, fun uses => ?_⟩
  · -- a reservation of the largest amount is granted, and is of whole pages
    obtain ⟨amount, hok, hlargest⟩ :=
      @Accounted.reserve_largest _ (.ofNat (UInt64.size - 1)) ha hpage rfl htotal rfl "" rfl
    have hwhole := ((hpaged []).taken "" _ amount hok).1.1
    rwa [hlargest] at hwhole
  · have hnever : ∀ before bytes amount,
        ¬ (afterAll ⟨pageSize, total, .zero, .empty, false⟩ before).TakesAll bytes amount := by
      intro before bytes amount htakes
      obtain ⟨-, hsize, htotal⟩ := ha.afterAll before
      have hpartly := htakes.partly
      have hlargest := htakes.total
      rw [hsize] at hpartly
      rw [htotal] at hlargest
      exact hpartly (hdvd hlargest)
    refine ⟨?_, fun owner bytes amount hok => ?_⟩
    · obtain hin | ⟨before, _, bytes, _, amount, -, -, htakes⟩ := hunheld.afterAll_or ha hpage uses
      · exact hin
      · exact absurd htakes (hnever before bytes amount)
    · rw [(ha.afterAll uses).2.1]
      obtain hfewest | htakes := hcases uses owner bytes amount hok
      · exact hfewest
      · exact absurd htakes (hnever uses bytes amount)
  · exact ⟨(ha.afterAll uses).2.1, (ha.afterAll uses).2.2, hcases uses, hunheld.afterAll_or ha hpage uses⟩

/-- Of a memory of the largest size more than whole pages are taken, and a page of it is given back. -/
theorem paged_of_new_largest : ∃ created, new? ⟨18446744073709551615⟩ 4096 = some created ∧
    ¬ (∀ uses, (created.afterAll uses).Paged) ∧
    let m := created.afterAll [.reserve "t1" 18446744073709551615, .release "t1" 1]
    m.used.bytes = 18446744073709547519 ∧
      (m.InPages ∨ ∃ before owner bytes after amount,
        [.reserve "t1" 18446744073709551615, .release "t1" 1] = before ++ .reserve owner bytes :: after ∧
        ((created.afterAll before).reserve owner bytes).1 = .ok amount ∧
        (created.afterAll before).TakesAll bytes amount) := by
  obtain ⟨hiff, hafter⟩ := @paged_of_new ⟨18446744073709551615⟩ 4096 _ rfl
  obtain ⟨-, -, -, hin⟩ := hafter [.reserve "t1" 18446744073709551615, .release "t1" 1]
  refine ⟨_, rfl, fun hpaged => ?_, rfl, hin⟩
  exact absurd (hiff.1 hpaged rfl) (by decide)

end WorkerSlots.ManagedMemory
