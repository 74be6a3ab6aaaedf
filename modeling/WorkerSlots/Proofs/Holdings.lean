import WorkerSlots.Proofs.Memory

/-!
# Who holds managed memory

* `HoldsMore` : two memories that differ in what one owner holds. Every use that takes or gives back
  something is one of these (`Accounted.reserve_cases`, `Accounted.release_holdsMore`,
  `releaseAll_holdsMore`), in numbers that fit their words;
* `roundUp_least` : the fewest whole pages that hold so many bytes;
* `Alike` : two memories that cannot be told apart, and never will be (`Alike.answers`);
* `Reserves`, `Releases` : what a reservation and a release come to;
* `holdings_of_new` : all of this after any uses of a memory.
-/

namespace WorkerSlots

/-- What the user of a memory is told. -/
def MemoryUse.answer : MemoryUse → ManagedMemory → Except MemoryError MemorySize
  | reserve owner bytes, m => (m.reserve owner bytes).1
  | release owner bytes, m => .ok (m.release owner bytes).1
  | releaseAll owner, m => .ok (m.releaseAll owner).1
  | shutdown, _ => .ok .zero

theorem MemorySize.ext_toNat {a b : MemorySize} (h : a.bytes.toNat = b.bytes.toNat) : a = b :=
  congrArg MemorySize.mk (UInt64.toNat_inj.1 h)

namespace ManagedMemory

/-- A memory after some uses, one after the other. -/
def afterAll (m : ManagedMemory) (uses : List MemoryUse) : ManagedMemory :=
  uses.foldl (fun m (use : MemoryUse) => use.run m) m

/-- What the users of a memory are told, one after the other. -/
def answers : List MemoryUse → ManagedMemory → List (Except MemoryError MemorySize)
  | [], _ => []
  | use :: rest, m => use.answer m :: answers rest (use.run m)

/-- What one use keeps, all uses keep. -/
theorem afterAll_keeps {P : ManagedMemory → Prop} (hstep : ∀ m (use : MemoryUse), P m → P (use.run m))
    {m : ManagedMemory} (h : P m) (uses : List MemoryUse) : P (m.afterAll uses) := by
  induction uses generalizing m with
  | nil => exact h
  | cons use rest ih => exact ih (hstep m use h)

/-- In `high` an owner holds so much more than in `low`, and nothing else is different. -/
structure HoldsMore (low high : ManagedMemory) (owner : String) (amount : MemorySize) : Prop where
  used : high.used.bytes.toNat = low.used.bytes.toNat + amount.bytes.toNat
  own : (high.held owner).bytes.toNat = (low.held owner).bytes.toNat + amount.bytes.toNat
  others : ∀ other ≠ owner, high.held other = low.held other
  pageSize : high.pageSize = low.pageSize
  total : high.total = low.total
  isShutdown : high.isShutdown = low.isShutdown

/-- Two memories that cannot be told apart. Whether there is an entry for an owner who holds nothing is
not seen. -/
structure Alike (m m' : ManagedMemory) : Prop where
  pageSize : m'.pageSize = m.pageSize
  total : m'.total = m.total
  used : m'.used = m.used
  isShutdown : m'.isShutdown = m.isShutdown
  held : ∀ owner, m'.held owner = m.held owner

variable {m m' low low' high high' : ManagedMemory} {owner : String} {bytes : UInt64} {amount : MemorySize}

/-! ## Whole pages -/

/-- The amount for so many bytes is enough for them, consists of whole pages unless it is the largest one,
and is no more than any whole pages that are enough. -/
theorem roundUp_least (hpage : m.pageSize ≠ 0) (bytes : UInt64) :
    bytes.toNat ≤ (m.roundUp bytes).bytes.toNat ∧
      (m.pageSize.toNat ∣ (m.roundUp bytes).bytes.toNat ∨
        (m.roundUp bytes).bytes.toNat = UInt64.size - 1) ∧
      ∀ pages, bytes.toNat ≤ pages * m.pageSize.toNat →
        (m.roundUp bytes).bytes.toNat ≤ pages * m.pageSize.toNat := by
  have hpos : 0 < m.pageSize.toNat := by
    refine Nat.pos_of_ne_zero fun hzero => hpage ?_
    exact UInt64.toNat_inj.1 hzero
  have hbytes := bytes.toNat_lt_size
  have hrounded : (m.roundUp bytes).bytes.toNat =
      min ((bytes.toNat + m.pageSize.toNat - 1) / m.pageSize.toNat * m.pageSize.toNat) (UInt64.size - 1) :=
    Word.toNat_clamp _
  generalize m.pageSize.toNat = page at hpos hrounded ⊢
  have henough : bytes.toNat ≤ (bytes.toNat + page - 1) / page * page := by
    have hmod := Nat.mod_lt (bytes.toNat + page - 1) hpos
    have hdiv := Nat.div_add_mod' (bytes.toNat + page - 1) page
    omega
  refine ⟨?_, ?_, fun pages hpages => ?_⟩
  · rw [hrounded]
    omega
  · rw [hrounded]
    obtain hle | hle := Nat.le_total ((bytes.toNat + page - 1) / page * page) (UInt64.size - 1)
    · rw [Nat.min_eq_left hle]
      exact .inl (Nat.dvd_mul_left page _)
    · rw [Nat.min_eq_right hle]
      exact .inr rfl
  · have hfew : (bytes.toNat + page - 1) / page ≤ pages := by
      refine Nat.le_of_lt_succ ((Nat.div_lt_iff_lt_mul hpos).2 ?_)
      rw [Nat.succ_mul]
      omega
    rw [hrounded]
    exact Nat.le_trans (Nat.min_le_left _ _) (Nat.mul_le_mul_right page hfew)

/-! ## What is taken and given back -/

theorem held_of_insert (h : m'.holdings = m.holdings.insert owner amount) (other : String) :
    m'.held other = if other = owner then amount else m.held other := by
  unfold held
  rw [h, SortedMap.get?_insert]
  split <;> rfl

theorem held_of_erase (h : m'.holdings = m.holdings.erase owner) (other : String) :
    m'.held other = if other = owner then .zero else m.held other := by
  unfold held
  rw [h, SortedMap.get?_erase]
  split <;> rfl

theorem Accounted.toNat_available (h : m.Accounted) :
    m.available.bytes.toNat + m.used.bytes.toNat = m.total.bytes.toNat := by
  have hwithin := h.within
  unfold available
  rw [MemorySize.toNat_subSat]
  omega

/-- A reservation fails if the memory is shut down, and else if there is not enough left. -/
theorem Accounted.reserve_cases (h : m.Accounted) (owner : String) (bytes : UInt64) :
    m.isShutdown = true ∧ m.reserve owner bytes = (.error .shutdown, m) ∨
    m.isShutdown = false ∧
      m.total.bytes.toNat - m.used.bytes.toNat < (m.roundUp bytes).bytes.toNat ∧
      m.reserve owner bytes = (.error (.insufficient (m.roundUp bytes) m.available), m) ∨
    m.isShutdown = false ∧
      (m.roundUp bytes).bytes.toNat ≤ m.total.bytes.toNat - m.used.bytes.toNat ∧
      ∃ m', m.reserve owner bytes = (.ok (m.roundUp bytes), m') ∧
        m.HoldsMore m' owner (m.roundUp bytes) := by
  have havailable := h.toNat_available
  have hiff : m.roundUp bytes ≤ m.available ↔
      (m.roundUp bytes).bytes.toNat ≤ m.available.bytes.toNat := UInt64.le_iff_toNat_le
  unfold ManagedMemory.reserve
  dsimp only
  cases hshutdown : m.isShutdown with
  | true => exact .inl ⟨rfl, rfl⟩
  | false =>
    by_cases hfit : m.roundUp bytes ≤ m.available
    · have hfit' := hiff.1 hfit
      have hwithin := h.within
      have hheld := h.held_le owner
      have htotal := m.total.bytes.toNat_lt_size
      rw [if_neg Bool.false_ne_true, if_pos hfit]
      refine .inr (.inr ⟨rfl, by omega, _, rfl, ?_, ?_, fun other hother => ?_, rfl, rfl, hshutdown.symm⟩)
      · exact Word.toNat_add_of_lt (by omega)
      · rw [held_of_insert rfl, if_pos rfl]
        exact Word.toNat_add_of_lt (by omega)
      · rw [held_of_insert rfl, if_neg hother]
    · have hfit' := mt hiff.2 hfit
      rw [if_neg Bool.false_ne_true, if_neg hfit]
      exact .inr (.inl ⟨rfl, by omega, rfl⟩)

theorem Accounted.reserve_of_error (h : m.Accounted) {error : MemoryError}
    (herror : (m.reserve owner bytes).1 = .error error) : (m.reserve owner bytes).2 = m := by
  obtain ⟨-, heq⟩ | ⟨-, -, heq⟩ | ⟨-, -, m', heq, -⟩ := h.reserve_cases owner bytes
  · rw [heq]
  · rw [heq]
  · rw [heq] at herror
    cases herror

theorem Accounted.reserve_of_ok (h : m.Accounted) (hok : (m.reserve owner bytes).1 = .ok amount) :
    amount = m.roundUp bytes ∧ m.HoldsMore (m.reserve owner bytes).2 owner amount := by
  obtain ⟨-, heq⟩ | ⟨-, -, heq⟩ | ⟨-, -, m', heq, hmore⟩ := h.reserve_cases owner bytes
  · rw [heq] at hok
    cases hok
  · rw [heq] at hok
    cases hok
  · rw [heq] at hok ⊢
    obtain rfl := Except.ok.inj hok
    exact ⟨rfl, hmore⟩

/-- What is given back leaves an owner with that much less. -/
theorem Accounted.holdsMore (h : m.Accounted) {freed : MemorySize}
    (hfreed : freed.bytes.toNat ≤ (m.held owner).bytes.toNat)
    (hused : m'.used = ⟨m.used.bytes - freed.bytes⟩)
    (hheld : ∀ other, m'.held other =
      if other = owner then ⟨(m.held owner).bytes - freed.bytes⟩ else m.held other)
    (hpageSize : m'.pageSize = m.pageSize) (htotal : m'.total = m.total)
    (hshutdown : m'.isShutdown = m.isShutdown) : m'.HoldsMore m owner freed := by
  have hle := h.held_le owner
  refine ⟨?_, ?_, fun other hother => ?_, hpageSize.symm, htotal.symm, hshutdown.symm⟩
  · rw [hused, UInt64.toNat_sub_of_le _ _ (UInt64.le_iff_toNat_le.2 (Nat.le_trans hfreed hle))]
    omega
  · rw [hheld, if_pos rfl, UInt64.toNat_sub_of_le _ _ (UInt64.le_iff_toNat_le.2 hfreed)]
    omega
  · rw [hheld, if_neg hother]

theorem HoldsMore.zero (m : ManagedMemory) (owner : String) : m.HoldsMore m owner .zero :=
  ⟨rfl, rfl, fun _ _ => rfl, rfl, rfl, rfl⟩

/-- An owner gives back what it wants to, but no more than it holds. -/
theorem Accounted.release_holdsMore (h : m.Accounted) (owner : String) (bytes : UInt64) :
    (m.release owner bytes).2.HoldsMore m owner (m.release owner bytes).1 ∧
      (m.release owner bytes).1.bytes.toNat =
        min (m.roundUp bytes).bytes.toNat (m.held owner).bytes.toNat := by
  unfold ManagedMemory.release
  cases hget : m.holdings.get? owner with
  | none =>
    have hheld : m.held owner = .zero := by
      unfold held
      rw [hget]
      rfl
    rw [hheld]
    exact ⟨.zero m owner, (Nat.min_zero _).symm⟩
  | some held =>
    have hheld : m.held owner = held := by
      unfold ManagedMemory.held
      rw [hget, Option.getD_some]
    dsimp only
    have hfreed : (if m.roundUp bytes ≤ held then m.roundUp bytes else held).bytes.toNat =
        min (m.roundUp bytes).bytes.toNat (m.held owner).bytes.toNat := by
      rw [hheld]
      split
      · rename_i hle
        exact (Nat.min_eq_left (UInt64.le_iff_toNat_le.1 hle)).symm
      · rename_i hnot
        have hlt := mt UInt64.le_iff_toNat_le.2 hnot
        omega
    generalize (if m.roundUp bytes ≤ held then m.roundUp bytes else held) = freed at hfreed ⊢
    refine ⟨h.holdsMore (by omega) rfl (fun other => ?_) rfl rfl rfl, hfreed⟩
    rw [hheld]
    -- an owner that is left with nothing loses its entry
    by_cases hall : held = freed
    · rw [held_of_erase (if_pos hall), hall, UInt64.sub_self]
      rfl
    · exact held_of_insert (if_neg hall) other

theorem Accounted.releaseAll_holdsMore (h : m.Accounted) (owner : String) :
    (m.releaseAll owner).2.HoldsMore m owner (m.releaseAll owner).1 ∧
      (m.releaseAll owner).1 = m.held owner := by
  refine ⟨h.holdsMore (Nat.le_refl _) rfl (fun other => ?_) rfl rfl rfl, rfl⟩
  rw [held_of_erase (m := m) rfl]
  congr 1
  show MemorySize.zero = ⟨(m.held owner).bytes - (m.held owner).bytes⟩
  rw [UInt64.sub_self]
  rfl

/-! ## Memories that cannot be told apart -/

theorem Alike.refl (m : ManagedMemory) : m.Alike m := ⟨rfl, rfl, rfl, rfl, fun _ => rfl⟩

theorem Alike.more (h : low.Alike low') (hm : low.HoldsMore high owner amount)
    (hm' : low'.HoldsMore high' owner amount) : high.Alike high' := by
  refine ⟨?_, ?_, MemorySize.ext_toNat ?_, ?_, fun other => ?_⟩
  · rw [hm'.pageSize, h.pageSize, hm.pageSize]
  · rw [hm'.total, h.total, hm.total]
  · rw [hm'.used, h.used, hm.used]
  · rw [hm'.isShutdown, h.isShutdown, hm.isShutdown]
  · by_cases hother : other = owner
    · subst hother
      refine MemorySize.ext_toNat ?_
      rw [hm'.own, h.held, hm.own]
    · rw [hm'.others other hother, h.held, hm.others other hother]

theorem Alike.less (h : high.Alike high') (hm : low.HoldsMore high owner amount)
    (hm' : low'.HoldsMore high' owner amount) : low.Alike low' := by
  refine ⟨?_, ?_, MemorySize.ext_toNat ?_, ?_, fun other => ?_⟩
  · rw [← hm'.pageSize, h.pageSize, hm.pageSize]
  · rw [← hm'.total, h.total, hm.total]
  · have := hm'.used
    rw [h.used, hm.used] at this
    omega
  · rw [← hm'.isShutdown, h.isShutdown, hm.isShutdown]
  · by_cases hother : other = owner
    · subst hother
      refine MemorySize.ext_toNat ?_
      have := hm'.own
      rw [h.held, hm.own] at this
      omega
    · rw [← hm'.others other hother, h.held, hm.others other hother]

theorem Alike.roundUp (h : m.Alike m') (bytes : UInt64) : m'.roundUp bytes = m.roundUp bytes := by
  unfold ManagedMemory.roundUp
  rw [h.pageSize]

theorem Alike.reserve (h : m.Alike m') (owner : String) (bytes : UInt64) :
    (m'.reserve owner bytes).1 = (m.reserve owner bytes).1 := by
  have havailable : m'.available = m.available := by
    unfold available
    rw [h.total, h.used]
  unfold ManagedMemory.reserve
  dsimp only
  rw [h.isShutdown, h.roundUp, havailable]
  split
  · rfl
  · split <;> rfl

/-- Their users are told the same, and they stay alike. -/
theorem Alike.run (h : m.Alike m') (ha : m.Accounted) (ha' : m'.Accounted) (use : MemoryUse) :
    use.answer m' = use.answer m ∧ (use.run m).Alike (use.run m') := by
  cases use with
  | reserve owner bytes =>
    have hsame := h.reserve owner bytes
    refine ⟨hsame, ?_⟩
    show (m.reserve owner bytes).2.Alike (m'.reserve owner bytes).2
    cases hanswer : (m.reserve owner bytes).1 with
    | error error =>
      rw [hanswer] at hsame
      rw [ha.reserve_of_error hanswer, ha'.reserve_of_error hsame]
      exact h
    | ok amount =>
      rw [hanswer] at hsame
      exact h.more (ha.reserve_of_ok hanswer).2 (ha'.reserve_of_ok hsame).2
  | release owner bytes =>
    obtain ⟨hless, hfreed⟩ := ha.release_holdsMore owner bytes
    obtain ⟨hless', hfreed'⟩ := ha'.release_holdsMore owner bytes
    have hsame : (m'.release owner bytes).1 = (m.release owner bytes).1 := by
      refine MemorySize.ext_toNat ?_
      rw [hfreed', hfreed, h.roundUp, h.held]
    rw [hsame] at hless'
    exact ⟨congrArg Except.ok hsame, h.less hless hless'⟩
  | releaseAll owner =>
    obtain ⟨hless, hfreed⟩ := ha.releaseAll_holdsMore owner
    obtain ⟨hless', hfreed'⟩ := ha'.releaseAll_holdsMore owner
    have hsame : (m'.releaseAll owner).1 = (m.releaseAll owner).1 := by
      rw [hfreed', hfreed, h.held]
    rw [hsame] at hless'
    exact ⟨congrArg Except.ok hsame, h.less hless hless'⟩
  | shutdown => exact ⟨rfl, h.pageSize, h.total, h.used, rfl, h.held⟩

/-- Whatever is done with them later, their users are told the same. -/
theorem Alike.answers (h : m.Alike m') (ha : m.Accounted) (ha' : m'.Accounted) (uses : List MemoryUse) :
    answers uses m' = answers uses m := by
  induction uses generalizing m m' with
  | nil => rfl
  | cons use rest ih =>
    obtain ⟨hanswer, hrun⟩ := h.run ha ha' use
    unfold ManagedMemory.answers
    rw [hanswer, ih hrun (ha.run use) (ha'.run use)]

/-! ## After any uses -/

/-- What a reservation comes to. -/
structure Reserves (m : ManagedMemory) (owner : String) (bytes : UInt64) : Prop where
  shutdown : (m.reserve owner bytes).1 = .error .shutdown ↔ m.isShutdown = true
  insufficient : ∀ requested available,
    (m.reserve owner bytes).1 = .error (.insufficient requested available) ↔
      m.isShutdown = false ∧ requested = m.roundUp bytes ∧ available = m.available ∧
        m.total.bytes.toNat - m.used.bytes.toNat < (m.roundUp bytes).bytes.toNat
  failed : ∀ error, (m.reserve owner bytes).1 = .error error → (m.reserve owner bytes).2 = m
  taken : ∀ amount, (m.reserve owner bytes).1 = .ok amount →
    amount = m.roundUp bytes ∧ m.HoldsMore (m.reserve owner bytes).2 owner amount
  /-- If as much is released at once, it is as if nothing had been reserved. -/
  undone : ∀ amount, (m.reserve owner bytes).1 = .ok amount →
    let (freed, m') := (m.reserve owner bytes).2.release owner bytes
    freed = amount ∧ m.Alike m' ∧ ∀ later, answers later m' = answers later m

/-- What a release comes to, of some bytes or of all. -/
structure Releases (m : ManagedMemory) (owner : String) : Prop where
  some : ∀ bytes, (m.release owner bytes).2.HoldsMore m owner (m.release owner bytes).1 ∧
    (m.release owner bytes).1.bytes.toNat =
      min (m.roundUp bytes).bytes.toNat (m.held owner).bytes.toNat
  all : (m.releaseAll owner).2.HoldsMore m owner (m.releaseAll owner).1 ∧
    (m.releaseAll owner).1 = m.held owner

/-- An owner that has just taken an amount holds enough to give all of it back. -/
theorem Accounted.release_of_reserve (h : m.Accounted) (hok : (m.reserve owner bytes).1 = .ok amount) :
    ((m.reserve owner bytes).2.release owner bytes).1 = amount ∧
      m.Alike ((m.reserve owner bytes).2.release owner bytes).2 := by
  obtain ⟨hamount, hmore⟩ := h.reserve_of_ok hok
  have hkept : (m.reserve owner bytes).2.Accounted := h.reserve
  obtain ⟨hless, hfreed⟩ := hkept.release_holdsMore owner bytes
  have hroundUp : (m.reserve owner bytes).2.roundUp bytes = amount := by
    rw [hamount]
    unfold roundUp
    rw [hmore.pageSize]
  have hall : ((m.reserve owner bytes).2.release owner bytes).1 = amount := by
    refine MemorySize.ext_toNat ?_
    rw [hfreed, hroundUp, hmore.own]
    exact Nat.min_eq_left (Nat.le_add_left _ _)
  rw [hall] at hless
  exact ⟨hall, (Alike.refl _).less hmore hless⟩

theorem Accounted.reserves (h : m.Accounted) (owner : String) (bytes : UInt64) :
    m.Reserves owner bytes := by
  refine ⟨?_, fun requested available => ?_, fun _ => h.reserve_of_error, fun _ => h.reserve_of_ok,
    fun amount hok => ?_⟩
  · obtain ⟨hs, heq⟩ | ⟨hs, -, heq⟩ | ⟨hs, -, m', heq, -⟩ := h.reserve_cases owner bytes <;>
      simp [heq, hs]
  · obtain ⟨hs, heq⟩ | ⟨hs, hless, heq⟩ | ⟨hs, hfit, m', heq, -⟩ := h.reserve_cases owner bytes
    · simp [heq, hs]
    · simp [heq, hs, hless, eq_comm]
    · simp [heq, hs, Nat.not_lt.2 hfit]
  · obtain ⟨hall, halike⟩ := h.release_of_reserve hok
    have hkept : ((m.reserve owner bytes).2.release owner bytes).2.Accounted := h.reserve.release.1
    exact ⟨hall, halike, halike.answers h hkept⟩

theorem Accounted.releases (h : m.Accounted) (owner : String) : m.Releases owner :=
  ⟨h.release_holdsMore owner, h.releaseAll_holdsMore owner⟩

theorem pageSize_run (use : MemoryUse) (h : m.Accounted) :
    (use.run m).pageSize = m.pageSize ∧ (use.run m).total = m.total := by
  cases use with
  | reserve owner bytes =>
    show (m.reserve owner bytes).2.pageSize = _ ∧ (m.reserve owner bytes).2.total = _
    cases hanswer : (m.reserve owner bytes).1 with
    | error error =>
      rw [h.reserve_of_error hanswer]
      exact ⟨rfl, rfl⟩
    | ok amount =>
      obtain ⟨-, hmore⟩ := h.reserve_of_ok hanswer
      exact ⟨hmore.pageSize, hmore.total⟩
  | release owner bytes =>
    obtain ⟨hless, -⟩ := h.release_holdsMore owner bytes
    exact ⟨hless.pageSize.symm, hless.total.symm⟩
  | releaseAll owner => exact ⟨rfl, rfl⟩
  | shutdown => exact ⟨rfl, rfl⟩

/-- After any uses, what is used is what the owners hold together and no more than there is, a reservation
takes the pages it asks for if the memory is not shut down and there are enough left, and else takes
nothing, and no owner gives back more than it holds. Once the memory is shut down, no more is taken. -/
theorem holdings_of_new {total : MemorySize} {pageSize : UInt64} {created : ManagedMemory}
    (hnew : new? total pageSize = some created) (uses : List MemoryUse) :
    let m := created.afterAll uses
    m.Accounted ∧ m.total = total ∧ m.pageSize = pageSize ∧
      m.available.bytes.toNat + m.used.bytes.toNat = total.bytes.toNat ∧
      (∀ bytes, bytes.toNat ≤ (m.roundUp bytes).bytes.toNat ∧
        (pageSize.toNat ∣ (m.roundUp bytes).bytes.toNat ∨
          (m.roundUp bytes).bytes.toNat = UInt64.size - 1) ∧
        ∀ pages, bytes.toNat ≤ pages * pageSize.toNat →
          (m.roundUp bytes).bytes.toNat ≤ pages * pageSize.toNat) ∧
      (∀ owner bytes, m.Reserves owner bytes) ∧ (∀ owner, m.Releases owner) ∧
      (m.isShutdown = true → ∀ later,
        (m.afterAll later).used.bytes.toNat ≤ m.used.bytes.toNat ∧
        ∀ owner bytes, (m.afterAll later).reserve owner bytes = (.error .shutdown, m.afterAll later)) := by
  have hpage : pageSize ≠ 0 ∧ created.pageSize = pageSize ∧ created.total = total := by
    unfold new? at hnew
    split at hnew
    · cases hnew
    · rename_i hpage
      obtain rfl := Option.some.inj hnew
      exact ⟨hpage, rfl, rfl⟩
  intro m
  obtain ⟨ha, hsize, htotal⟩ : m.Accounted ∧ m.pageSize = pageSize ∧ m.total = total := by
    refine afterAll_keeps (P := fun m => m.Accounted ∧ m.pageSize = pageSize ∧ m.total = total)
      (fun m use hm => ?_) ⟨.new hnew, hpage.2⟩ uses
    obtain ⟨hsize, htotal⟩ := pageSize_run use hm.1
    exact ⟨hm.1.run use, hsize.trans hm.2.1, htotal.trans hm.2.2⟩
  refine ⟨ha, htotal, hsize, ?_, fun bytes => ?_, ha.reserves, ha.releases, fun hshutdown later => ?_⟩
  · rw [ha.toNat_available, htotal]
  · rw [← hsize]
    exact roundUp_least (hsize ▸ hpage.1) bytes
  · -- what is used grows with no use of a memory that is shut down, and it stays shut down
    obtain ⟨ha', hshutdown', hused⟩ := afterAll_keeps
      (P := fun m' => m'.Accounted ∧ m'.isShutdown = true ∧ m'.used.bytes.toNat ≤ m.used.bytes.toNat)
      (fun m' use hm' => ⟨hm'.1.run use, isShutdown_run use hm'.2.1,
        Nat.le_trans (hm'.1.used_run_le use hm'.2.1) hm'.2.2⟩)
      ⟨ha, hshutdown, Nat.le_refl _⟩ later
    refine ⟨hused, fun owner bytes => ?_⟩
    obtain ⟨-, heq⟩ | ⟨hs, -⟩ | ⟨hs, -⟩ := ha'.reserve_cases owner bytes
    · exact heq
    · rw [hs] at hshutdown'
      cases hshutdown'
    · rw [hs] at hshutdown'
      cases hshutdown'

/-- Two owners, one of which takes a page that it gives back. -/
theorem holdings_of_new_undone : ∃ created, new? ⟨10000⟩ 4096 = some created ∧
    let m := created.afterAll [.reserve "a" 1, .reserve "b" 0]
    (m.reserve "b" 4097).1 = .error (.insufficient ⟨8192⟩ ⟨5904⟩) ∧ m.Reserves "b" 4097 ∧
      (m.reserve "b" 4096).1 = .ok ⟨4096⟩ ∧ m.Reserves "b" 4096 := by
  obtain ⟨-, -, -, -, -, hreserves, -⟩ :=
    @holdings_of_new ⟨10000⟩ 4096 _ rfl [.reserve "a" 1, .reserve "b" 0]
  exact ⟨_, rfl, rfl, hreserves _ _, rfl, hreserves _ _⟩

/-- More is asked of a memory that is shut down than is left of it: it is not for this reason that it is
refused. -/
theorem not_insufficient_of_shutdown : ∃ created, new? ⟨4096⟩ 4096 = some created ∧
    let m := created.afterAll [.shutdown]
    ¬ ((∃ requested available,
        (m.reserve "t1" 8192).1 = .error (.insufficient requested available)) ↔
      m.total.bytes.toNat - m.used.bytes.toNat < (m.roundUp 8192).bytes.toNat) := by
  refine ⟨_, rfl, fun hiff => ?_⟩
  obtain ⟨requested, available, herror⟩ := hiff.2 (by decide)
  cases herror

end ManagedMemory

end WorkerSlots
