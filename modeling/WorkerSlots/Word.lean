/-!
# 64-bit amounts

Amounts, indices and delays are 64-bit words. Arithmetic on them is either checked, and then
fails where the exact result does not fit, or saturating, and then stops at the ends of the range.

* `Word.ofNat?` : the word of a number, if it fits;
* `Word.add?`, `Word.sub?`, `Word.mul?` : exact results only;
* `Word.clamp`, `Word.addSat`, `Word.subSat` : results moved into the range.
-/

namespace WorkerSlots.Word

/-- The word of a number, if it has one. -/
def ofNat? (n : Nat) : Option UInt64 :=
  if h : n < UInt64.size then some (UInt64.ofNatLT n h) else none

def add? (a b : UInt64) : Option UInt64 := ofNat? (a.toNat + b.toNat)

/-- The exact difference; there is none below zero. -/
def sub? (a b : UInt64) : Option UInt64 :=
  if b ≤ a then some (a - b) else none

def mul? (a b : UInt64) : Option UInt64 := ofNat? (a.toNat * b.toNat)

/-- A number as a word, the largest word if it is no smaller. -/
def clamp (n : Nat) : UInt64 := (ofNat? n).getD (UInt64.ofNatLT (UInt64.size - 1) (by decide))

/-- The sum, or the largest word. -/
def addSat (a b : UInt64) : UInt64 := clamp (a.toNat + b.toNat)

/-- The difference, or zero. -/
def subSat (a b : UInt64) : UInt64 := clamp (a.toNat - b.toNat)

/-! ## Values -/

theorem ofNat?_eq_some_iff {n : Nat} {w : UInt64} : ofNat? n = some w ↔ w.toNat = n := by
  unfold ofNat?
  split
  · rename_i h
    rw [Option.some.injEq]
    constructor
    · rintro rfl; exact UInt64.toNat_ofNatLT
    · rintro rfl; exact UInt64.toNat_inj.1 UInt64.toNat_ofNatLT
  · rename_i h
    simp only [reduceCtorEq, false_iff]
    rintro rfl
    exact h w.toNat_lt_size

theorem ofNat?_eq_none_iff {n : Nat} : ofNat? n = none ↔ UInt64.size ≤ n := by
  unfold ofNat?
  split <;> simp <;> omega

@[simp] theorem ofNat?_toNat (w : UInt64) : ofNat? w.toNat = some w :=
  ofNat?_eq_some_iff.2 rfl

theorem add?_eq_some_iff {a b w : UInt64} : add? a b = some w ↔ w.toNat = a.toNat + b.toNat :=
  ofNat?_eq_some_iff

theorem toNat_clamp (n : Nat) : (clamp n).toNat = min n (UInt64.size - 1) := by
  unfold clamp
  cases h : ofNat? n with
  | some w =>
    have hw := ofNat?_eq_some_iff.1 h
    have := w.toNat_lt_size
    simp only [Option.getD_some, hw]
    omega
  | none =>
    have := ofNat?_eq_none_iff.1 h
    simp only [Option.getD_none, UInt64.toNat_ofNatLT]
    omega

theorem toNat_subSat (a b : UInt64) : (subSat a b).toNat = a.toNat - b.toNat := by
  have := a.toNat_lt_size
  rw [subSat, toNat_clamp]
  omega

end WorkerSlots.Word
