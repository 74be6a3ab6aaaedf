import WorkerSlots.SortedMap
import WorkerSlots.Word

/-!
# Named amounts

`Amounts` : an amount for every name, zero for all but finitely many. Zero amounts are not stored,
so equal amounts are equal values (`Amounts.ext_amount`).

* `amount`, `set` : the amount of one name;
* `le`, `add?`, `subSat`, `share` : name by name.
-/

namespace WorkerSlots

/-- Amounts by name, the stored ones positive. -/
structure Amounts where
  stored : SortedMap String UInt64
  positive : ∀ name, stored.get? name ≠ some 0

namespace Amounts

def none : Amounts := ⟨.empty, by simp⟩

instance : Inhabited Amounts := ⟨none⟩

instance : DecidableEq Amounts := fun a b =>
  decidable_of_iff (a.stored = b.stored) (by cases a; cases b; simp)

def amount (a : Amounts) (name : String) : UInt64 := (a.stored.get? name).getD 0

/-- The positive amounts, in the order of their names. -/
def toList (a : Amounts) : List (String × UInt64) := a.stored.entries

def isEmpty (a : Amounts) : Bool := a.stored.isEmpty

def set (a : Amounts) (name : String) (value : UInt64) : Amounts :=
  if h : value = 0 then
    ⟨a.stored.erase name, fun n => by
      rw [SortedMap.get?_erase]
      split
      · simp
      · exact a.positive n⟩
  else
    ⟨a.stored.insert name value, fun n => by
      rw [SortedMap.get?_insert]
      split
      · simpa using h
      · exact a.positive n⟩

/-- Changes every positive amount; what becomes zero is not stored. -/
def mapAmounts (f : String → UInt64 → UInt64) (a : Amounts) : Amounts where
  stored := a.stored.filterMap fun name x => if f name x = 0 then .none else some (f name x)
  positive name := by
    rw [SortedMap.get?_filterMap]
    cases a.stored.get? name with
    | none => simp
    | some x =>
      simp only [Option.bind_some, ne_eq]
      split
      · simp
      · simpa using ‹_›

/-- The amounts of a list; the last one of a name counts. -/
def ofList (amounts : List (String × UInt64)) : Amounts :=
  amounts.foldl (fun a e => a.set e.1 e.2) none

/-- Whether no amount is larger than the other's. -/
def le (a b : Amounts) : Bool := a.toList.all fun (name, x) => x ≤ b.amount name

def add? (a b : Amounts) : Option Amounts :=
  b.toList.foldlM (fun sum (name, x) => (Word.add? (sum.amount name) x).map (sum.set name)) a

/-- The differences, zero in place of a negative one. -/
def subSat (a b : Amounts) : Amounts := a.mapAmounts fun name x => Word.subSat x (b.amount name)

/-- Equal shares, rounded down. -/
def share (a : Amounts) (parts : UInt64) : Amounts := a.mapAmounts fun _ x => x / parts

/-! ## Amounts and equality -/

theorem amount_set (a : Amounts) (name name' : String) (value : UInt64) :
    (a.set name value).amount name' = if name' = name then value else a.amount name' := by
  unfold set
  split
  · rename_i h
    simp only [amount, SortedMap.get?_erase]
    split <;> simp [h]
  · simp only [amount, SortedMap.get?_insert]
    split <;> simp

theorem amount_mapAmounts (f : String → UInt64 → UInt64) (hf : ∀ name, f name 0 = 0)
    (a : Amounts) (name : String) : (a.mapAmounts f).amount name = f name (a.amount name) := by
  simp only [amount, mapAmounts, SortedMap.get?_filterMap]
  cases a.stored.get? name with
  | none => simp [hf]
  | some x =>
    simp only [Option.bind_some, Option.getD_some]
    split
    · simp [*]
    · simp

/-- Two values with the same amounts are equal. -/
theorem ext_amount {a b : Amounts} (h : ∀ name, a.amount name = b.amount name) : a = b := by
  have hs : a.stored = b.stored := SortedMap.ext_get? fun name => by
    have hn := h name
    have ha := a.positive name
    have hb := b.positive name
    unfold amount at hn
    cases hx : a.stored.get? name <;> cases hy : b.stored.get? name <;> simp_all
  cases a
  cases b
  simp_all

end Amounts

end WorkerSlots
