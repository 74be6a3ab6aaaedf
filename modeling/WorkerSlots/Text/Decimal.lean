import WorkerSlots.Word

/-!
# Decimal and hexadecimal digits

* `Text.word?` : the value of a run of decimal digits, if it is a word; leading zeros count for
  nothing, and the empty run has no value;
* `Text.hexValue?` : the value of a hexadecimal digit of either case;
* `Text.hexDigits` : a number in a fixed count of lower-case hexadecimal digits;
* `Text.padded` : a number in at least `width` decimal digits.
-/

namespace WorkerSlots.Text

/-- The word that a non-empty run of decimal digits denotes. -/
def word? (digits : List Char) : Option UInt64 :=
  if digits.isEmpty || !digits.all Char.isDigit then none
  else Word.ofNat? (Nat.ofDigitChars 10 digits 0)

def decimal (w : UInt64) : String := w.toNat.repr

/-- A number in at least `width` decimal digits. -/
def padded (width n : Nat) : String :=
  String.ofList ((Nat.toDigits 10 n).leftpad width '0')

def hexValue? (c : Char) : Option Nat :=
  if c.isDigit then some (c.toNat - '0'.toNat)
  else if 'a' ≤ c ∧ c ≤ 'f' then some (c.toNat - 'a'.toNat + 10)
  else if 'A' ≤ c ∧ c ≤ 'F' then some (c.toNat - 'A'.toNat + 10)
  else none

/-- The value of a run of hexadecimal digits. -/
def hexNumber? (digits : List Char) : Option Nat :=
  digits.foldlM (fun n c => (hexValue? c).map (16 * n + ·)) 0

/-- The last `width` hexadecimal digits of a number, in lower case. -/
def hexDigits : Nat → Nat → List Char
  | 0, _ => []
  | width + 1, n => hexDigits width (n / 16) ++ [Nat.digitChar (n % 16)]

theorem isDigit_of_mem_repr {n : Nat} {c : Char} (h : c ∈ n.repr.toList) : c.isDigit :=
  Nat.isDigit_of_mem_toDigits (b := 10) (by decide) (by decide) (by rwa [Nat.toList_repr] at h)

/-- A word's decimal digits read back as the word. -/
theorem word?_decimal (w : UInt64) : word? (decimal w).toList = some w := by
  have hd : (decimal w).toList.all Char.isDigit = true :=
    List.all_eq_true.2 fun c hc => isDigit_of_mem_repr hc
  have hn : (decimal w).toList.isEmpty = false := by
    simp [decimal, Nat.toList_repr, Nat.toDigits_ne_nil]
  rw [word?, hd, hn]
  simp [decimal, Nat.toList_repr, Nat.ofDigitChars_ten_toDigits]

@[simp] theorem length_hexDigits (width n : Nat) : (hexDigits width n).length = width := by
  induction width generalizing n with
  | zero => rfl
  | succ width ih => simp [hexDigits, ih]

end WorkerSlots.Text
