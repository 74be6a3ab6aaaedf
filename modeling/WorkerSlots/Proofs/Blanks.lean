import Mathlib.Data.List.TakeWhile
import WorkerSlots.Text.Blank

/-!
# Blanks around a text, and its letter case

* `AllBlank cs` : there is nothing but blanks;
* `IsTrimmed cs core` : `core` is all of `cs` but for the blanks at its two ends. There is exactly one such text,
  and it is the trimmed one (`isTrimmed_trim`, `IsTrimmed.trim_eq`);
* `toLower_cases` : only the 26 letters from A to Z have another lower case. So blanks and digits stay what they
  are (`isBlank_toLower`, `isDigit_toLower`), and folding the case of a text commutes with trimming it and with
  cutting it after its first digits (`trim_lower`, `takeWhile_isDigit_lower`, `dropWhile_isDigit_lower`).
-/

namespace WorkerSlots.Text

variable {c : Char} {cs core left right : List Char}

/-! ## Where a run of characters ends -/

section Runs

variable {p : Char → Bool} {run rest : List Char}

theorem dropWhile_of_head? (h : ∀ c ∈ rest.head?, p c = false) : rest.dropWhile p = rest := by
  cases rest with
  | nil => rfl
  | cons c cs => exact List.dropWhile_cons_of_neg (by simp [h c rfl])

/-- A run that is followed by some other character ends there. -/
theorem dropWhile_append_run (hrun : ∀ c ∈ run, p c = true) (hrest : ∀ c ∈ rest.head?, p c = false) :
    (run ++ rest).dropWhile p = rest := by
  rw [List.dropWhile_append_of_pos hrun, dropWhile_of_head? hrest]

theorem takeWhile_append_run (hrun : ∀ c ∈ run, p c = true) (hrest : ∀ c ∈ rest.head?, p c = false) :
    (run ++ rest).takeWhile p = run := by
  have hnone : rest.takeWhile p = [] := by
    cases rest with
    | nil => rfl
    | cons c cs => exact List.takeWhile_cons_of_neg (by simp [hrest c rfl])
  rw [List.takeWhile_append_of_pos hrun, hnone, List.append_nil]

theorem of_mem_head?_dropWhile (h : c ∈ (cs.dropWhile p).head?) : p c = false := by
  have hhead := List.head?_dropWhile_not p cs
  rw [Option.mem_def.1 h] at hhead
  exact hhead

end Runs

/-! ## Trimming -/

/-- There is nothing but blanks. -/
def AllBlank (cs : List Char) : Prop := ∀ c ∈ cs, isBlank c = true

theorem AllBlank.nil : AllBlank [] := by simp [AllBlank]

theorem AllBlank.append (hleft : AllBlank left) (hright : AllBlank right) : AllBlank (left ++ right) := by
  intro c hc
  rcases List.mem_append.1 hc with hc | hc
  · exact hleft c hc
  · exact hright c hc

/-- One text is all of another but for the blanks at its two ends. -/
structure IsTrimmed (cs core : List Char) : Prop where
  surrounded : ∃ left right, cs = left ++ core ++ right ∧ AllBlank left ∧ AllBlank right
  first : ∀ c ∈ core.head?, isBlank c = false
  last : ∀ c ∈ core.getLast?, isBlank c = false

theorem isTrimmed_trim (cs : List Char) : IsTrimmed cs (trim cs) := by
  have hfront : cs.takeWhile isBlank ++ cs.dropWhile isBlank = cs := List.takeWhile_append_dropWhile
  -- the blanks at the end are the first ones of the reversed text
  have hback : cs.dropWhile isBlank =
      trim cs ++ ((cs.dropWhile isBlank).reverse.takeWhile isBlank).reverse := by
    rw [trim, ← List.reverse_append, List.takeWhile_append_dropWhile, List.reverse_reverse]
  refine ⟨⟨cs.takeWhile isBlank, ((cs.dropWhile isBlank).reverse.takeWhile isBlank).reverse, ?_, ?_, ?_⟩,
    fun c hc => ?_, fun c hc => ?_⟩
  · rw [List.append_assoc, ← hback, hfront]
  · intro c hc
    exact List.mem_takeWhile_imp hc
  · intro c hc
    exact List.mem_takeWhile_imp (List.mem_reverse.1 hc)
  · have hhead : c ∈ (cs.dropWhile isBlank).head? := by
      rw [hback, List.head?_append, Option.mem_def.1 hc]
      rfl
    exact of_mem_head?_dropWhile hhead
  · rw [trim, List.getLast?_reverse] at hc
    exact of_mem_head?_dropWhile hc

/-- No other text than the trimmed one is all of the text but for the blanks at its ends. -/
theorem IsTrimmed.trim_eq (h : IsTrimmed cs core) : trim cs = core := by
  obtain ⟨⟨left, right, rfl, hleft, hright⟩, hfirst, hlast⟩ := h
  unfold trim
  rw [List.append_assoc, List.dropWhile_append_of_pos hleft]
  cases core with
  | nil =>
    rw [List.nil_append, List.dropWhile_eq_nil_iff.2 hright]
    rfl
  | cons c cs =>
    -- the first character of the core ends the blanks before it, and its last one those after it
    have hback : ∀ d ∈ right.reverse, isBlank d = true := fun d hd => hright d (List.mem_reverse.1 hd)
    have hends : (c :: cs ++ right).dropWhile isBlank = c :: cs ++ right := dropWhile_of_head? hfirst
    rw [← List.head?_reverse] at hlast
    rw [hends, List.reverse_append,
      dropWhile_append_run hback hlast, List.reverse_reverse]

/-- A text without blanks is what is left of it and any blanks around it. -/
theorem isTrimmed_of_solid (hleft : AllBlank left) (hcore : ∀ c ∈ core, isBlank c = false)
    (hright : AllBlank right) : IsTrimmed (left ++ core ++ right) core where
  surrounded := ⟨left, right, rfl, hleft, hright⟩
  first c hc := hcore c (List.mem_of_mem_head? hc)
  last c hc := hcore c (List.mem_of_mem_getLast? hc)

theorem trim_eq_nil_iff : trim cs = [] ↔ AllBlank cs := by
  constructor
  · intro h
    obtain ⟨left, right, hcs, hleft, hright⟩ := (isTrimmed_trim cs).surrounded
    rw [h, List.append_nil] at hcs
    rw [hcs]
    exact hleft.append hright
  · intro h
    have hcore : IsTrimmed (cs ++ [] ++ []) [] := isTrimmed_of_solid h (by simp) .nil
    rw [List.append_nil, List.append_nil] at hcore
    exact hcore.trim_eq

/-! ## Letter case -/

/-- A character is its own lower case, unless it is one of the letters from A to Z. -/
theorem toLower_cases (c : Char) :
    c.toLower = c ∨ 65 ≤ c.toNat ∧ c.toNat ≤ 90 ∧ c.toLower.toNat = c.toNat + 32 := by
  unfold Char.toLower
  split
  · rename_i h
    obtain ⟨hlow, hhigh⟩ := h
    have hlow : 65 ≤ c.toNat := UInt32.le_iff_toNat_le.1 hlow
    have hhigh : c.toNat ≤ 90 := UInt32.le_iff_toNat_le.1 hhigh
    refine .inr ⟨hlow, hhigh, ?_⟩
    show (c.val + 32).toNat = c.toNat + 32
    rw [UInt32.toNat_add]
    have hval : c.val.toNat = c.toNat := rfl
    have h32 : (32 : UInt32).toNat = 32 := rfl
    omega
  · exact .inl rfl

theorem isDigit_iff : c.isDigit = true ↔ 48 ≤ c.toNat ∧ c.toNat ≤ 57 := by
  unfold Char.isDigit
  rw [Bool.and_eq_true, decide_eq_true_eq, decide_eq_true_eq]
  exact and_congr UInt32.le_iff_toNat_le UInt32.le_iff_toNat_le

theorem isBlank_iff : isBlank c = true ↔ ∃ r ∈ blankRanges, r.1 ≤ c.toNat ∧ c.toNat ≤ r.2 := by
  simp [isBlank, List.any_eq_true]

theorem isDigit_toLower (c : Char) : c.toLower.isDigit = c.isDigit := by
  rcases toLower_cases c with h | ⟨hlow, hhigh, h⟩
  · rw [h]
  · rw [Bool.eq_iff_iff, isDigit_iff, isDigit_iff, h]
    omega

theorem isBlank_toLower (c : Char) : isBlank c.toLower = isBlank c := by
  rcases toLower_cases c with h | ⟨hlow, hhigh, h⟩
  · rw [h]
  · rw [Bool.eq_iff_iff, isBlank_iff, isBlank_iff, h]
    simp only [blankRanges, List.mem_cons, List.not_mem_nil, or_false, exists_eq_or_imp, exists_eq_left]
    omega

theorem toLower_of_isDigit (h : c.isDigit = true) : c.toLower = c := by
  have hc := isDigit_iff.1 h
  rcases toLower_cases c with h | ⟨hlow, -, -⟩
  · exact h
  · omega

theorem isBlank_of_isDigit (h : c.isDigit = true) : isBlank c = false := by
  have hc := isDigit_iff.1 h
  rw [Bool.eq_false_iff, ne_eq, isBlank_iff]
  simp only [blankRanges, List.mem_cons, List.not_mem_nil, or_false, exists_eq_or_imp, exists_eq_left]
  omega

theorem isDigit_of_isBlank (h : isBlank c = true) : c.isDigit = false := by
  rw [Bool.eq_false_iff]
  intro hdigit
  rw [isBlank_of_isDigit hdigit] at h
  cases h

theorem lower_append (cs ds : List Char) : lower (cs ++ ds) = lower cs ++ lower ds := List.map_append

theorem lower_eq_append_iff :
    lower cs = left ++ right ↔ ∃ front back, cs = front ++ back ∧ lower front = left ∧ lower back = right :=
  List.map_eq_append_iff

theorem lower_of_digits (h : ∀ c ∈ cs, c.isDigit = true) : lower cs = cs := by
  have hid := List.map_congr_left fun c hc => toLower_of_isDigit (h c hc)
  rwa [List.map_id'] at hid

/-- Digits are told from their lower case. -/
theorem eq_of_lower_eq {digits : List Char} (hdigits : ∀ c ∈ digits, c.isDigit = true) (h : lower cs = digits) :
    cs = digits := by
  have hcs : ∀ c ∈ cs, c.isDigit = true := by
    intro c hc
    rw [← isDigit_toLower]
    refine hdigits c.toLower ?_
    rw [← h]
    exact List.mem_map_of_mem hc
  rw [← h, lower_of_digits hcs]

theorem allBlank_lower_iff : AllBlank (lower cs) ↔ AllBlank cs := by
  unfold AllBlank lower
  rw [List.forall_mem_map]
  exact forall₂_congr fun c _ => by rw [isBlank_toLower]

theorem dropWhile_isBlank_lower (cs : List Char) :
    (lower cs).dropWhile isBlank = lower (cs.dropWhile isBlank) := by
  have hsame : isBlank ∘ Char.toLower = isBlank := funext isBlank_toLower
  rw [lower, List.dropWhile_map, hsame, lower]

theorem trim_lower (cs : List Char) : trim (lower cs) = lower (trim cs) := by
  have hreverse : ∀ ds, (lower ds).reverse = lower ds.reverse := fun ds => List.map_reverse.symm
  unfold trim
  rw [dropWhile_isBlank_lower, hreverse, dropWhile_isBlank_lower, hreverse]

theorem takeWhile_isDigit_lower (cs : List Char) :
    (lower cs).takeWhile Char.isDigit = cs.takeWhile Char.isDigit := by
  have hsame : Char.isDigit ∘ Char.toLower = Char.isDigit := funext isDigit_toLower
  rw [lower, List.takeWhile_map, hsame]
  exact lower_of_digits fun c hc => List.mem_takeWhile_imp hc

theorem dropWhile_isDigit_lower (cs : List Char) :
    (lower cs).dropWhile Char.isDigit = lower (cs.dropWhile Char.isDigit) := by
  have hsame : Char.isDigit ∘ Char.toLower = Char.isDigit := funext isDigit_toLower
  rw [lower, List.dropWhile_map, hsame, lower]

end WorkerSlots.Text
