import Mathlib.Algebra.Group.Nat.Defs
import Mathlib.Data.List.Basic
import WorkerSlots.MemorySize.Text
import WorkerSlots.Proofs.Blanks

/-!
# The texts of memory sizes

* `MemoryUnit.power`, `factor_eq` : the units are powers of 1024, and each has spellings of its own
  (`ofSpelling?_eq_some_iff`);
* `Cut text digits rest` : the digits that a text begins with and what follows them, the blanks left out. Every
  text is cut in exactly one way (`exists_cut`, `Cut.digits_eq`, `Cut.rest_eq`);
* `Reads text answer` : the rules of reading, one for each kind of answer. They say what is read
  (`ofText_eq_iff`);
* `Denotes text size` : the grammar of sizes, a number and a unit with blanks around them. A text is read as a
  size if and only if it denotes it (`reads_ok_iff`);
* `ofText_exactly` : so the reader accepts the grammar and nothing else, and names what is wrong with any other
  text;
* `toText_read_back` : a written size is read back in any letter case, and is written in its largest unit.
-/

namespace WorkerSlots

/-! ## Units -/

namespace MemoryUnit

/-- A unit is the byte multiplied by 1024 so many times. -/
def power : MemoryUnit → Nat
  | byte => 0
  | kibi => 1
  | mebi => 2
  | gibi => 3
  | tebi => 4

theorem factor_eq (u : MemoryUnit) : u.factor.toNat = 1024 ^ u.power := by
  cases u <;> decide

theorem mem_all (u : MemoryUnit) : u ∈ all := by
  cases u <;> decide

theorem eq_of_mem_spellings {u v : MemoryUnit} {spelling : String} (hu : spelling ∈ u.spellings)
    (hv : spelling ∈ v.spellings) : u = v := by
  have hdistinct : ∀ u ∈ all, ∀ v ∈ all, ∀ s ∈ u.spellings, s ∈ v.spellings → u = v := by decide
  exact hdistinct u (mem_all u) v (mem_all v) spelling hu hv

theorem mem_spellings_of_ofSpelling? {spelling : String} {u : MemoryUnit} (h : ofSpelling? spelling = some u) :
    spelling ∈ u.spellings := by
  have hfound := List.find?_some h
  exact of_decide_eq_true hfound

/-- A unit is found by its spellings only, as no two units share one. -/
theorem ofSpelling?_eq_some_iff {spelling : String} {u : MemoryUnit} :
    ofSpelling? spelling = some u ↔ spelling ∈ u.spellings := by
  constructor
  · exact mem_spellings_of_ofSpelling?
  · intro h
    cases hfind : ofSpelling? spelling with
    | none => exact absurd (decide_eq_true h) (List.find?_eq_none.1 hfind u (mem_all u))
    | some v => rw [eq_of_mem_spellings h (mem_spellings_of_ofSpelling? hfind)]

theorem ofSpelling?_eq_none_iff {spelling : String} :
    ofSpelling? spelling = none ↔ ∀ u : MemoryUnit, spelling ∉ u.spellings := by
  rw [Option.eq_none_iff_forall_ne_some]
  exact forall_congr' fun u => not_congr ofSpelling?_eq_some_iff

/-- The characters of a spelling are neither digits nor blanks. -/
theorem plain_of_mem_spellings {u : MemoryUnit} {spelling : String} (h : spelling ∈ u.spellings) :
    ∀ c ∈ spelling.toList, c.isDigit = false ∧ Text.isBlank c = false := by
  have hplain : ∀ u ∈ all, ∀ s ∈ u.spellings, s.toList.all fun c => !c.isDigit && !Text.isBlank c := by decide
  intro c hc
  have hc := List.all_eq_true.1 (hplain u (mem_all u) spelling h) c hc
  rwa [Bool.and_eq_true, Bool.not_eq_true', Bool.not_eq_true'] at hc

end MemoryUnit

/-! ## Numbers -/

namespace Text

variable {digits : List Char}

/-- The number that a run of decimal digits denotes. -/
def numberOf (digits : List Char) : Nat := Nat.ofDigitChars 10 digits 0

theorem word?_of_digits (hne : digits ≠ []) (hdigits : ∀ c ∈ digits, c.isDigit = true) :
    word? digits = Word.ofNat? (numberOf digits) := by
  have hempty : digits.isEmpty = false := by simpa using hne
  have hall : digits.all Char.isDigit = true := List.all_eq_true.2 hdigits
  rw [word?, hempty, hall]
  rfl

end Text

/-! ## The two parts of a text -/

namespace MemorySize

variable {text : String} {digits rest : List Char} {size : MemorySize} {answer : Except MemorySizeError MemorySize}

/-- The digits that a text begins with and what follows them, both without the blanks around them. -/
structure Cut (text : String) (digits rest : List Char) : Prop where
  isDigit : ∀ c ∈ digits, c.isDigit = true
  parts : ∃ tail, Text.IsTrimmed text.toList (digits ++ tail) ∧ (∀ c ∈ tail.head?, c.isDigit = false) ∧
    Text.IsTrimmed tail rest

theorem Cut.digits_eq (h : Cut text digits rest) : (Text.trim text.toList).takeWhile Char.isDigit = digits := by
  obtain ⟨tail, htext, hend, -⟩ := h.parts
  rw [htext.trim_eq, Text.takeWhile_append_run h.isDigit hend]

theorem Cut.rest_eq (h : Cut text digits rest) :
    Text.trim ((Text.trim text.toList).dropWhile Char.isDigit) = rest := by
  obtain ⟨tail, htext, hend, hrest⟩ := h.parts
  rw [htext.trim_eq, Text.dropWhile_append_run h.isDigit hend, hrest.trim_eq]

theorem Cut.unique {digits' rest' : List Char} (h : Cut text digits rest) (h' : Cut text digits' rest') :
    digits = digits' ∧ rest = rest' :=
  ⟨h.digits_eq.symm.trans h'.digits_eq, h.rest_eq.symm.trans h'.rest_eq⟩

/-- Every text can be cut. -/
theorem exists_cut (text : String) : ∃ digits rest, Cut text digits rest := by
  refine ⟨(Text.trim text.toList).takeWhile Char.isDigit,
    Text.trim ((Text.trim text.toList).dropWhile Char.isDigit), fun c hc => List.mem_takeWhile_imp hc,
    (Text.trim text.toList).dropWhile Char.isDigit, ?_, fun c hc => Text.of_mem_head?_dropWhile hc,
    Text.isTrimmed_trim _⟩
  rw [List.takeWhile_append_dropWhile]
  exact Text.isTrimmed_trim _

/-- A text of blanks has no part, and no other text has none. -/
theorem Cut.allBlank_iff (h : Cut text digits rest) : Text.AllBlank text.toList ↔ digits = [] ∧ rest = [] := by
  constructor
  · intro hblank
    have hnone := Text.trim_eq_nil_iff.2 hblank
    rw [← h.digits_eq, ← h.rest_eq, hnone]
    exact ⟨rfl, rfl⟩
  · rintro ⟨rfl, rfl⟩
    obtain ⟨tail, htext, -, hrest⟩ := h.parts
    obtain ⟨left, right, heq, hleft, hright⟩ := htext.surrounded
    have htail := Text.trim_eq_nil_iff.1 hrest.trim_eq
    rw [heq]
    exact (hleft.append htail).append hright

/-- What is read of a text that is not blank, in terms of its two parts. -/
theorem ofText_of_cut (h : Cut text digits rest) (hblank : ¬ Text.AllBlank text.toList) :
    ofText text =
      match Text.word? digits with
      | none => .error (.invalidNumber text)
      | some count =>
        match MemoryUnit.ofSpelling? (String.ofList (Text.lower rest)) with
        | none => .error (.unknownUnit (String.ofList (Text.lower rest)))
        | some unit =>
          match ofUnits? count unit with
          | none => .error (.overflow text)
          | some size => .ok size := by
  have hfolded : (Text.lower (Text.trim text.toList)).isEmpty = false := by
    rw [Text.lower, List.isEmpty_map, List.isEmpty_eq_false_iff, ne_eq, Text.trim_eq_nil_iff]
    exact hblank
  unfold ofText
  dsimp only
  rw [hfolded, Text.takeWhile_isDigit_lower, Text.dropWhile_isDigit_lower, Text.trim_lower, h.digits_eq,
    h.rest_eq]
  rfl

/-! ## The rules of reading -/

/-- What a text is read as. The rules exclude each other: each has its own condition on the two parts. -/
inductive Reads (text : String) : Except MemorySizeError MemorySize → Prop
  | empty (hblank : Text.AllBlank text.toList) : Reads text (.error .empty)
  | noNumber {rest : List Char} (hcut : Cut text [] rest) (hblank : ¬ Text.AllBlank text.toList) :
      Reads text (.error (.invalidNumber text))
  | longNumber {digits rest : List Char} (hcut : Cut text digits rest)
      (hlarge : UInt64.size ≤ Text.numberOf digits) : Reads text (.error (.invalidNumber text))
  | unknownUnit {digits rest : List Char} (hcut : Cut text digits rest) (hne : digits ≠ [])
      (hsmall : Text.numberOf digits < UInt64.size)
      (hunit : ∀ unit : MemoryUnit, String.ofList (Text.lower rest) ∉ unit.spellings) :
      Reads text (.error (.unknownUnit (String.ofList (Text.lower rest))))
  | overflow {digits rest : List Char} {unit : MemoryUnit} (hcut : Cut text digits rest) (hne : digits ≠ [])
      (hsmall : Text.numberOf digits < UInt64.size) (hunit : String.ofList (Text.lower rest) ∈ unit.spellings)
      (hlarge : UInt64.size ≤ Text.numberOf digits * 1024 ^ unit.power) : Reads text (.error (.overflow text))
  | size {digits rest : List Char} {unit : MemoryUnit} {size : MemorySize} (hcut : Cut text digits rest)
      (hne : digits ≠ []) (hunit : String.ofList (Text.lower rest) ∈ unit.spellings)
      (hbytes : size.bytes.toNat = Text.numberOf digits * 1024 ^ unit.power) : Reads text (.ok size)

theorem ofUnits?_eq_some_iff {count : UInt64} {unit : MemoryUnit} :
    ofUnits? count unit = some size ↔ size.bytes.toNat = count.toNat * 1024 ^ unit.power := by
  rw [ofUnits?, Option.map_eq_some_iff, ← MemoryUnit.factor_eq]
  constructor
  · rintro ⟨w, hw, rfl⟩
    exact Word.ofNat?_eq_some_iff.1 hw
  · intro h
    exact ⟨size.bytes, Word.ofNat?_eq_some_iff.2 h, rfl⟩

theorem ofUnits?_eq_none_iff {count : UInt64} {unit : MemoryUnit} :
    ofUnits? count unit = none ↔ UInt64.size ≤ count.toNat * 1024 ^ unit.power := by
  rw [ofUnits?, Option.map_eq_none_iff, ← MemoryUnit.factor_eq]
  exact Word.ofNat?_eq_none_iff

/-- Some rule applies to every text. -/
theorem exists_reads (text : String) : ∃ answer, Reads text answer := by
  obtain ⟨digits, rest, hcut⟩ := exists_cut text
  by_cases hblank : Text.AllBlank text.toList
  · exact ⟨_, .empty hblank⟩
  by_cases hne : digits = []
  · subst hne
    exact ⟨_, .noNumber hcut hblank⟩
  by_cases hsmall : Text.numberOf digits < UInt64.size
  · by_cases hunit : ∃ unit : MemoryUnit, String.ofList (Text.lower rest) ∈ unit.spellings
    · obtain ⟨unit, hunit⟩ := hunit
      cases hsize : Word.ofNat? (Text.numberOf digits * 1024 ^ unit.power) with
      | none => exact ⟨_, .overflow hcut hne hsmall hunit (Word.ofNat?_eq_none_iff.1 hsize)⟩
      | some w => exact ⟨.ok ⟨w⟩, .size hcut hne hunit (Word.ofNat?_eq_some_iff.1 hsize)⟩
    · exact ⟨_, .unknownUnit hcut hne hsmall (not_exists.1 hunit)⟩
  · exact ⟨_, .longNumber hcut (Nat.le_of_not_lt hsmall)⟩

/-- A number that is a word, as it stands at the beginning of a text. -/
theorem Cut.exists_count (h : Cut text digits rest) (hne : digits ≠ [])
    (hsmall : Text.numberOf digits < UInt64.size) :
    ∃ count, Text.word? digits = some count ∧ count.toNat = Text.numberOf digits := by
  rw [Text.word?_of_digits hne h.isDigit]
  cases hcount : Word.ofNat? (Text.numberOf digits) with
  | none => exact absurd (Word.ofNat?_eq_none_iff.1 hcount) (Nat.not_le_of_lt hsmall)
  | some count => exact ⟨count, rfl, Word.ofNat?_eq_some_iff.1 hcount⟩

theorem Cut.not_allBlank (h : Cut text digits rest) (hne : digits ≠ []) : ¬ Text.AllBlank text.toList :=
  fun hblank => hne (h.allBlank_iff.1 hblank).1

theorem ne_nil_of_large (h : UInt64.size ≤ Text.numberOf digits) : digits ≠ [] := by
  rintro rfl
  exact absurd h (by decide)

/-- The reader follows the rules. -/
theorem Reads.ofText_eq (h : Reads text answer) : ofText text = answer := by
  cases h with
  | empty hblank =>
    rw [ofText, Text.trim_eq_nil_iff.2 hblank]
    rfl
  | noNumber hcut hblank => rw [ofText_of_cut hcut hblank]; rfl
  | longNumber hcut hlarge =>
    have hne := ne_nil_of_large hlarge
    rw [ofText_of_cut hcut (hcut.not_allBlank hne), Text.word?_of_digits hne hcut.isDigit,
      Word.ofNat?_eq_none_iff.2 hlarge]
  | unknownUnit hcut hne hsmall hunit =>
    obtain ⟨count, hcount, -⟩ := hcut.exists_count hne hsmall
    rw [ofText_of_cut hcut (hcut.not_allBlank hne), hcount]
    simp only [MemoryUnit.ofSpelling?_eq_none_iff.2 hunit]
  | overflow hcut hne hsmall hunit hlarge =>
    obtain ⟨count, hcount, hnumber⟩ := hcut.exists_count hne hsmall
    rw [← hnumber] at hlarge
    rw [ofText_of_cut hcut (hcut.not_allBlank hne), hcount]
    simp only [MemoryUnit.ofSpelling?_eq_some_iff.2 hunit, ofUnits?_eq_none_iff.2 hlarge]
  | @size digits rest unit size hcut hne hunit hbytes =>
    have hsmall : Text.numberOf digits < UInt64.size := by
      have hpos : 0 < 1024 ^ unit.power := Nat.pow_pos (by decide)
      have hle := Nat.le_mul_of_pos_right (Text.numberOf digits) hpos
      have hlt := size.bytes.toNat_lt_size
      omega
    obtain ⟨count, hcount, hnumber⟩ := hcut.exists_count hne hsmall
    rw [← hnumber] at hbytes
    rw [ofText_of_cut hcut (hcut.not_allBlank hne), hcount]
    simp only [MemoryUnit.ofSpelling?_eq_some_iff.2 hunit, ofUnits?_eq_some_iff.2 hbytes]

theorem ofText_eq_iff : ofText text = answer ↔ Reads text answer := by
  constructor
  · rintro rfl
    obtain ⟨answer, hreads⟩ := exists_reads text
    rwa [hreads.ofText_eq]
  · exact Reads.ofText_eq

/-! ## The grammar of sizes -/

/-- A text says a size: a number, and a unit in any letter case, with blanks around each of them. A unit that is
not given is the byte. -/
inductive Denotes (text : String) (size : MemorySize) : Prop
  | intro (left digits gap word right : List Char) (unit : MemoryUnit)
      (htext : text.toList = left ++ digits ++ gap ++ word ++ right)
      (hleft : Text.AllBlank left) (hgap : Text.AllBlank gap) (hright : Text.AllBlank right)
      (hne : digits ≠ []) (hdigits : ∀ c ∈ digits, c.isDigit = true)
      (hword : String.ofList (Text.lower word) ∈ unit.spellings)
      (hbytes : size.bytes.toNat = Text.numberOf digits * 1024 ^ unit.power)

/-- The characters of a word that is a unit in some letter case are neither digits nor blanks. -/
theorem plain_of_unit {word : List Char} {unit : MemoryUnit}
    (hword : String.ofList (Text.lower word) ∈ unit.spellings) :
    ∀ c ∈ word, c.isDigit = false ∧ Text.isBlank c = false := by
  intro c hc
  have hlower : c.toLower ∈ (String.ofList (Text.lower word)).toList := by
    rw [String.toList_ofList]
    exact List.mem_map_of_mem hc
  have hplain := MemoryUnit.plain_of_mem_spellings hword c.toLower hlower
  rwa [Text.isDigit_toLower, Text.isBlank_toLower] at hplain

/-- A number and a unit are the two parts of their text. -/
theorem cut_of_unit {left gap word right : List Char} {unit : MemoryUnit}
    (htext : text.toList = left ++ digits ++ gap ++ word ++ right) (hleft : Text.AllBlank left)
    (hgap : Text.AllBlank gap) (hright : Text.AllBlank right) (hne : digits ≠ [])
    (hdigits : ∀ c ∈ digits, c.isDigit = true) (hword : String.ofList (Text.lower word) ∈ unit.spellings) :
    Cut text digits word := by
  have hplain := plain_of_unit hword
  have hsolid : ∀ c ∈ digits, Text.isBlank c = false := fun c hc => Text.isBlank_of_isDigit (hdigits c hc)
  refine ⟨hdigits, ?_⟩
  cases word with
  | nil =>
    -- the blanks after a number without a unit are those at the end of the text
    have hnumber := Text.isTrimmed_of_solid hleft hsolid (hgap.append hright)
    rw [List.append_nil, List.append_assoc (left ++ digits)] at htext
    rw [← htext] at hnumber
    have hrest : Text.IsTrimmed ([] ++ [] ++ []) [] := Text.isTrimmed_of_solid .nil (by simp) .nil
    refine ⟨[], ?_, by simp, hrest⟩
    rwa [List.append_nil]
  | cons c cs =>
    obtain ⟨d, ds, rfl⟩ := List.exists_cons_of_ne_nil hne
    refine ⟨gap ++ c :: cs, ⟨⟨left, right, ?_, hleft, hright⟩, ?_, ?_⟩, ?_, ?_⟩
    · simp only [htext, List.append_assoc]
    · intro e he
      exact hsolid e (List.mem_of_mem_head? he)
    · intro e he
      rw [← List.append_assoc, List.getLast?_append_cons] at he
      exact (hplain e (List.mem_of_mem_getLast? he)).2
    · intro e he
      cases gap with
      | nil => exact (hplain e (List.mem_of_mem_head? he)).1
      | cons b bs => exact Text.isDigit_of_isBlank (hgap e (List.mem_of_mem_head? he))
    · have htail := Text.isTrimmed_of_solid hgap (fun e he => (hplain e he).2) .nil
      rwa [List.append_nil] at htail

theorem reads_ok_iff : Reads text (.ok size) ↔ Denotes text size := by
  constructor
  · intro h
    cases h with
    | @size digits rest unit _ hcut hne hunit hbytes =>
      obtain ⟨tail, htext, -, hrest⟩ := hcut.parts
      obtain ⟨left, right, heq, hleft, hright⟩ := htext.surrounded
      obtain ⟨gap, back, rfl, hgap, hback⟩ := hrest.surrounded
      refine .intro left digits gap rest (back ++ right) unit ?_ hleft hgap (hback.append hright) hne hcut.isDigit
        hunit hbytes
      simp only [heq, List.append_assoc]
  · rintro ⟨left, digits, gap, word, right, unit, htext, hleft, hgap, hright, hne, hdigits, hword, hbytes⟩
    exact .size (cut_of_unit htext hleft hgap hright hne hdigits hword) hne hword hbytes

/-- A text is read as a size if and only if it says it. -/
theorem ofText_eq_ok_iff : ofText text = .ok size ↔ Denotes text size :=
  ofText_eq_iff.trans reads_ok_iff

/-! ## What is read of every text -/

theorem reads_empty_iff : Reads text (.error .empty) ↔ Text.AllBlank text.toList := by
  constructor
  · rintro ⟨hblank⟩
    exact hblank
  · exact .empty

theorem Cut.reads_invalidNumber_iff (hcut : Cut text digits rest) {whole : String} :
    Reads text (.error (.invalidNumber whole)) ↔ whole = text ∧ ¬ Text.AllBlank text.toList ∧
      (digits = [] ∨ UInt64.size ≤ Text.numberOf digits) := by
  constructor
  · intro h
    cases h with
    | noNumber hcut' hblank => exact ⟨rfl, hblank, .inl (hcut.unique hcut').1⟩
    | longNumber hcut' hlarge =>
      obtain ⟨rfl, rfl⟩ := hcut.unique hcut'
      exact ⟨rfl, hcut.not_allBlank (ne_nil_of_large hlarge), .inr hlarge⟩
  · rintro ⟨rfl, hblank, rfl | hlarge⟩
    · exact .noNumber hcut hblank
    · exact .longNumber hcut hlarge

theorem Cut.reads_unknownUnit_iff (hcut : Cut text digits rest) {spelling : String} :
    Reads text (.error (.unknownUnit spelling)) ↔
      digits ≠ [] ∧ Text.numberOf digits < UInt64.size ∧ spelling = String.ofList (Text.lower rest) ∧
        ∀ unit : MemoryUnit, spelling ∉ unit.spellings := by
  constructor
  · intro h
    cases h with
    | unknownUnit hcut' hne hsmall hunit =>
      obtain ⟨rfl, rfl⟩ := hcut.unique hcut'
      exact ⟨hne, hsmall, rfl, hunit⟩
  · rintro ⟨hne, hsmall, rfl, hunit⟩
    exact .unknownUnit hcut hne hsmall hunit

theorem Cut.reads_overflow_iff (hcut : Cut text digits rest) {whole : String} :
    Reads text (.error (.overflow whole)) ↔ whole = text ∧
      digits ≠ [] ∧ Text.numberOf digits < UInt64.size ∧
        ∃ unit : MemoryUnit, String.ofList (Text.lower rest) ∈ unit.spellings ∧
          UInt64.size ≤ Text.numberOf digits * 1024 ^ unit.power := by
  constructor
  · intro h
    cases h with
    | overflow hcut' hne hsmall hunit hlarge =>
      obtain ⟨rfl, rfl⟩ := hcut.unique hcut'
      exact ⟨rfl, hne, hsmall, _, hunit, hlarge⟩
  · rintro ⟨rfl, hne, hsmall, unit, hunit, hlarge⟩
    exact .overflow hcut hne hsmall hunit hlarge

/-- The reader accepts the grammar of sizes and nothing else. Any other text is refused for the first of these
that is wrong with it: it is blank, it does not begin with a number below 2^64, what follows the number is no
unit, or the size is 2^64 bytes or more. -/
theorem ofText_exactly (text : String) :
    ∃ digits rest, Cut text digits rest ∧
      (∀ size, ofText text = .ok size ↔ Denotes text size) ∧
      (ofText text = .error .empty ↔ Text.AllBlank text.toList) ∧
      (∀ whole, ofText text = .error (.invalidNumber whole) ↔
        whole = text ∧ ¬ Text.AllBlank text.toList ∧ (digits = [] ∨ UInt64.size ≤ Text.numberOf digits)) ∧
      (∀ spelling, ofText text = .error (.unknownUnit spelling) ↔
        digits ≠ [] ∧ Text.numberOf digits < UInt64.size ∧ spelling = String.ofList (Text.lower rest) ∧
          ∀ unit : MemoryUnit, spelling ∉ unit.spellings) ∧
      ∀ whole, ofText text = .error (.overflow whole) ↔
        whole = text ∧ digits ≠ [] ∧ Text.numberOf digits < UInt64.size ∧
          ∃ unit : MemoryUnit, String.ofList (Text.lower rest) ∈ unit.spellings ∧
            UInt64.size ≤ Text.numberOf digits * 1024 ^ unit.power := by
  obtain ⟨digits, rest, hcut⟩ := exists_cut text
  refine ⟨digits, rest, hcut, fun size => ofText_eq_ok_iff, ?_, fun whole => ?_, fun spelling => ?_, fun whole => ?_⟩
  · exact ofText_eq_iff.trans reads_empty_iff
  · exact ofText_eq_iff.trans hcut.reads_invalidNumber_iff
  · exact ofText_eq_iff.trans hcut.reads_unknownUnit_iff
  · exact ofText_eq_iff.trans hcut.reads_overflow_iff

/-- The unit is the first thing that is wrong here, although there is no number of gigabytes as large as this. -/
example : ofText "18446744073709551615 Gigs" = .error (.unknownUnit "gigs") := by decide

/-! ## The unit of a written size -/

variable {a : MemorySize}

theorem mod_factor_eq_zero_iff {unit : MemoryUnit} :
    a.bytes % unit.factor = 0 ↔ 1024 ^ unit.power ∣ a.bytes.toNat := by
  rw [← UInt64.toNat_inj, UInt64.toNat_mod, MemoryUnit.factor_eq, Nat.dvd_iff_mod_eq_zero]
  rfl

/-- The unit that is written is found among all units, from the largest down. -/
theorem find?_writtenUnit (hne : a.bytes ≠ 0) :
    (MemoryUnit.all.reverse.find? fun u => a.bytes % u.factor = 0) = some a.writtenUnit := by
  have hzero : a.isZero = false := by simpa [isZero] using hne
  cases hfind : MemoryUnit.all.reverse.find? fun u => a.bytes % u.factor = 0 with
  | none =>
    -- a size is divided by the byte
    have hbyte := List.find?_eq_none.1 hfind .byte (by decide)
    exact absurd (decide_eq_true (mod_factor_eq_zero_iff.2 (Nat.one_dvd _))) hbyte
  | some unit =>
    rw [writtenUnit, hzero, hfind]
    rfl

theorem writtenUnit_dvd (a : MemorySize) : 1024 ^ a.writtenUnit.power ∣ a.bytes.toNat := by
  by_cases hne : a.bytes = 0
  · rw [hne]
    exact Nat.dvd_zero _
  · have hfound := List.find?_some (find?_writtenUnit hne)
    exact mod_factor_eq_zero_iff.1 (of_decide_eq_true hfound)

/-- No larger unit divides the size. -/
theorem power_le_writtenUnit (hne : a.bytes ≠ 0) {unit : MemoryUnit}
    (hdvd : 1024 ^ unit.power ∣ a.bytes.toNat) : unit.power ≤ a.writtenUnit.power := by
  obtain ⟨-, larger, smaller, hall, hlarger⟩ := List.find?_eq_some_iff_append.1 (find?_writtenUnit hne)
  have hdescending : MemoryUnit.all.reverse.Pairwise fun u v => v.power < u.power := by decide
  have hmem : unit ∈ MemoryUnit.all.reverse := List.mem_reverse.2 unit.mem_all
  rw [hall] at hdescending hmem
  rcases List.mem_append.1 hmem with hmem | hmem
  · exact absurd (decide_eq_true (mod_factor_eq_zero_iff.2 hdvd)) (by simpa using hlarger unit hmem)
  · rcases List.mem_cons.1 hmem with rfl | hmem
    · exact Nat.le_refl _
    · have hlast := (List.pairwise_append.1 hdescending).2.1
      exact Nat.le_of_lt ((List.pairwise_cons.1 hlast).1 unit hmem)

/-- A size is written as a count of some unit: the largest that divides it, which is the byte if no other does. -/
structure WrittenIn (a : MemorySize) (unit : MemoryUnit) : Prop where
  toText_eq : a.toText = (a.bytes.toNat / 1024 ^ unit.power).repr ++ " " ++ unit.name
  dvd : 1024 ^ unit.power ∣ a.bytes.toNat
  largest : ∀ u : MemoryUnit, 1024 ^ u.power ∣ a.bytes.toNat → u.power ≤ unit.power
  byte_iff : unit = .byte ↔ ∀ u : MemoryUnit, u ≠ .byte → ¬ 1024 ^ u.power ∣ a.bytes.toNat

theorem toText_eq (a : MemorySize) :
    a.toText = (a.bytes.toNat / 1024 ^ a.writtenUnit.power).repr ++ " " ++ a.writtenUnit.name := by
  rw [toText, Text.decimal, UInt64.toNat_div, MemoryUnit.factor_eq]

theorem writtenIn_writtenUnit (hne : a.bytes ≠ 0) : a.WrittenIn a.writtenUnit where
  toText_eq := a.toText_eq
  dvd := a.writtenUnit_dvd
  largest _ := power_le_writtenUnit hne
  byte_iff := by
    have hpower : ∀ u : MemoryUnit, u.power = 0 ↔ u = .byte := by
      intro u
      cases u <;> decide
    constructor
    · intro hbyte u hu hdvd
      have hle := power_le_writtenUnit hne hdvd
      rw [hbyte] at hle
      exact hu ((hpower u).1 (Nat.le_zero.1 hle))
    · intro hnone
      by_contra hother
      exact hnone _ hother a.writtenUnit_dvd

/-! ## Reading what was written -/

/-- A text is the same as another but for the case of its ASCII letters and for blanks around it. -/
def Restyled (text plain : String) : Prop :=
  ∃ left core right, text.toList = left ++ core ++ right ∧ Text.AllBlank left ∧ Text.AllBlank right ∧
    Text.lower core = Text.lower plain.toList

theorem Restyled.refl (text : String) : Restyled text text :=
  ⟨[], text.toList, [], by simp, .nil, .nil, rfl⟩

theorem numberOf_repr (n : Nat) : Text.numberOf n.repr.toList = n := by
  rw [Text.numberOf, Nat.toList_repr, Nat.ofDigitChars_ten_toDigits]

theorem lower_name (unit : MemoryUnit) : String.ofList (Text.lower unit.name.toList) ∈ unit.spellings := by
  cases unit <;> decide

/-- However a size is written, it is what the text says. -/
theorem Restyled.denotes (h : Restyled text a.toText) : Denotes text a := by
  obtain ⟨left, core, right, htext, hleft, hright, hcore⟩ := h
  rw [toText_eq, String.toList_append, String.toList_append, Text.lower_append, Text.lower_append] at hcore
  obtain ⟨front, word, rfl, hfront, hword⟩ := Text.lower_eq_append_iff.1 hcore
  obtain ⟨digits, gap, rfl, hnumber, hgap⟩ := Text.lower_eq_append_iff.1 hfront
  have hdigits := fun c (hc : c ∈ (a.bytes.toNat / 1024 ^ a.writtenUnit.power).repr.toList) =>
    Text.isDigit_of_mem_repr hc
  obtain rfl := Text.eq_of_lower_eq hdigits (hnumber.trans (Text.lower_of_digits hdigits))
  have hspace : Text.AllBlank (Text.lower gap) := by
    rw [hgap]
    exact List.all_eq_true.1 (by decide)
  refine .intro left _ gap word right a.writtenUnit ?_ hleft (Text.allBlank_lower_iff.1 hspace) hright ?_ hdigits
    ?_ ?_
  · simp only [htext, List.append_assoc]
  · rw [Nat.toList_repr]
    exact Nat.toDigits_ne_nil
  · rw [hword]
    exact lower_name _
  · rw [numberOf_repr, Nat.div_mul_cancel a.writtenUnit_dvd]

/-- A written size is read back, in any letter case and with any blanks around it. So no two sizes are written
alike. A size other than zero is written in the largest unit that divides it. -/
theorem toText_read_back (a : MemorySize) :
    (∀ text, Restyled text a.toText → ofText text = .ok a) ∧
    (∀ b : MemorySize, b.toText = a.toText → b = a) ∧
    (a.bytes ≠ 0 → ∃ unit, a.WrittenIn unit) := by
  have hread : ∀ {a : MemorySize} {text}, Restyled text a.toText → ofText text = .ok a := fun h =>
    ofText_eq_ok_iff.2 h.denotes
  refine ⟨fun text => hread, fun b hb => ?_, fun hne => ⟨_, writtenIn_writtenUnit hne⟩⟩
  have hsame := hread (Restyled.refl a.toText)
  rw [← hb, hread (Restyled.refl b.toText)] at hsame
  exact Except.ok.inj hsame

theorem toText_read_back_gibi :
    Restyled "\u3000\t3 Gb\n" (mk 0xC0000000).toText ∧ ofText "\u3000\t3 Gb\n" = .ok ⟨0xC0000000⟩ ∧
      (mk 0xC0000000).bytes ≠ 0 ∧ ∃ unit, (mk 0xC0000000).WrittenIn unit := by
  have hleft : Text.AllBlank ['\u3000', '\t'] := List.all_eq_true.1 (by decide)
  have hright : Text.AllBlank ['\n'] := List.all_eq_true.1 (by decide)
  have htext : Restyled "\u3000\t3 Gb\n" (mk 0xC0000000).toText :=
    ⟨['\u3000', '\t'], "3 Gb".toList, ['\n'], by decide, hleft, hright, by decide⟩
  obtain ⟨hread, -, hunit⟩ := toText_read_back ⟨0xC0000000⟩
  exact ⟨htext, hread _ htext, by decide, hunit (by decide)⟩

end MemorySize

end WorkerSlots
