import Mathlib.Algebra.Group.Nat.Defs
import Mathlib.Data.List.Basic
import WorkerSlots.Json.Parser
import WorkerSlots.Json.Printer

/-!
# Reading what was written

* `Text.hexNumber?_hexDigits`, `Text.exists_repr` : the digits of a number, read back;
* `readText?_quote` : the literal of a string is read back as the string, whatever its characters;
* `readNumber?_repr` : so is the literal of a number, up to what may stand after a value (`Ends`);
* `Written` : the values that are written. Their numbers are words and none of their texts is garbled;
* `Written.reads` : the text of such a value is read back as the value, and what stands after it is left;
* `parse?_render` : a whole text is read back, with the fuel that its length gives.
-/

namespace WorkerSlots

/-- Items that are written one by one are read back one by one. -/
theorem mapM_map_of_readBack {α β : Type} (write : β → α) (read? : α → Option β)
    (h : ∀ b, read? (write b) = some b) (bs : List β) : (bs.map write).mapM read? = some bs := by
  induction bs with
  | nil => rfl
  | cons b bs ih =>
    rw [List.map_cons, List.mapM_cons, h, ih]
    rfl

/-! ## Digits -/

namespace Text

theorem hexValue?_digitChar : ∀ d < 16, hexValue? (Nat.digitChar d) = some d := by decide

theorem hexNumber?_append (cs : List Char) (c : Char) :
    hexNumber? (cs ++ [c]) = (hexNumber? cs).bind fun n => (hexValue? c).map (16 * n + ·) := by
  unfold hexNumber?
  rw [List.foldlM_append]
  simp

theorem hexNumber?_hexDigits (width n : Nat) : hexNumber? (hexDigits width n) = some (n % 16 ^ width) := by
  induction width generalizing n with
  | zero => simp [hexDigits, hexNumber?, Nat.mod_one]
  | succ width ih =>
    have hdigit := hexValue?_digitChar (n % 16) (Nat.mod_lt n (by decide))
    have hsplit : n % 16 ^ (width + 1) = 16 * (n / 16 % 16 ^ width) + n % 16 := by
      rw [Nat.pow_succ, Nat.mul_comm, Nat.mod_mul]
      omega
    rw [hexDigits, hexNumber?_append, ih, Option.bind_some, hdigit, hsplit]
    rfl

theorem exists_digitChar {width n : Nat} {c : Char} (h : c ∈ hexDigits width n) :
    ∃ d < 16, c = Nat.digitChar d := by
  induction width generalizing n with
  | zero => simp [hexDigits] at h
  | succ width ih =>
    rcases List.mem_append.1 h with h | h
    · exact ih h
    · exact ⟨n % 16, Nat.mod_lt n (by decide), List.mem_singleton.1 h⟩

/-- The decimal digits of a number begin with a zero only if it is zero. -/
theorem exists_repr (n : Nat) :
    ∃ c cs, n.repr.toList = c :: cs ∧ c.isDigit = true ∧ (c = '0' → n = 0) := by
  rw [Nat.toList_repr]
  by_cases hsmall : n < 10
  · have hdigit : ∀ d < 10, (Nat.digitChar d).isDigit = true ∧ (Nat.digitChar d = '0' → d = 0) := by decide
    obtain ⟨hn, hzero⟩ := hdigit n hsmall
    exact ⟨Nat.digitChar n, [], Nat.toDigits_of_lt_base hsmall, hn, hzero⟩
  · obtain ⟨c, cs, hcs, hc, hzero⟩ := exists_repr (n / 10)
    rw [Nat.toList_repr] at hcs
    refine ⟨c, cs ++ [Nat.digitChar (n % 10)], ?_, hc, fun hc0 => ?_⟩
    · rw [Nat.toDigits_of_base_le (by decide) (by omega), hcs]
      rfl
    · -- the number without its last digit is not zero
      have := hzero hc0
      omega

end Text

namespace Json

/-! ## Blanks -/

theorem ne_of_isDigit {c d : Char} (hc : c.isDigit = true) (hd : d.isDigit = false) : c ≠ d := by
  rintro rfl
  rw [hc] at hd
  cases hd

theorem skip_cons {c : Char} (cs : List Char) (hspace : c ≠ ' ') (htab : c ≠ '\t') (hline : c ≠ '\n')
    (hreturn : c ≠ '\r') : skip (c :: cs) = c :: cs := by
  unfold skip
  rw [List.dropWhile_cons_of_neg]
  simp [hspace, htab, hline, hreturn]

/-- The punctuation is not blank. -/
theorem skip_of_mem {c : Char} (h : c ∈ ['"', ':', ',', ']', '\x7d']) (cs : List Char) :
    skip (c :: cs) = c :: cs := by
  simp only [List.mem_cons, List.not_mem_nil, or_false] at h
  rcases h with rfl | rfl | rfl | rfl | rfl <;> rfl

theorem skip_digit {c : Char} (cs : List Char) (h : c.isDigit = true) : skip (c :: cs) = c :: cs :=
  skip_cons cs (ne_of_isDigit h rfl) (ne_of_isDigit h rfl) (ne_of_isDigit h rfl) (ne_of_isDigit h rfl)

/-! ## Strings -/

/-- The unit of a code below those of the halves is the character. -/
theorem StringUnit.ofCode_toNat {c : Char} (h : c.toNat < 0xd800) : ofCode c.toNat = .char c := by
  unfold ofCode
  rw [if_neg (by omega), Char.ofNat_toNat]

/-- However a character is written, it is read back. -/
theorem readUnits?_quoteChar (c : Char) (rest : List Char) :
    readUnits? (quoteChar c ++ rest) = (readUnits? rest).map fun (us, r) => (.char c :: us, r) := by
  unfold quoteChar
  split
  · rfl
  · rfl
  · rfl
  · rfl
  · rfl
  · rfl
  · rfl
  · rename_i hquote hbackslash _ _ _ _ _
    split
    · rename_i hcontrol
      have hdigits := Text.hexNumber?_hexDigits 4 c.toNat
      rw [Nat.mod_eq_of_lt (by omega)] at hdigits
      obtain ⟨d₁, d₂, d₃, d₄, hfour⟩ : ∃ d₁ d₂ d₃ d₄, Text.hexDigits 4 c.toNat = [d₁, d₂, d₃, d₄] :=
        ⟨_, _, _, _, rfl⟩
      rw [hfour] at hdigits ⊢
      rw [← StringUnit.ofCode_toNat (c := c) (by omega)]
      simp only [List.cons_append, List.nil_append, readUnits?, hdigits]
    · rename_i hplain
      have hraw : ¬ (c = '\\' ∨ c.toNat < 0x20) := fun h => h.elim hbackslash hplain
      rw [List.singleton_append, readUnits?, if_neg hraw]
      · exact hquote
      · exact fun _ _ _ _ _ h _ => hbackslash h
      · exact fun _ _ h _ => hbackslash h

theorem readUnits?_quote (cs rest : List Char) :
    readUnits? (cs.flatMap quoteChar ++ '"' :: rest) = some (cs.map .char, rest) := by
  induction cs with
  | nil => rfl
  | cons c cs ih =>
    rw [List.flatMap_cons, List.append_assoc, readUnits?_quoteChar, ih]
    rfl

theorem joinUnits?_chars (cs : List Char) : joinUnits? (cs.map .char) = some cs := by
  induction cs with
  | nil => rfl
  | cons c cs ih =>
    rw [List.map_cons, joinUnits?, ih]
    rfl

/-- A string literal is read back as its string. -/
theorem readText?_quote (s : String) (rest : List Char) :
    readText? (s.toList.flatMap quoteChar ++ '"' :: rest) = some (some s, rest) := by
  unfold readText?
  rw [readUnits?_quote]
  simp [joinUnits?_chars]

theorem toList_quote (s : String) : (quote s).toList = '"' :: (s.toList.flatMap quoteChar ++ ['"']) := by
  simp [quote]

/-! ## Numbers -/

/-- What may stand after a value: nothing, or the punctuation of what the value is a part of. -/
inductive Ends : List Char → Prop where
  | nil : Ends []
  | comma (cs : List Char) : Ends (',' :: cs)
  | bracket (cs : List Char) : Ends (']' :: cs)
  | brace (cs : List Char) : Ends ('\x7d' :: cs)

variable {rest : List Char}

theorem readDigits?_append {digits : List Char} (hne : digits ≠ []) (hdigits : ∀ c ∈ digits, c.isDigit = true)
    (hrest : Ends rest) : readDigits? (digits ++ rest) = some (digits, rest) := by
  have hstop : rest.takeWhile Char.isDigit = [] ∧ rest.dropWhile Char.isDigit = rest := by
    cases hrest <;> exact ⟨rfl, rfl⟩
  unfold readDigits?
  rw [List.takeWhile_append_of_pos hdigits, List.dropWhile_append_of_pos hdigits, hstop.1, hstop.2,
    List.append_nil]
  split
  · contradiction
  · rfl

theorem readFraction?_of_ends (h : Ends rest) : readFraction? rest = some ([], rest) := by
  cases h <;> rfl

theorem readExponent?_of_ends (h : Ends rest) : readExponent? rest = some ([], rest) := by
  cases h <;> rfl

theorem readInteger?_repr (n : Nat) (hrest : Ends rest) :
    readInteger? (n.repr.toList ++ rest) = some (n.repr.toList, rest) := by
  obtain ⟨c, cs, hcs, -, hzero⟩ := Text.exists_repr n
  by_cases hc : c = '0'
  · -- a zero stands alone
    obtain rfl := hzero hc
    rfl
  · have hne : n.repr.toList ≠ [] := by simp [hcs]
    have hread := readDigits?_append hne (fun _ => Text.isDigit_of_mem_repr) hrest
    rw [hcs, List.cons_append] at hread ⊢
    unfold readInteger?
    split
    · rename_i heq
      exact absurd (List.cons.inj heq).1 hc
    · exact hread

/-- The literal of a number is read back. -/
theorem readNumber?_repr (n : Nat) (hrest : Ends rest) :
    readNumber? (n.repr.toList ++ rest) = some (n.repr, rest) := by
  obtain ⟨c, cs, hcs, hc, -⟩ := Text.exists_repr n
  have hinteger := readInteger?_repr n hrest
  have hliteral : String.ofList (c :: cs) = n.repr := by rw [← hcs, String.ofList_toList]
  rw [hcs, List.cons_append] at hinteger ⊢
  unfold readNumber?
  split
  rename_i sign unsigned heq
  split at heq
  · -- a number has no sign
    rename_i hminus
    obtain rfl := (List.cons.inj hminus).1
    cases hc
  · obtain ⟨rfl, rfl⟩ := Prod.mk.inj heq
    simp only [hinteger, readFraction?_of_ends hrest, readExponent?_of_ends hrest, Option.bind_eq_bind,
      Option.bind_some, Option.pure_def, List.nil_append, List.append_nil, hliteral]

/-! ## Values -/

/-- A value as it is written: its numbers are words, and none of its texts is garbled. -/
inductive Written : Json → Prop where
  | null : Written .null
  | bool (b : Bool) : Written (.bool b)
  | word (w : UInt64) : Written (word w)
  | text (s : String) : Written (.text s)
  | array {items : List Json} (h : ∀ item ∈ items, Written item) : Written (.array items)
  | object {members : List (String × Json)} (h : ∀ m ∈ members, Written m.2) : Written (.object members)

/-- The text of a value is read back as the value, whatever it is a part of. -/
def Reads (value : Json) : Prop :=
  ∀ (fuel : Nat) (rest : List Char), value.render.toList.length ≤ fuel → Ends rest →
    readValue? fuel (value.render.toList ++ rest) = some (value, rest)

theorem readValue?_digit {c : Char} (hc : c.isDigit = true) (fuel : Nat) (cs : List Char) :
    readValue? (fuel + 1) (c :: cs) =
      (readNumber? (c :: cs)).map fun (literal, r) => (.number literal, r) := by
  have hne : ∀ d : Char, d.isDigit = false → c ≠ d := fun d hd => ne_of_isDigit hc hd
  rw [readValue?, skip_digit cs hc]
  split <;> rename_i heq
  any_goals exact absurd (List.cons.inj heq).1 (hne _ rfl)
  rfl

theorem reads_word (w : UInt64) : Reads (word w) := by
  intro fuel rest hfuel hrest
  obtain ⟨c, cs, hcs, hc, -⟩ := Text.exists_repr w.toNat
  have hnumber := readNumber?_repr w.toNat hrest
  have hrender : (word w).render.toList = c :: cs := hcs
  rw [hcs, List.cons_append] at hnumber
  rw [hrender] at hfuel ⊢
  obtain ⟨fuel, rfl⟩ : ∃ k, fuel = k + 1 := ⟨fuel - 1, by simp at hfuel; omega⟩
  rw [List.cons_append, readValue?_digit hc, hnumber]
  rfl

theorem reads_text (s : String) : Reads (.text s) := by
  intro fuel rest hfuel hrest
  have hrender : (text s).render.toList = '"' :: (s.toList.flatMap quoteChar ++ ['"']) := toList_quote s
  rw [hrender] at hfuel ⊢
  obtain ⟨fuel, rfl⟩ : ∃ k, fuel = k + 1 := ⟨fuel - 1, by simp at hfuel; omega⟩
  have hread := readText?_quote s rest
  rw [List.cons_append, List.append_assoc, List.singleton_append, readValue?]
  have hskip : skip ('"' :: (s.toList.flatMap quoteChar ++ '"' :: rest)) =
      '"' :: (s.toList.flatMap quoteChar ++ '"' :: rest) := rfl
  rw [hskip]
  simp only [hread]
  rfl

theorem toList_renderArray (items : List Json) :
    (array items).render.toList = '[' :: ((renderItems items).toList ++ [']']) := by
  simp [render]

theorem toList_renderObject (members : List (String × Json)) :
    (object members).render.toList = '\x7b' :: ((renderMembers members).toList ++ ['\x7d']) := by
  simp [render]

/-- A value begins with neither a blank nor a closing bracket. -/
theorem Written.begins {value : Json} (h : Written value) :
    ∃ c cs, value.render.toList = c :: cs ∧ (∀ rest, skip (c :: rest) = c :: rest) ∧ c ≠ ']' := by
  cases h with
  | null => exact ⟨'n', _, rfl, fun _ => rfl, by decide⟩
  | bool b =>
    cases b with
    | true => exact ⟨'t', _, rfl, fun _ => rfl, by decide⟩
    | false => exact ⟨'f', _, rfl, fun _ => rfl, by decide⟩
  | word w =>
    obtain ⟨c, cs, hcs, hc, -⟩ := Text.exists_repr w.toNat
    exact ⟨c, cs, hcs, fun rest => skip_digit rest hc, ne_of_isDigit hc rfl⟩
  | text s => exact ⟨'"', _, toList_quote s, fun _ => rfl, by decide⟩
  | array => exact ⟨'[', _, toList_renderArray _, fun _ => rfl, by decide⟩
  | object => exact ⟨'\x7b', _, toList_renderObject _, fun _ => rfl, by decide⟩

theorem toList_renderItems_cons (item item' : Json) (items : List Json) :
    (renderItems (item :: item' :: items)).toList =
      item.render.toList ++ ',' :: (renderItems (item' :: items)).toList := by
  simp [renderItems]

/-- The items of an array are read up to the bracket, one after the other. -/
theorem readItems?_render {items : List Json} (hne : items ≠ []) (h : ∀ item ∈ items, Reads item) (fuel : Nat)
    (hfuel : (renderItems items).toList.length + 1 ≤ fuel) (rest : List Char) :
    readItems? fuel ((renderItems items).toList ++ ']' :: rest) = some (items, rest) := by
  induction items generalizing fuel with
  | nil => exact absurd rfl hne
  | cons item items ih =>
    obtain ⟨hitem, hitems⟩ := List.forall_mem_cons.1 h
    obtain ⟨fuel, rfl⟩ : ∃ k, fuel = k + 1 := ⟨fuel - 1, by omega⟩
    cases items with
    | nil =>
      have hrender : renderItems [item] = item.render := rfl
      rw [hrender] at hfuel ⊢
      rw [readItems?, hitem fuel _ (by omega) (.bracket rest)]
      rfl
    | cons item' items =>
      rw [toList_renderItems_cons, List.length_append, List.length_cons] at hfuel
      rw [toList_renderItems_cons, List.append_assoc, List.cons_append, readItems?,
        hitem fuel _ (by omega) (.comma _)]
      have hread := ih (List.cons_ne_nil _ _) hitems fuel (by omega)
      simp only [skip_of_mem (c := ',') (by decide), hread, Option.map_some]

theorem toList_renderMembers_singleton (name : String) (value : Json) :
    (renderMembers [(name, value)]).toList =
      '"' :: (name.toList.flatMap quoteChar ++ '"' :: ':' :: value.render.toList) := by
  simp [renderMembers, toList_quote]

theorem toList_renderMembers_cons (name : String) (value : Json) (member : String × Json)
    (members : List (String × Json)) :
    (renderMembers ((name, value) :: member :: members)).toList =
      '"' :: (name.toList.flatMap quoteChar ++
        '"' :: ':' :: (value.render.toList ++ ',' :: (renderMembers (member :: members)).toList)) := by
  simp [renderMembers, toList_quote]

/-- The members of an object are read up to the brace, one after the other. -/
theorem readMembers?_render {members : List (String × Json)} (hne : members ≠ [])
    (h : ∀ m ∈ members, Reads m.2) (fuel : Nat) (hfuel : (renderMembers members).toList.length + 1 ≤ fuel)
    (rest : List Char) :
    readMembers? fuel ((renderMembers members).toList ++ '\x7d' :: rest) =
      some (members.map fun m => (some m.1, m.2), rest) := by
  induction members generalizing fuel with
  | nil => exact absurd rfl hne
  | cons member members ih =>
    obtain ⟨name, value⟩ := member
    obtain ⟨hvalue, hmembers⟩ := List.forall_mem_cons.1 h
    have hvalue : Reads value := hvalue
    obtain ⟨fuel, rfl⟩ : ∃ k, fuel = k + 1 := ⟨fuel - 1, by omega⟩
    cases members with
    | nil =>
      rw [toList_renderMembers_singleton] at hfuel ⊢
      simp only [List.length_cons, List.length_append] at hfuel
      have hread := hvalue fuel _ (by omega) (.brace rest)
      rw [List.cons_append, List.append_assoc, List.cons_append, List.cons_append, readMembers?]
      simp only [skip_of_mem (c := '"') (by decide), readText?_quote, skip_of_mem (c := ':') (by decide), hread,
        skip_of_mem (c := '\x7d') (by decide), List.map_cons, List.map_nil]
    | cons member members =>
      rw [toList_renderMembers_cons] at hfuel ⊢
      simp only [List.length_cons, List.length_append] at hfuel
      have hread := fun cs => hvalue fuel _ (by omega) (.comma cs)
      have hrest := ih (List.cons_ne_nil _ _) hmembers fuel (by omega)
      rw [List.cons_append, List.append_assoc, List.cons_append, List.cons_append, List.append_assoc,
        List.cons_append, readMembers?]
      simp only [skip_of_mem (c := '"') (by decide), readText?_quote, skip_of_mem (c := ':') (by decide), hread,
        skip_of_mem (c := ',') (by decide), hrest, Option.map_some, List.map_cons]

theorem ofMembers_named (members : List (String × Json)) :
    ofMembers (members.map fun m => (some m.1, m.2)) = .object members := by
  unfold ofMembers
  rw [mapM_map_of_readBack (fun m : String × Json => (some m.1, m.2)) _ fun _ => rfl]

theorem readValue?_array {c : Char} {cs : List Char} (hskip : skip (c :: cs) = c :: cs) (hc : c ≠ ']')
    (fuel : Nat) : readValue? (fuel + 1) ('[' :: c :: cs) =
      (readItems? fuel (c :: cs)).map fun (items, r) => (.array items, r) := by
  have hopen : skip ('[' :: c :: cs) = '[' :: c :: cs := rfl
  rw [readValue?, hopen]
  simp only [hskip]
  split
  · rename_i heq
    exact absurd (List.cons.inj heq).1 hc
  · rfl

theorem readValue?_object (fuel : Nat) (cs : List Char) : readValue? (fuel + 1) ('\x7b' :: '"' :: cs) =
      (readMembers? fuel ('"' :: cs)).map fun (members, r) => (ofMembers members, r) := by
  have hopen : skip ('\x7b' :: '"' :: cs) = '\x7b' :: '"' :: cs := rfl
  rw [readValue?, hopen]
  rfl

/-- The text of an array begins, after its bracket, with that of its first item. -/
theorem begins_renderItems {item : Json} (h : Written item) (items : List Json) :
    ∃ c cs, (renderItems (item :: items)).toList = c :: cs ∧ (∀ rest, skip (c :: rest) = c :: rest) ∧
      c ≠ ']' := by
  obtain ⟨c, cs, hcs, hskip, hc⟩ := h.begins
  cases items with
  | nil => exact ⟨c, cs, hcs, hskip, hc⟩
  | cons item' items =>
    refine ⟨c, cs ++ ',' :: (renderItems (item' :: items)).toList, ?_, hskip, hc⟩
    rw [toList_renderItems_cons, hcs, List.cons_append]

theorem begins_renderMembers (member : String × Json) (members : List (String × Json)) :
    ∃ cs, (renderMembers (member :: members)).toList = '"' :: cs := by
  obtain ⟨name, value⟩ := member
  cases members with
  | nil => exact ⟨_, toList_renderMembers_singleton name value⟩
  | cons member' members => exact ⟨_, toList_renderMembers_cons name value member' members⟩

/-- The text of a value that is written is read back as the value. -/
theorem Written.reads {value : Json} (h : Written value) : Reads value := by
  induction h with
  | word w => exact reads_word w
  | text s => exact reads_text s
  | null =>
    intro fuel rest hfuel _
    obtain ⟨fuel, rfl⟩ : ∃ k, fuel = k + 1 := ⟨fuel - 1, by simp [render] at hfuel; omega⟩
    rfl
  | bool b =>
    intro fuel rest hfuel _
    cases b <;> obtain ⟨fuel, rfl⟩ : ∃ k, fuel = k + 1 := ⟨fuel - 1, by simp [render] at hfuel; omega⟩ <;> rfl
  | @array items h ih =>
    intro fuel rest hfuel _
    rw [toList_renderArray] at hfuel ⊢
    simp only [List.length_cons, List.length_append] at hfuel
    obtain ⟨fuel, rfl⟩ : ∃ k, fuel = k + 1 := ⟨fuel - 1, by omega⟩
    cases items with
    | nil => rfl
    | cons item items =>
      obtain ⟨c, cs, hcs, hskip, hc⟩ := begins_renderItems (h item List.mem_cons_self) items
      have hread := readItems?_render (List.cons_ne_nil item items) ih fuel (by omega) rest
      rw [hcs, List.cons_append] at hread
      rw [hcs, List.cons_append, List.cons_append, List.cons_append, List.append_assoc, List.singleton_append,
        readValue?_array (hskip _) hc, hread]
      rfl
  | @object members h ih =>
    intro fuel rest hfuel _
    rw [toList_renderObject] at hfuel ⊢
    simp only [List.length_cons, List.length_append] at hfuel
    obtain ⟨fuel, rfl⟩ : ∃ k, fuel = k + 1 := ⟨fuel - 1, by omega⟩
    cases members with
    | nil => rfl
    | cons member members =>
      obtain ⟨cs, hcs⟩ := begins_renderMembers member members
      have hread := readMembers?_render (List.cons_ne_nil member members) ih fuel (by omega) rest
      rw [hcs, List.cons_append] at hread
      rw [hcs, List.cons_append, List.cons_append, List.cons_append, List.append_assoc, List.singleton_append,
        readValue?_object, hread]
      exact congrArg (fun value => some (value, rest)) (ofMembers_named (member :: members))

/-- What is written is read back. -/
theorem parse?_render {value : Json} (h : Written value) : parse? value.render = some value := by
  have hfuel : value.render.toList.length ≤ 2 * value.render.length + 2 := by
    rw [String.length_toList]
    omega
  have hread := h.reads _ _ hfuel .nil
  rw [List.append_nil] at hread
  unfold parse?
  rw [hread]
  rfl

end Json

end WorkerSlots
