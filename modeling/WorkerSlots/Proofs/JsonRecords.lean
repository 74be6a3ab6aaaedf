import WorkerSlots.Proofs.JsonTexts
import WorkerSlots.Proofs.Profiles
import WorkerSlots.Slot.Report
import WorkerSlots.Table.Config

/-!
# Records that are read back

What is written of a report or of a configuration is read back as the same report or configuration.

* `Id.ofText?_hyphenated` : an identity from its hyphenated form;
* `Amounts.ofList_toList` : named amounts from their list, in which no name stands twice;
* `ofJson?_toJson`, in the namespace of each type : a value from what it is written as;
* `written_toJson` : what is written has numbers that are words, and no garbled text;
* `Json.read_back` : so the whole text of a report or a configuration is read back, and no two of them have
  the same text.
-/

namespace WorkerSlots

/-! ## Identities -/

namespace Id

variable {kind : IdKind}

theorem length_hyphenate {ns : List Nat} (hne : ns ≠ []) (cs : List Char) :
    (hyphenate ns cs).length + 1 = cs.length + ns.length := by
  induction ns generalizing cs with
  | nil => exact absurd rfl hne
  | cons n ns ih =>
    cases ns with
    | nil => rfl
    | cons m ns =>
      have hrest := ih (List.cons_ne_nil m ns) (cs.drop n)
      simp only [hyphenate, List.length_append, List.length_take, List.length_cons, List.length_drop] at hrest ⊢
      omega

theorem unhyphenate?_hyphenate {ns : List Nat} (hne : ns ≠ []) {cs : List Char} (hsum : cs.length = ns.sum) :
    unhyphenate? ns (hyphenate ns cs) = some cs := by
  induction ns generalizing cs with
  | nil => exact absurd rfl hne
  | cons n ns ih =>
    rw [List.sum_cons] at hsum
    cases ns with
    | nil => exact if_pos hsum
    | cons m ns =>
      have hlength : (cs.drop n).length = (m :: ns).sum := by
        rw [List.length_drop]
        omega
      have hrest := ih (List.cons_ne_nil m ns) hlength
      have htake : (cs.take n).length = n := by
        rw [List.length_take]
        omega
      have hdrop : (hyphenate (n :: m :: ns) cs).drop n = '-' :: hyphenate (m :: ns) (cs.drop n) :=
        List.drop_left' htake
      have hfirst : (hyphenate (n :: m :: ns) cs).take n = cs.take n := List.take_left' htake
      unfold unhyphenate?
      rw [hdrop, hfirst]
      simp only [hrest, Option.map_some, List.take_append_drop]

/-- A form that begins with a digit is not decorated. -/
theorem undecorated_cons {c : Char} (hbrace : c ≠ '\x7b') (hscheme : c.toLower ≠ 'u') (cs : List Char) :
    undecorated (c :: cs) = c :: cs := by
  unfold undecorated
  split
  · rename_i heq
    exact absurd (List.cons.inj heq).1 hbrace
  · rw [if_neg]
    intro h
    exact hscheme (List.cons.inj h).1

theorem ofDigits?_digits (id : Id kind) : ofDigits? id.digits = some id := by
  have hlength : id.digits.length = 32 := Text.length_hexDigits 32 _
  have hbound : id.value.toNat < 16 ^ 32 := id.value.isLt
  unfold ofDigits?
  rw [if_pos hlength, digits, Text.hexNumber?_hexDigits, Nat.mod_eq_of_lt hbound, Option.map_some]
  simp [ofNat]

/-- The hyphenated form begins with a digit. -/
theorem exists_hyphenate (id : Id kind) :
    ∃ d < 16, ∃ cs, hyphenate groups id.digits = Nat.digitChar d :: cs := by
  have hlength : id.digits.length = 32 := Text.length_hexDigits 32 _
  cases hdigits : id.digits with
  | nil => simp [hdigits] at hlength
  | cons c cs =>
    have hmem : c ∈ id.digits := by simp [hdigits]
    obtain ⟨d, hd, rfl⟩ := Text.exists_digitChar hmem
    exact ⟨d, hd, _, rfl⟩

/-- An identity is read back from its hyphenated form. -/
theorem ofText?_hyphenated (id : Id kind) : ofText? id.hyphenated = some id := by
  have hdigits : id.digits.length = 32 := Text.length_hexDigits 32 _
  have hlength : (hyphenate groups id.digits).length ≠ 32 := by
    have hgroups := length_hyphenate (by decide : groups ≠ []) id.digits
    have hcount : groups.length = 5 := rfl
    omega
  have hplain : undecorated (hyphenate groups id.digits) = hyphenate groups id.digits := by
    obtain ⟨d, hd, cs, hcs⟩ := exists_hyphenate id
    have hdigit : ∀ d < 16, Nat.digitChar d ≠ '\x7b' ∧ (Nat.digitChar d).toLower ≠ 'u' := by decide
    obtain ⟨hbrace, hscheme⟩ := hdigit d hd
    rw [hcs]
    exact undecorated_cons hbrace hscheme cs
  unfold ofText? hyphenated
  rw [String.toList_ofList, if_neg hlength, hplain, unhyphenate?_hyphenate (by decide) hdigits, Option.bind_some]
  exact ofDigits?_digits id

theorem ofJson?_toJson (id : Id kind) : ofJson? id.toJson = some id := by
  show (some id.hyphenated).bind ofText? = some id
  rw [Option.bind_some]
  exact ofText?_hyphenated id

theorem nullable_toJson (id : Id kind) : Json.nullable ofJson? id.toJson = some (some id) := by
  show (ofJson? id.toJson).map some = some (some id)
  rw [ofJson?_toJson]
  rfl

end Id

/-! ## Amounts -/

namespace Amounts

/-- Amounts that are put one after the other, no name twice. -/
theorem amount_foldl_set {entries : List (String × UInt64)}
    (hasc : entries.Pairwise fun a b => compare a.1 b.1 = .lt) (a : Amounts) (name : String) :
    (entries.foldl (fun a e => a.set e.1 e.2) a).amount name =
      (SortedMap.find name entries).getD (a.amount name) := by
  induction entries generalizing a with
  | nil => rfl
  | cons e rest ih =>
    obtain ⟨hfirst, hrest⟩ := List.pairwise_cons.1 hasc
    rw [List.foldl_cons, ih hrest, amount_set]
    by_cases hname : name = e.1
    · subst hname
      simp [SortedMap.find, find_eq_none_of_lt hfirst hrest]
    · simp [SortedMap.find, hname]

theorem ofList_toList (a : Amounts) : ofList a.toList = a := by
  refine ext_amount fun name => ?_
  unfold ofList toList
  rw [amount_foldl_set a.stored.ascending]
  rfl

theorem eq_none_of_isEmpty {a : Amounts} (h : a.isEmpty = true) : a = none :=
  ext_amount fun name => isEmpty_iff.1 h name

end Amounts

/-! ## Records -/

@[simp] theorem Json.asWord?_word (w : UInt64) : (Json.word w).asWord? = some w := Text.word?_decimal w

@[simp] theorem MemorySize.ofJson?_toJson (a : MemorySize) : ofJson? a.toJson = some a := by
  show (Json.word a.bytes).asWord?.map mk = some a
  rw [Json.asWord?_word]
  rfl

@[simp] theorem ResourceId.ofJson?_toJson (id : ResourceId) : ofJson? id.toJson = some id := rfl

namespace ResourceProfile

theorem amountsOfJson?_object (a : Amounts) :
    amountsOfJson? (.object (a.toList.map fun (name, x) => (name, .word x))) = some a := by
  have hmembers := mapM_map_of_readBack (fun e : String × UInt64 => (e.1, Json.word e.2))
    (fun m : String × Json => m.2.asWord?.map (m.1, ·)) (fun e => by simp) a.toList
  show ((a.toList.map fun e => (e.1, Json.word e.2)).mapM fun m : String × Json =>
    m.2.asWord?.map (m.1, ·)).bind (fun amounts => some (Amounts.ofList amounts)) = some a
  rw [hmembers, Option.bind_some, Amounts.ofList_toList]

@[simp] theorem ofJson?_toJson (p : ResourceProfile) : ofJson? p.toJson = some p := by
  by_cases hempty : p.extended.isEmpty = true
  · have hnone := Amounts.eq_none_of_isEmpty hempty
    simp [ofJson?, toJson, fields, Json.isRecord, Json.optional, Json.field?, hempty, ← hnone]
  · simp [ofJson?, toJson, fields, Json.isRecord, Json.optional, Json.field?, hempty, amountsOfJson?_object]

end ResourceProfile

@[simp] theorem SlotId.ofJson?_toJson (id : SlotId) : ofJson? id.toJson = some id := by
  simp [ofJson?, toJson, fields, Json.isRecord, Json.required, Json.field?]

/-- Identities that are absent are left out, and read back as absent. -/
@[simp] theorem SlotStatus.ofJson?_toJson (s : SlotStatus) : ofJson? s.toJson = some s := by
  obtain ⟨slotId, resourceProfile, jobId, allocationId⟩ := s
  cases jobId <;> cases allocationId <;>
    simp [ofJson?, toJson, fields, Json.isRecord, Json.required, Json.optional, Json.field?, idOfJson?, idMember,
      Id.nullable_toJson]

theorem SlotReport.ofJson?_toJson (report : SlotReport) : ofJson? (toJson report) = some report :=
  mapM_map_of_readBack SlotStatus.toJson SlotStatus.ofJson? SlotStatus.ofJson?_toJson report

theorem TableConfig.ofJson?_toJson (c : TableConfig) : ofJson? c.toJson = some c := by
  simp [ofJson?, toJson, fields, Json.isRecord, Json.optional, Json.field?]

/-! ## Texts -/

theorem MemorySize.written_toJson (a : MemorySize) : a.toJson.Written := .word a.bytes

theorem ResourceProfile.written_toJson (p : ResourceProfile) : p.toJson.Written := by
  refine .object fun m hm => ?_
  rcases List.mem_append.1 hm with hm | hm
  · simp only [List.mem_cons, List.not_mem_nil, or_false] at hm
    rcases hm with rfl | rfl | rfl | rfl | rfl
    · exact .word _
    all_goals exact MemorySize.written_toJson _
  · by_cases hempty : p.extended.isEmpty = true
    · simp [hempty] at hm
    · rw [if_neg hempty] at hm
      obtain rfl := List.mem_singleton.1 hm
      refine .object fun e he => ?_
      obtain ⟨⟨name, x⟩, -, rfl⟩ := List.mem_map.1 he
      exact .word x

theorem SlotId.written_toJson (id : SlotId) : id.toJson.Written := by
  refine .object fun m hm => ?_
  simp only [List.mem_cons, List.not_mem_nil, or_false] at hm
  rcases hm with rfl | rfl
  · exact .text _
  · exact .word _

theorem SlotStatus.written_idMember {kind : IdKind} {name : String} {id : Option (Id kind)} {m : String × Json}
    (hm : m ∈ idMember name id) : m.2.Written := by
  cases id with
  | none => cases hm
  | some id =>
    obtain rfl := List.mem_singleton.1 hm
    exact .text _

theorem SlotStatus.written_toJson (s : SlotStatus) : s.toJson.Written := by
  refine .object fun m hm => ?_
  simp only [List.mem_append, List.mem_cons, List.not_mem_nil, or_false] at hm
  rcases hm with ((rfl | rfl) | hm) | hm
  · exact s.slotId.written_toJson
  · exact s.resourceProfile.written_toJson
  · exact written_idMember hm
  · exact written_idMember hm

theorem SlotReport.written_toJson (report : SlotReport) : (toJson report).Written := by
  refine .array fun item hitem => ?_
  obtain ⟨s, -, rfl⟩ := List.mem_map.1 hitem
  exact s.written_toJson

theorem TableConfig.written_toJson (c : TableConfig) : c.toJson.Written := by
  refine .object fun m hm => ?_
  simp only [List.mem_cons, List.not_mem_nil, or_false] at hm
  rcases hm with rfl | rfl | rfl | rfl | rfl
  · exact .word _
  · exact ResourceProfile.written_toJson _
  · exact ResourceProfile.written_toJson _
  · exact .word _
  · exact .word _

namespace Json

variable {α : Type} {toJson : α → Json} {ofJson? : Json → Option α}

/-- What is written without garbled text and with words for numbers is read back from its text. -/
theorem parse?_bind (hwritten : ∀ a, (toJson a).Written) (hread : ∀ a, ofJson? (toJson a) = some a) (a : α) :
    (parse? (toJson a).render).bind ofJson? = some a := by
  rw [parse?_render (hwritten a), Option.bind_some, hread]

/-- Values that are read back from their texts have different texts. -/
theorem injective_render (h : ∀ a, (parse? (toJson a).render).bind ofJson? = some a) :
    Function.Injective fun a => (toJson a).render := by
  intro a a' htext
  have ha := h a
  dsimp only at htext
  rw [htext, h a'] at ha
  exact (Option.some.inj ha).symm

/-- Every report and every configuration is read back from the text that is written of it, whatever characters
its names have, however large its amounts are, and whatever is left out. So no two reports and no two
configurations have the same text. -/
theorem read_back :
    (∀ report : SlotReport, (parse? (SlotReport.toJson report).render).bind SlotReport.ofJson? = some report) ∧
    (∀ config : TableConfig, (parse? config.toJson.render).bind TableConfig.ofJson? = some config) ∧
    (Function.Injective fun report : SlotReport => (SlotReport.toJson report).render) ∧
    Function.Injective fun config : TableConfig => config.toJson.render := by
  have hreport := parse?_bind SlotReport.written_toJson SlotReport.ofJson?_toJson
  have hconfig := parse?_bind TableConfig.written_toJson TableConfig.ofJson?_toJson
  exact ⟨hreport, hconfig, injective_render hreport, injective_render hconfig⟩

end Json

end WorkerSlots
