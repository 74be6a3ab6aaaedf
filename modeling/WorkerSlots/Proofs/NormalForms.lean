import WorkerSlots.Profile.Json
import WorkerSlots.Proofs.Profiles

/-!
# The normal form of profiles

A profile stores no zero among its named amounts, and so profiles with the same amounts are equal. `Amounts` has
this as a field, and whatever makes amounts has to keep it. Here the amounts are kept in a map that may hold
anything, and nothing but the operations themselves keeps zeros out of it.

* `LooseAmounts`, `LooseProfile` : amounts and profiles with such a map, and the operations on them, which change
  it entry by entry. A sum stores whatever it comes to;
* `Amounts.loose`, `ResourceProfile.loose` : amounts and profiles among the loose ones. The operations agree
  (`Amounts.loose_add?`, ...);
* `Recipe`, `Recipe.eval?` : the ways in which a profile is obtained, with either kind of operations. They give
  the same (`eval?_loose`);
* `stated` : the amounts that a JSON value states (`amount_of_ofJson?`), and `Recipe.built` : a profile whose
  amounts are set one by one;
* `normal_forms` : what follows for all profiles that are obtained in any of these ways.
-/

namespace WorkerSlots

/-! ## Amounts that may be zero -/

/-- Amounts by name, in a map that may also store zeros. -/
structure LooseAmounts where
  stored : SortedMap String UInt64
  deriving DecidableEq

namespace LooseAmounts

def none : LooseAmounts := ⟨.empty⟩

def amount (a : LooseAmounts) (name : String) : UInt64 := (a.stored.get? name).getD 0

def isEmpty (a : LooseAmounts) : Bool := a.stored.isEmpty

def dropZeros (a : LooseAmounts) : LooseAmounts :=
  ⟨a.stored.filterMap fun _ x => if x = 0 then .none else some x⟩

def mapAmounts (f : String → UInt64 → UInt64) (a : LooseAmounts) : LooseAmounts :=
  ⟨a.stored.filterMap fun name x => some (f name x)⟩

/-- Stores an amount, or nothing in place of a zero. -/
def set (a : LooseAmounts) (name : String) (value : UInt64) : LooseAmounts :=
  if value = 0 then ⟨a.stored.erase name⟩ else ⟨a.stored.insert name value⟩

def le (a b : LooseAmounts) : Bool := a.stored.entries.all fun (name, x) => x ≤ b.amount name

/-- Adds one amount and stores the sum, also if it is zero. -/
def increase? (a : LooseAmounts) (name : String) (x : UInt64) : Option LooseAmounts :=
  (Word.add? (a.amount name) x).map fun sum => ⟨a.stored.insert name sum⟩

def add? (a b : LooseAmounts) : Option LooseAmounts :=
  b.stored.entries.foldlM (fun sum (name, x) => sum.increase? name x) a

def subSat (a b : LooseAmounts) : LooseAmounts :=
  (a.mapAmounts fun name x => Word.subSat x (b.amount name)).dropZeros

def share (a : LooseAmounts) (parts : UInt64) : LooseAmounts := (a.mapAmounts fun _ x => x / parts).dropZeros

/-- Reads all amounts of an object, and then drops those that are zero. -/
def ofJson? (value : Json) : Option LooseAmounts := do
  let members ← value.asObject?
  let amounts ← members.mapM fun (name, x) => x.asWord?.map (name, ·)
  return dropZeros ⟨.ofList amounts⟩

theorem ext_get? {a b : LooseAmounts} (h : ∀ name, a.stored.get? name = b.stored.get? name) : a = b :=
  congrArg mk (SortedMap.ext_get? h)

theorem get?_dropZeros (a : LooseAmounts) (name : String) :
    a.dropZeros.stored.get? name = (a.stored.get? name).bind fun x => if x = 0 then .none else some x :=
  SortedMap.get?_filterMap _ _ _

theorem get?_mapAmounts (f : String → UInt64 → UInt64) (a : LooseAmounts) (name : String) :
    (a.mapAmounts f).stored.get? name = (a.stored.get? name).map (f name) := by
  rw [mapAmounts, SortedMap.get?_filterMap, Option.map_eq_bind]
  rfl

/-- It makes no difference whether zeros are dropped before an amount is put or after. -/
theorem dropZeros_insert (m : SortedMap String UInt64) (name : String) (value : UInt64) :
    dropZeros ⟨m.insert name value⟩ = (dropZeros ⟨m⟩).set name value := by
  refine ext_get? fun other => ?_
  rw [get?_dropZeros, SortedMap.get?_insert, set]
  by_cases hvalue : value = 0
  · rw [if_pos hvalue, SortedMap.get?_erase, get?_dropZeros]
    by_cases hother : other = name <;> simp [hother, hvalue]
  · rw [if_neg hvalue, SortedMap.get?_insert, get?_dropZeros]
    by_cases hother : other = name <;> simp [hother, hvalue]

end LooseAmounts

namespace Amounts

/-- Amounts as loose ones. -/
def loose (a : Amounts) : LooseAmounts := ⟨a.stored⟩

theorem loose_set (a : Amounts) (name : String) (value : UInt64) :
    (a.set name value).loose = a.loose.set name value := by
  unfold set LooseAmounts.set
  by_cases hvalue : value = 0
  · rw [dif_pos hvalue, if_pos hvalue]
    rfl
  · rw [dif_neg hvalue, if_neg hvalue]
    rfl

/-- A sum with a positive amount is positive, so that it is stored by either kind of amounts. -/
theorem loose_increase? (a : Amounts) (name : String) {x : UInt64} (hx : x ≠ 0) :
    a.loose.increase? name x = ((Word.add? (a.amount name) x).map (a.set name)).map loose := by
  show (Word.add? (a.amount name) x).map _ = _
  rw [Option.map_map]
  refine Option.map_congr fun sum hsum => ?_
  have hsum := Word.add?_eq_some_iff.1 hsum
  have hpos : sum ≠ 0 := by
    rintro rfl
    have hzero : x.toNat = 0 := by
      have h0 : (0 : UInt64).toNat = 0 := rfl
      omega
    exact hx (UInt64.toNat_inj.1 hzero)
  rw [Function.comp_apply, loose_set, LooseAmounts.set, if_neg hpos]

/-- A zero that is added to none would be stored. -/
example : (none.loose.increase? "gpu" 0).map (·.stored.entries) = some [("gpu", 0)] := by decide

theorem loose_foldlM {entries : List (String × UInt64)} (hpos : ∀ e ∈ entries, e.2 ≠ 0) (a : Amounts) :
    entries.foldlM (fun sum e => sum.increase? e.1 e.2) a.loose =
      (entries.foldlM (fun sum e => (Word.add? (sum.amount e.1) e.2).map (sum.set e.1)) a).map loose := by
  induction entries generalizing a with
  | nil => rfl
  | cons e rest ih =>
    obtain ⟨hfirst, hrest⟩ := List.forall_mem_cons.1 hpos
    rw [List.foldlM_cons, List.foldlM_cons, loose_increase? a e.1 hfirst]
    cases (Word.add? (a.amount e.1) e.2).map (a.set e.1) with
    | none => rfl
    | some sum => exact ih hrest sum

theorem loose_add? (a b : Amounts) : a.loose.add? b.loose = (a.add? b).map loose :=
  loose_foldlM (fun _ => ne_zero_of_mem) a

theorem loose_mapAmounts (f : String → UInt64 → UInt64) (a : Amounts) :
    (a.mapAmounts f).loose = (a.loose.mapAmounts f).dropZeros := by
  refine LooseAmounts.ext_get? fun name => ?_
  rw [LooseAmounts.get?_dropZeros, LooseAmounts.get?_mapAmounts, Option.bind_map]
  exact SortedMap.get?_filterMap _ _ _

theorem loose_subSat (a b : Amounts) : (a.subSat b).loose = a.loose.subSat b.loose :=
  loose_mapAmounts _ a

theorem loose_share (a : Amounts) (parts : UInt64) : (a.share parts).loose = a.loose.share parts :=
  loose_mapAmounts _ a

theorem loose_foldl_set (amounts : List (String × UInt64)) {a : Amounts} {m : SortedMap String UInt64}
    (h : a.loose = LooseAmounts.dropZeros ⟨m⟩) :
    (amounts.foldl (fun a e => a.set e.1 e.2) a).loose =
      LooseAmounts.dropZeros ⟨amounts.foldl (fun m e => m.insert e.1 e.2) m⟩ := by
  induction amounts generalizing a m with
  | nil => exact h
  | cons e rest ih =>
    refine ih ?_
    rw [loose_set, h, LooseAmounts.dropZeros_insert]

/-- Setting the amounts of a list one after the other leaves what is left when they are all stored and the zeros
are dropped in the end. -/
theorem loose_ofList (amounts : List (String × UInt64)) :
    (ofList amounts).loose = LooseAmounts.dropZeros ⟨.ofList amounts⟩ :=
  loose_foldl_set amounts rfl

theorem loose_ofJson? (value : Json) :
    LooseAmounts.ofJson? value = (ResourceProfile.amountsOfJson? value).map loose := by
  unfold LooseAmounts.ofJson? ResourceProfile.amountsOfJson?
  simp only [Option.bind_eq_bind, Option.pure_def, Option.map_bind, Function.comp_def, Option.map_some,
    loose_ofList]

end Amounts

/-! ## Profiles whose named amounts may be zero -/

/-- A profile with loose amounts. -/
structure LooseProfile where
  cpuMillis : UInt64
  taskHeap : MemorySize
  taskOffHeap : MemorySize
  managedMemory : MemorySize
  networkMemory : MemorySize
  extended : LooseAmounts
  deriving DecidableEq

namespace LooseProfile

/-- The profile of the five numbers alone. -/
def numbers (p : LooseProfile) : ResourceProfile :=
  ⟨p.cpuMillis, p.taskHeap, p.taskOffHeap, p.managedMemory, p.networkMemory, .none⟩

/-- The five numbers of a profile, with loose amounts. -/
def ofNumbers (p : ResourceProfile) (extended : LooseAmounts) : LooseProfile :=
  ⟨p.cpuMillis, p.taskHeap, p.taskOffHeap, p.managedMemory, p.networkMemory, extended⟩

def zero : LooseProfile := ofNumbers .zero .none

def amount (p : LooseProfile) : Dimension → UInt64
  | .extended name => p.extended.amount name
  | d => p.numbers.amount d

def set (p : LooseProfile) (d : Dimension) (value : UInt64) : LooseProfile :=
  match d with
  | .extended name => { p with extended := p.extended.set name value }
  | d => ofNumbers (p.numbers.set d value) p.extended

def isZero (p : LooseProfile) : Bool := p.numbers.isZero && p.extended.isEmpty

def fitsWithin (p q : LooseProfile) : Bool := p.numbers.fitsWithin q.numbers && p.extended.le q.extended

def add? (p q : LooseProfile) : Option LooseProfile := do
  return ofNumbers (← p.numbers.add? q.numbers) (← p.extended.add? q.extended)

def subSat (p q : LooseProfile) : LooseProfile :=
  ofNumbers (p.numbers.subSat q.numbers) (p.extended.subSat q.extended)

def sub? (p q : LooseProfile) : Option LooseProfile :=
  if q.fitsWithin p then some (p.subSat q) else none

def divide (p : LooseProfile) (parts : UInt64) : LooseProfile :=
  ofNumbers (p.numbers.divide parts) (p.extended.share (max parts 1))

def ofJson? (value : Json) : Option LooseProfile :=
  if value.isRecord ResourceProfile.fields then do
    let cpuMillis ← value.optional ResourceProfile.fields "cpuMillis" Json.asWord? 0
    let taskHeap ← value.optional ResourceProfile.fields "taskHeap" MemorySize.ofJson? .zero
    let taskOffHeap ← value.optional ResourceProfile.fields "taskOffHeap" MemorySize.ofJson? .zero
    let managedMemory ← value.optional ResourceProfile.fields "managedMemory" MemorySize.ofJson? .zero
    let networkMemory ← value.optional ResourceProfile.fields "networkMemory" MemorySize.ofJson? .zero
    let extended ← value.optional ResourceProfile.fields "extended" LooseAmounts.ofJson? .none
    return { cpuMillis, taskHeap, taskOffHeap, managedMemory, networkMemory, extended }
  else none

end LooseProfile

namespace ResourceProfile

variable {p q : ResourceProfile}

/-- A profile as a loose one. -/
def loose (p : ResourceProfile) : LooseProfile := .ofNumbers p p.extended.loose

theorem loose_set (p : ResourceProfile) (d : Dimension) (value : UInt64) :
    (p.set d value).loose = p.loose.set d value := by
  cases d with
  | extended name => exact congrArg (LooseProfile.ofNumbers p) (Amounts.loose_set p.extended name value)
  | _ => rfl

theorem loose_fitsWithin (p q : ResourceProfile) : p.loose.fitsWithin q.loose = p.fitsWithin q := by
  show ((_ && Amounts.none.le Amounts.none) && _) = (_ && _)
  rw [show Amounts.none.le Amounts.none = true from rfl, Bool.and_true]
  rfl

theorem loose_subSat (p q : ResourceProfile) : (p.subSat q).loose = p.loose.subSat q.loose :=
  congrArg (LooseProfile.ofNumbers (p.subSat q)) (Amounts.loose_subSat p.extended q.extended)

theorem loose_sub? (p q : ResourceProfile) : p.loose.sub? q.loose = (p.sub? q).map loose := by
  unfold sub? LooseProfile.sub?
  rw [loose_fitsWithin, ← loose_subSat]
  split <;> rfl

theorem loose_divide (p : ResourceProfile) (parts : UInt64) : (p.divide parts).loose = p.loose.divide parts :=
  congrArg (LooseProfile.ofNumbers (p.divide parts)) (Amounts.loose_share p.extended (max parts 1))

theorem loose_add? (p q : ResourceProfile) : p.loose.add? q.loose = (p.add? q).map loose := by
  show ((add? p.loose.numbers q.loose.numbers).bind fun numbers =>
    (p.extended.loose.add? q.extended.loose).bind fun extended => some (LooseProfile.ofNumbers numbers extended)) = _
  rw [Amounts.loose_add?]
  unfold add?
  simp only [Option.bind_eq_bind, Option.pure_def, Option.map_bind, Function.comp_def, Option.map_some,
    Option.bind_map, Option.bind_assoc, Option.bind_some]
  rfl

theorem optional_loose (value : Json) (name : String) :
    value.optional fields name LooseAmounts.ofJson? .none =
      (value.optional fields name amountsOfJson? .none).map Amounts.loose := by
  unfold Json.optional
  cases value.field? fields name with
  | none => rfl
  | some member => exact Amounts.loose_ofJson? member

theorem loose_ofJson? (value : Json) : LooseProfile.ofJson? value = (ofJson? value).map loose := by
  unfold ofJson? LooseProfile.ofJson?
  split
  · simp only [optional_loose, Option.bind_eq_bind, Option.pure_def, Option.map_bind, Function.comp_def,
      Option.map_some, Option.bind_map]
    rfl
  · rfl

/-! ## What loose profiles come to -/

theorem amount_loose (p : ResourceProfile) (d : Dimension) : p.loose.amount d = p.amount d := by
  cases d <;> rfl

theorem loose_isZero (p : ResourceProfile) : p.loose.isZero = p.isZero := by
  show ((_ && Amounts.none.isEmpty) && _) = (_ && _)
  rw [show Amounts.none.isEmpty = true from rfl, Bool.and_true]
  rfl

/-- A loose profile that is a profile is determined by its amounts. -/
theorem loose_eq_iff : p.loose = q.loose ↔ ∀ d, p.loose.amount d = q.loose.amount d := by
  constructor
  · intro h d
    rw [h]
  · intro h
    refine congrArg loose (ext_amount fun d => ?_)
    rw [← amount_loose, ← amount_loose, h d]

end ResourceProfile

/-! ## The ways to a profile -/

/-- What can be done with profiles of some kind. -/
structure ProfileOps (P : Type) where
  zero : P
  set : P → Dimension → UInt64 → P
  ofJson? : Json → Option P
  add? : P → P → Option P
  sub? : P → P → Option P
  subSat : P → P → P
  divide : P → UInt64 → P

def ResourceProfile.ops : ProfileOps ResourceProfile where
  zero := .zero
  set := .set
  ofJson? := ofJson?
  add? := add?
  sub? := sub?
  subSat := subSat
  divide := divide

def LooseProfile.ops : ProfileOps LooseProfile where
  zero := .zero
  set := .set
  ofJson? := ofJson?
  add? := add?
  sub? := sub?
  subSat := subSat
  divide := divide

/-- How a profile is obtained. -/
inductive Recipe where
  | zero
  /-- One amount set, be it a number or a named one. -/
  | set (base : Recipe) (d : Dimension) (value : UInt64)
  | decoded (value : Json)
  | sum (first second : Recipe)
  | difference (whole taken : Recipe)
  /-- The difference, zero in place of a negative amount. -/
  | excess (whole taken : Recipe)
  | share (base : Recipe) (parts : UInt64)

namespace Recipe

/-- What a recipe gives, unless a sum is too large, a difference negative or a JSON value no profile. -/
def eval? {P : Type} (ops : ProfileOps P) : Recipe → Option P
  | zero => some ops.zero
  | set base d value => (base.eval? ops).map (ops.set · d value)
  | decoded value => ops.ofJson? value
  | sum first second => (first.eval? ops).bind fun p => (second.eval? ops).bind (ops.add? p)
  | difference whole taken => (whole.eval? ops).bind fun p => (taken.eval? ops).bind (ops.sub? p)
  | excess whole taken => (whole.eval? ops).bind fun p => (taken.eval? ops).bind fun q => some (ops.subSat p q)
  | share base parts => (base.eval? ops).map (ops.divide · parts)

theorem map_loose {f : ResourceProfile → ResourceProfile} {g : LooseProfile → LooseProfile}
    (h : ∀ p, (f p).loose = g p.loose) (p : Option ResourceProfile) :
    (p.map ResourceProfile.loose).map g = (p.map f).map ResourceProfile.loose := by
  cases p with
  | none => rfl
  | some p => exact congrArg some (h p).symm

theorem bind_loose {f : ResourceProfile → ResourceProfile → Option ResourceProfile}
    {g : LooseProfile → LooseProfile → Option LooseProfile}
    (h : ∀ p q, g p.loose q.loose = (f p q).map ResourceProfile.loose) (p q : Option ResourceProfile) :
    ((p.map ResourceProfile.loose).bind fun p => (q.map ResourceProfile.loose).bind (g p)) =
      (p.bind fun p => q.bind (f p)).map ResourceProfile.loose := by
  cases p with
  | none => rfl
  | some p =>
    cases q with
    | none => rfl
    | some q => exact h p q

/-- A recipe gives the same with loose profiles, so that none of its steps leaves a zero behind. -/
theorem eval?_loose (r : Recipe) :
    r.eval? LooseProfile.ops = (r.eval? ResourceProfile.ops).map ResourceProfile.loose := by
  induction r with
  | zero => rfl
  | set base d value ih =>
    rw [eval?, eval?, ih]
    exact map_loose (fun p => p.loose_set d value) _
  | decoded value => exact ResourceProfile.loose_ofJson? value
  | sum first second ihFirst ihSecond =>
    rw [eval?, eval?, ihFirst, ihSecond]
    exact bind_loose ResourceProfile.loose_add? _ _
  | difference whole taken ihWhole ihTaken =>
    rw [eval?, eval?, ihWhole, ihTaken]
    exact bind_loose ResourceProfile.loose_sub? _ _
  | excess whole taken ihWhole ihTaken =>
    rw [eval?, eval?, ihWhole, ihTaken]
    exact bind_loose (fun p q => congrArg some (p.loose_subSat q).symm) _ _
  | share base parts ih =>
    rw [eval?, eval?, ih]
    exact map_loose (fun p => p.loose_divide parts) _

/-- The recipe that sets amounts one after the other. -/
def built (settings : List (Dimension × UInt64)) : Recipe :=
  settings.foldl (fun r s => r.set s.1 s.2) .zero

end Recipe

/-! ## Decoded profiles -/

namespace ResourceProfile

/-- The last member of the named amounts in a JSON value that has the name. -/
def lastMember? (value : Json) (name : String) : Option Json :=
  match value.field? fields "extended" with
  | some (.object members) => members.reverse.lookup name
  | _ => none

/-- The amount that a JSON value states for a dimension. What is not given is zero, and of a repeated name the
last amount counts. -/
def stated (value : Json) : Dimension → UInt64
  | .cpuMillis => (value.optional fields "cpuMillis" Json.asWord? 0).getD 0
  | .taskHeap => size "taskHeap"
  | .taskOffHeap => size "taskOffHeap"
  | .managedMemory => size "managedMemory"
  | .networkMemory => size "networkMemory"
  | .extended name => ((lastMember? value name).bind Json.asWord?).getD 0
where
  size (field : String) : UInt64 :=
    ((value.optional fields field MemorySize.ofJson? .zero).getD .zero).bytes

/-- Of the amounts that are set for a name the last one counts. -/
theorem amount_foldl_members {members : List (String × Json)} {amounts : List (String × UInt64)}
    (h : members.mapM (fun m => m.2.asWord?.map (m.1, ·)) = some amounts) (a : Amounts) (name : String) :
    (amounts.foldl (fun a e => a.set e.1 e.2) a).amount name =
      match members.reverse.lookup name with
      | some member => member.asWord?.getD 0
      | none => a.amount name := by
  induction members generalizing amounts a with
  | nil =>
    obtain rfl := Option.some.inj h
    rfl
  | cons m rest ih =>
    obtain ⟨first, member⟩ := m
    rw [List.mapM_cons] at h
    obtain ⟨e, he, h⟩ := Option.bind_eq_some_iff.1 h
    obtain ⟨amounts, hrest, h⟩ := Option.bind_eq_some_iff.1 h
    obtain ⟨w, hw, rfl⟩ := Option.map_eq_some_iff.1 he
    obtain rfl := Option.some.inj h
    rw [List.foldl_cons, ih hrest, List.reverse_cons, List.lookup_append]
    cases rest.reverse.lookup name with
    | some later => rfl
    | none =>
      -- the name does not stand again after this member
      have hw : member.asWord? = some w := hw
      rw [Amounts.amount_set]
      by_cases hname : name = first
      · simp [hname, hw]
      · simp [List.lookup_cons, hname, beq_false_of_ne hname]

/-- The named amounts that are read are those that are stated. -/
theorem amount_of_optional {value : Json} {a : Amounts}
    (h : value.optional fields "extended" amountsOfJson? .none = some a) (name : String) :
    a.amount name = stated value (.extended name) := by
  unfold stated lastMember?
  unfold Json.optional at h
  cases hfield : value.field? fields "extended" with
  | none =>
    rw [hfield] at h
    obtain rfl := Option.some.inj h
    rfl
  | some member =>
    rw [hfield] at h
    obtain ⟨members, hmembers, h⟩ := Option.bind_eq_some_iff.1 h
    obtain ⟨amounts, hamounts, h⟩ := Option.bind_eq_some_iff.1 h
    obtain rfl := Option.some.inj h
    cases member with
    | object ms =>
      obtain rfl := Option.some.inj hmembers
      rw [Amounts.ofList, amount_foldl_members hamounts]
      dsimp only
      cases ms.reverse.lookup name <;> rfl
    | _ => cases hmembers

/-- What is read is what is stated. -/
theorem amount_of_ofJson? {value : Json} (h : ofJson? value = some p) (d : Dimension) :
    p.amount d = stated value d := by
  unfold ofJson? at h
  split at h
  · simp only [Option.bind_eq_bind, Option.bind_eq_some_iff, Option.pure_def, Option.some.injEq] at h
    obtain ⟨cpuMillis, hcpu, taskHeap, hheap, taskOffHeap, hoff, managed, hmanaged, network, hnetwork, extended,
      hextended, rfl⟩ := h
    cases d with
    | cpuMillis => rw [stated, hcpu]; rfl
    | taskHeap => rw [stated, stated.size, hheap]; rfl
    | taskOffHeap => rw [stated, stated.size, hoff]; rfl
    | managedMemory => rw [stated, stated.size, hmanaged]; rfl
    | networkMemory => rw [stated, stated.size, hnetwork]; rfl
    | extended name => exact amount_of_optional hextended name
  · cases h

/-- Settings that give the amounts other than zero, in any order, and nothing else. -/
structure Lists (settings : List (Dimension × UInt64)) (amount : Dimension → UInt64) : Prop where
  given : ∀ s ∈ settings, s.2 ≠ 0 ∧ amount s.1 = s.2
  complete : ∀ d, amount d ≠ 0 → d ∈ settings.map Prod.fst

/-- A dimension that is always set to the same amount has it in the end. -/
theorem amount_foldl_set {settings : List (Dimension × UInt64)} {amount : Dimension → UInt64}
    (h : ∀ s ∈ settings, amount s.1 = s.2) (p : ResourceProfile) (d : Dimension) :
    (settings.foldl (fun p s => p.set s.1 s.2) p).amount d =
      if d ∈ settings.map Prod.fst then amount d else p.amount d := by
  induction settings generalizing p with
  | nil => rfl
  | cons s rest ih =>
    obtain ⟨hfirst, hrest⟩ := List.forall_mem_cons.1 h
    rw [List.foldl_cons, ih hrest, amount_set, List.map_cons]
    by_cases hd : d = s.1
    · subst hd
      simp [hfirst]
    · simp only [List.mem_cons, hd, false_or, if_false]

/-- Setting the amounts other than zero gives the profile that has them. -/
theorem foldl_set_of_lists {settings : List (Dimension × UInt64)} (h : Lists settings p.amount) :
    settings.foldl (fun p s => p.set s.1 s.2) zero = p := by
  refine ext_amount fun d => ?_
  rw [amount_foldl_set fun s hs => (h.given s hs).2]
  split
  · rfl
  · rename_i hd
    -- a dimension that is not set is one of those that are zero
    have hzero : p.amount d = 0 := by
      by_contra hne
      exact hd (h.complete d hne)
    rw [hzero]
    cases d <;> rfl

end ResourceProfile

theorem Recipe.eval?_built {P : Type} (ops : ProfileOps P) (settings : List (Dimension × UInt64)) :
    (built settings).eval? ops = some (settings.foldl (fun p s => ops.set p s.1 s.2) ops.zero) := by
  have hfold : ∀ (r : Recipe) (p : P), r.eval? ops = some p →
      (settings.foldl (fun r s => r.set s.1 s.2) r).eval? ops =
        some (settings.foldl (fun p s => ops.set p s.1 s.2) p) := by
    induction settings with
    | nil => exact fun r p h => h
    | cons s rest ih =>
      intro r p h
      refine ih _ _ ?_
      rw [eval?, h]
      rfl
  exact hfold .zero ops.zero rfl

/-! ## The normal form -/

/-- Whatever way two profiles are obtained in, entry by entry: they are those that are obtained without loose
amounts, no zero is stored, they are equal if they have the same amounts, and zero if all amounts are. One that
is decoded is equal to one that is built from the amounts that are stated and not zero. -/
theorem normal_forms {r s : Recipe} {p q : LooseProfile} (hp : r.eval? LooseProfile.ops = some p)
    (hq : s.eval? LooseProfile.ops = some q) :
    (∃ strict, r.eval? ResourceProfile.ops = some strict ∧ p = strict.loose) ∧
    (∀ e ∈ p.extended.stored.entries, e.2 ≠ 0) ∧
    (p = q ↔ ∀ d, p.amount d = q.amount d) ∧
    (p.isZero = true ↔ ∀ d, p.amount d = 0) ∧
    ∀ value settings, r = .decoded value → ResourceProfile.Lists settings (ResourceProfile.stated value) →
      (Recipe.built settings).eval? LooseProfile.ops = some p := by
  rw [Recipe.eval?_loose] at hp hq
  obtain ⟨p, hstrict, rfl⟩ := Option.map_eq_some_iff.1 hp
  obtain ⟨q, -, rfl⟩ := Option.map_eq_some_iff.1 hq
  refine ⟨⟨p, hstrict, rfl⟩, fun e => Amounts.ne_zero_of_mem, ResourceProfile.loose_eq_iff, ?_, ?_⟩
  · rw [ResourceProfile.loose_isZero, ResourceProfile.isZero_iff]
    exact forall_congr' fun d => by rw [ResourceProfile.amount_loose]
  · rintro value settings rfl hlists
    have hstated : ResourceProfile.stated value = p.amount :=
      funext fun d => (ResourceProfile.amount_of_ofJson? hstrict d).symm
    rw [hstated] at hlists
    rw [Recipe.eval?_loose, Recipe.eval?_built]
    exact congrArg (fun p => some p.loose) (ResourceProfile.foldl_set_of_lists hlists)

/-- A JSON value with a zero among its named amounts, and with a name that stands twice. -/
def repeatedName : Json :=
  .object [("cpuMillis", .number "1000"),
    ("extended", .object [("gpu", .number "0"), ("fpga", .number "5"), ("fpga", .number "2")])]

theorem lists_repeatedName :
    ResourceProfile.Lists [(.extended "fpga", 2), (.cpuMillis, 1000)] (ResourceProfile.stated repeatedName) where
  given := by decide
  complete d hd := by
    cases d with
    | cpuMillis => decide
    | extended name =>
      have hname : name = "fpga" := by
        by_contra hfpga
        by_cases hgpu : name = "gpu"
        · subst hgpu
          exact hd (by decide)
        · have hnone : ResourceProfile.lastMember? repeatedName name = none := by
            show List.lookup name [("fpga", Json.number "2"), ("fpga", .number "5"), ("gpu", .number "0")] = none
            simp [List.lookup_cons, beq_false_of_ne hfpga, beq_false_of_ne hgpu]
          exact hd (by rw [ResourceProfile.stated, hnone]; rfl)
      subst hname
      decide
    | _ => exact absurd (by decide) hd

theorem normal_forms_repeatedName :
    ∃ p, (Recipe.decoded repeatedName).eval? LooseProfile.ops = some p ∧
      (Recipe.excess (.sum (.decoded repeatedName) (.set .zero (.extended "gpu") 3))
        (.set .zero (.extended "gpu") 3)).eval? LooseProfile.ops = some p ∧
      (∀ e ∈ p.extended.stored.entries, e.2 ≠ 0) ∧ p.isZero = false ∧
      (Recipe.built [(.extended "fpga", 2), (.cpuMillis, 1000)]).eval? LooseProfile.ops = some p := by
  have hread : (Recipe.decoded repeatedName).eval? LooseProfile.ops =
      some ⟨1000, .zero, .zero, .zero, .zero, ⟨.ofList [("fpga", 2)]⟩⟩ := by decide
  have hdone : (Recipe.excess (.sum (.decoded repeatedName) (.set .zero (.extended "gpu") 3))
      (.set .zero (.extended "gpu") 3)).eval? LooseProfile.ops =
        some ⟨1000, .zero, .zero, .zero, .zero, ⟨.ofList [("fpga", 2)]⟩⟩ := by decide
  obtain ⟨-, hpositive, -, hzero, hbuilt⟩ := normal_forms hread hdone
  refine ⟨_, hread, hdone, hpositive, ?_, hbuilt repeatedName _ rfl lists_repeatedName⟩
  rw [Bool.eq_false_iff, ne_eq, hzero]
  exact fun hall => absurd (hall .cpuMillis) (by decide)

end WorkerSlots
