import WorkerSlots.Text.Blank
import WorkerSlots.Text.Decimal

/-!
# Identities

* `Id kind` : a 128-bit identity; `JobId`, `AllocationId` and `ExecutionId` are its kinds;
* `Id.toText`, `Id.hyphenated` : 32 hexadecimal digits, without and with hyphens;
* `Id.ofText?` : reads either form, the second also in braces or after `urn:uuid:`
  in either letter case;
* `ResourceId` : the name of a worker.
-/

namespace WorkerSlots

/-- What an identity identifies. -/
inductive IdKind where
  /-- A job that holds slots. -/
  | job
  /-- A grant of a slot to a job. -/
  | allocation
  /-- An attempt to execute a task. -/
  | execution
  deriving DecidableEq, Repr

def IdKind.name : IdKind → String
  | job => "JobId"
  | allocation => "AllocationId"
  | execution => "ExecutionAttemptId"

/-- A 128-bit identity. -/
structure Id (kind : IdKind) where
  value : BitVec 128
  deriving DecidableEq

/-- The identity of a job. -/
abbrev JobId := Id .job

/-- The identity of a grant of a slot; a repeated request for the same grant carries it again. -/
abbrev AllocationId := Id .allocation

/-- The identity of an attempt to execute a task. -/
abbrev ExecutionId := Id .execution

namespace Id

variable {kind : IdKind}

instance : Inhabited (Id kind) := ⟨⟨0⟩⟩

instance : Ord (Id kind) := ⟨fun a b => compare a.value b.value⟩

instance : Std.OrientedOrd (Id kind) where
  eq_swap := Std.OrientedOrd.eq_swap (α := BitVec 128)

instance : Std.TransOrd (Id kind) where
  isLE_trans := Std.TransOrd.isLE_trans (α := BitVec 128)

instance : Std.LawfulEqOrd (Id kind) where
  eq_of_compare h := by
    rename_i a b
    cases a
    cases b
    exact congrArg mk (Std.LawfulEqOrd.eq_of_compare (α := BitVec 128) h)

def ofNat (n : Nat) : Id kind := ⟨BitVec.ofNat 128 n⟩

def digits (id : Id kind) : List Char := Text.hexDigits 32 id.value.toNat

/-- The lengths of the groups of digits in the hyphenated form. -/
def groups : List Nat := [8, 4, 4, 4, 12]

/-- Splits digits into groups with hyphens between them. -/
def hyphenate : List Nat → List Char → List Char
  | [], _ => []
  | [_], cs => cs
  | n :: ns, cs => cs.take n ++ '-' :: hyphenate ns (cs.drop n)

/-- Takes the hyphens out of a hyphenated form. -/
def unhyphenate? : List Nat → List Char → Option (List Char)
  | [], cs => if cs.isEmpty then some [] else none
  | [n], cs => if cs.length = n then some cs else none
  | n :: ns, cs =>
    match cs.drop n with
    | '-' :: rest => (unhyphenate? ns rest).map (cs.take n ++ ·)
    | _ => none

/-- The digits without hyphens, the form used in messages. -/
def toText (id : Id kind) : String := String.ofList id.digits

instance : ToString (Id kind) := ⟨toText⟩

/-- The digits with hyphens, the form used in JSON. -/
def hyphenated (id : Id kind) : String := String.ofList (hyphenate groups id.digits)

/-- The identity with the name of its type, the form used for inspection. -/
def inspect (id : Id kind) : String := kind.name ++ "(" ++ id.hyphenated ++ ")"

def ofDigits? (cs : List Char) : Option (Id kind) :=
  if cs.length = 32 then (Text.hexNumber? cs).map ofNat else none

/-- What stands before the hyphenated form in a name, in either letter case. -/
def nameScheme : List Char := "urn:uuid:".toList

/-- Drops the decoration around a hyphenated form: braces, or a leading `urn:uuid:`. -/
def undecorated (cs : List Char) : List Char :=
  match cs with
  | '\x7b' :: rest => if rest.getLast? = some '\x7d' then rest.dropLast else cs
  | cs =>
    if Text.lower (cs.take nameScheme.length) = nameScheme then cs.drop nameScheme.length else cs

def ofText? (text : String) : Option (Id kind) :=
  let cs := text.toList
  if cs.length = 32 then ofDigits? cs
  else (unhyphenate? groups (undecorated cs)).bind ofDigits?

end Id

/-- The name of a worker. -/
structure ResourceId where
  name : String
  deriving DecidableEq

end WorkerSlots
