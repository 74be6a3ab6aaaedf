import WorkerSlots.MemorySize.Text
import WorkerSlots.Profile.Amounts

/-!
# Resource profiles

`ResourceProfile` : a quantity of resources in several dimensions (CPU, four kinds of memory, and
named extended resources), each compared and computed on its own.

* `Dimension`, `ResourceProfile.amount` : the amount in one dimension; profiles that agree in
  every dimension are equal (`ResourceProfile.ext_amount`);
* `fitsWithin`, `add?`, `sub?`, `subSat`, `divide` : dimension by dimension;
* `toText` : the one-line form used in messages.
-/

namespace WorkerSlots

/-- A quantity of resources. -/
structure ResourceProfile where
  /-- CPU in thousandths of a core. -/
  cpuMillis : UInt64
  taskHeap : MemorySize
  taskOffHeap : MemorySize
  /-- The memory that the slot itself manages. -/
  managedMemory : MemorySize
  networkMemory : MemorySize
  /-- Resources known by name only, such as GPUs. -/
  extended : Amounts
  deriving DecidableEq, Inhabited

/-- One of the quantities in a profile. -/
inductive Dimension where
  | cpuMillis
  | taskHeap
  | taskOffHeap
  | managedMemory
  | networkMemory
  | extended (name : String)
  deriving DecidableEq, Repr

namespace ResourceProfile

/-- The profile that is zero in every dimension. -/
def zero : ResourceProfile := ⟨0, .zero, .zero, .zero, .zero, .none⟩

def amount (p : ResourceProfile) : Dimension → UInt64
  | .cpuMillis => p.cpuMillis
  | .taskHeap => p.taskHeap.bytes
  | .taskOffHeap => p.taskOffHeap.bytes
  | .managedMemory => p.managedMemory.bytes
  | .networkMemory => p.networkMemory.bytes
  | .extended name => p.extended.amount name

/-- The profile with another amount in one dimension. -/
def set (p : ResourceProfile) (d : Dimension) (value : UInt64) : ResourceProfile :=
  match d with
  | .cpuMillis => { p with cpuMillis := value }
  | .taskHeap => { p with taskHeap := ⟨value⟩ }
  | .taskOffHeap => { p with taskOffHeap := ⟨value⟩ }
  | .managedMemory => { p with managedMemory := ⟨value⟩ }
  | .networkMemory => { p with networkMemory := ⟨value⟩ }
  | .extended name => { p with extended := p.extended.set name value }

def isZero (p : ResourceProfile) : Bool :=
  p.cpuMillis = 0 && p.taskHeap.isZero && p.taskOffHeap.isZero && p.managedMemory.isZero &&
    p.networkMemory.isZero && p.extended.isEmpty

/-- Whether no dimension is larger than the other profile's. -/
def fitsWithin (p q : ResourceProfile) : Bool :=
  p.cpuMillis ≤ q.cpuMillis && p.taskHeap ≤ q.taskHeap && p.taskOffHeap ≤ q.taskOffHeap &&
    p.managedMemory ≤ q.managedMemory && p.networkMemory ≤ q.networkMemory &&
    p.extended.le q.extended

/-- The sum, if it fits in every dimension. -/
def add? (p q : ResourceProfile) : Option ResourceProfile := do
  return {
    cpuMillis := ← Word.add? p.cpuMillis q.cpuMillis
    taskHeap := ← p.taskHeap.add? q.taskHeap
    taskOffHeap := ← p.taskOffHeap.add? q.taskOffHeap
    managedMemory := ← p.managedMemory.add? q.managedMemory
    networkMemory := ← p.networkMemory.add? q.networkMemory
    extended := ← p.extended.add? q.extended }

/-- The difference, zero in place of a negative amount. -/
def subSat (p q : ResourceProfile) : ResourceProfile where
  cpuMillis := Word.subSat p.cpuMillis q.cpuMillis
  taskHeap := p.taskHeap.subSat q.taskHeap
  taskOffHeap := p.taskOffHeap.subSat q.taskOffHeap
  managedMemory := p.managedMemory.subSat q.managedMemory
  networkMemory := p.networkMemory.subSat q.networkMemory
  extended := p.extended.subSat q.extended

/-- The difference, if the subtracted profile fits within this one. -/
def sub? (p q : ResourceProfile) : Option ResourceProfile :=
  if q.fitsWithin p then some (p.subSat q) else none

/-- An equal share, rounded down in every dimension; a division into no parts is one into one. -/
def divide (p : ResourceProfile) (parts : UInt64) : ResourceProfile :=
  let parts := max parts 1
  { cpuMillis := p.cpuMillis / parts
    taskHeap := p.taskHeap.share parts
    taskOffHeap := p.taskOffHeap.share parts
    managedMemory := p.managedMemory.share parts
    networkMemory := p.networkMemory.share parts
    extended := p.extended.share parts }

/-- CPU as a count of cores with three decimal places. -/
def cores (p : ResourceProfile) : String :=
  let millis := p.cpuMillis.toNat
  (millis / 1000).repr ++ "." ++ Text.padded 3 (millis % 1000)

def toText (p : ResourceProfile) : String :=
  "ResourceProfile\x7bcpuCores=" ++ p.cores ++ ", taskHeap=" ++ p.taskHeap.toText ++
    ", taskOffHeap=" ++ p.taskOffHeap.toText ++ ", managedMemory=" ++ p.managedMemory.toText ++
    ", networkMemory=" ++ p.networkMemory.toText ++
    String.join (p.extended.toList.map fun (name, x) => ", " ++ name ++ "=" ++ Text.decimal x) ++
    "\x7d"

instance : ToString ResourceProfile := ⟨toText⟩

/-- Two profiles with the same amounts are equal. -/
theorem ext_amount {p q : ResourceProfile} (h : ∀ d, p.amount d = q.amount d) : p = q := by
  have hext : p.extended = q.extended := Amounts.ext_amount fun name => h (.extended name)
  have h1 := h .cpuMillis
  have h2 := h .taskHeap
  have h3 := h .taskOffHeap
  have h4 := h .managedMemory
  have h5 := h .networkMemory
  obtain ⟨_, ⟨_⟩, ⟨_⟩, ⟨_⟩, ⟨_⟩, _⟩ := p
  obtain ⟨_, ⟨_⟩, ⟨_⟩, ⟨_⟩, ⟨_⟩, _⟩ := q
  simp_all [amount]

end ResourceProfile

end WorkerSlots
