import WorkerSlots.Profile

/-!
# Resource budgets

`ResourceBudget` : how much of a worker's resources its slots have taken. A reservation is made
in every dimension or not at all; giving back what was never reserved is refused.
-/

namespace WorkerSlots

/-- All the resources of a worker, and the part that is taken. -/
structure ResourceBudget where
  total : ResourceProfile
  reserved : ResourceProfile
  deriving DecidableEq

namespace ResourceBudget

def new (total : ResourceProfile) : ResourceBudget := ⟨total, .zero⟩

/-- Takes a profile, if it fits into what is left. -/
def reserve? (b : ResourceBudget) (p : ResourceProfile) : Option ResourceBudget :=
  match b.reserved.add? p with
  | some reserved => if reserved.fitsWithin b.total then some { b with reserved } else none
  | none => none

/-- Gives a profile back, if as much is taken. -/
def release? (b : ResourceBudget) (p : ResourceProfile) : Option ResourceBudget :=
  (b.reserved.sub? p).map fun reserved => { b with reserved }

/-- What is wrong with giving back a profile of which less is taken. -/
def releaseFault (b : ResourceBudget) (p : ResourceProfile) : String :=
  s!"cannot release {p}: only {b.reserved} is reserved; this indicates a programming bug"

def available (b : ResourceBudget) : ResourceProfile := b.total.subSat b.reserved

end ResourceBudget

end WorkerSlots
