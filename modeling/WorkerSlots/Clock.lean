/-!
# Virtual time

Time stands still except when it is moved on purpose. On the way it stops at every moment at
which something is due, the earliest first.

* `Timed σ` : a system that knows its time, when it changes next, and what changes then;
* `Timed.wake` : moves the clock and does what is due then;
* `Timed.advance` : moves the clock by an amount;
* `Timed.await` : moves the clock until a condition holds, or up to a limit. Whoever waits in vain
  is told so first: what is due at the limit itself is not done yet.
-/

namespace WorkerSlots

/-- A system that changes by itself as time passes. -/
class Timed (σ : Type) where
  now : σ → Nat
  /-- The earliest time at which something is due. -/
  next? : σ → Option Nat
  /-- Moves the clock to a time and does nothing else. -/
  moveTo : Nat → σ → σ
  /-- Does what is due now. -/
  settle : σ → σ
  /-- At least as many as the times at which something is going to be due. -/
  pending : σ → Nat

namespace Timed

variable {σ : Type} [Timed σ]

/-- Moves the clock to a time and does what is due then. -/
def wake (time : Nat) (s : σ) : σ := settle (moveTo time s)

/-- Moves the clock to `limit`, with at most `fuel` stops on the way. -/
def advanceTo (limit : Nat) : Nat → σ → σ
  | 0, s => wake limit s
  | fuel + 1, s =>
    match next? s with
    | some t => if t < limit then advanceTo limit fuel (wake t s) else wake limit s
    | none => wake limit s

def advance (ms : UInt64) (s : σ) : σ := advanceTo (now s + ms.toNat) (pending s) s

/-- Moves the clock until a condition holds, and to `limit` if it does not hold before. -/
def awaitTo (holds : σ → Bool) (limit : Nat) : Nat → σ → Bool × σ
  | 0, s => if holds s then (true, s) else (false, moveTo limit s)
  | fuel + 1, s =>
    if holds s then (true, s)
    else
      match next? s with
      | some t => if t < limit then awaitTo holds limit fuel (wake t s) else (false, moveTo limit s)
      | none => (false, moveTo limit s)

/-- Waits for a condition, no longer than an amount of time; says whether it came to hold. At the
limit the wait ends before anything else happens. -/
def await (holds : σ → Bool) (ms : UInt64) (s : σ) : Bool × σ :=
  awaitTo holds (now s + ms.toNat) (pending s) s

end Timed

end WorkerSlots
