/-!
# Permits

Every unanswered command holds a permit, and a connection has a fixed number of them, its ceiling.
A command is sent only when a permit is free, which bounds what the server may be asked at a time.

The permits taken are counted in a machine word. A permit that is given back without having been
taken would wrap it around, and then no permit would be free any more.
-/

namespace CommandPipeline

/-- A pool of permits: how many there are and how many are taken. -/
structure Permits where
  ceiling : Nat
  taken : Nat
  deriving DecidableEq, Repr

namespace Permits

/-- A pool with all permits free. There is always at least one. -/
def ofCeiling (ceiling : Nat) : Permits := ⟨max 1 ceiling, 0⟩

/-- No permit is free. -/
def isFull (p : Permits) : Bool := decide (p.ceiling ≤ p.taken)

/-- Takes a permit without asking whether one is free. -/
def take (p : Permits) : Permits := { p with taken := p.taken + 1 }

/-- Takes a permit if one is free. -/
def acquire? (p : Permits) : Option Permits := if p.isFull then none else some p.take

/-- Gives a permit back without asking whether one is taken. -/
def release (p : Permits) : Permits :=
  { p with taken := if p.taken = 0 then UInt64.size - 1 else p.taken - 1 }

/-- Gives a permit back if one is taken. -/
def release? (p : Permits) : Option Permits := if p.taken = 0 then none else some p.release

/-- A permit that has been taken can be given back. -/
theorem taken_release_add_one {p : Permits} (h : 0 < p.taken) : p.release.taken + 1 = p.taken := by
  rw [release, if_neg (Nat.ne_of_gt h), Nat.sub_add_cancel h]

/-- Takes the permit that another holder gives back, when none is free. -/
def acquireReleased? (p : Permits) : Option Permits :=
  if p.isFull then p.release.acquire? else none

end Permits

end CommandPipeline
