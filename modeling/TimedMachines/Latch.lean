/-!
# The wake latch

Producers set the latch when something has happened that the scheduler
must not sleep through, and the scheduler clears it when its sleep ends.
A wake that comes before the sleep is kept, so it cannot be lost.
-/

namespace TimedMachines

/-- **A latch** between producers and a sleeper. -/
structure Latch where
  /-- Whether a wake is pending. -/
  woken : Bool
deriving DecidableEq, Repr

namespace Latch

/-- The latch without a pending wake. -/
def clear : Latch := ⟨false⟩

/-- The latch after a wake; a second one changes nothing. -/
def wake (_ : Latch) : Latch := ⟨true⟩

/-- Whether a wake was pending, and the latch without it. -/
def take (latch : Latch) : Bool × Latch := (latch.woken, clear)

/-- The latch after a sleep, which ends at once if a wake is pending and
otherwise lasts until there is one. -/
def sleep? (latch : Latch) : Option Latch :=
  if latch.woken then some clear else none

end Latch

end TimedMachines
