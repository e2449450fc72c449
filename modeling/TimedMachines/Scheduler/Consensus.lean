import TimedMachines.Machine

/-!
# Consensus on sleep

How long a set of machines can be left alone: until the earliest of
their wakeups, or forever if none of them has one.
-/

namespace TimedMachines

/-- **The earliest wakeup of a set of machines**, `none` if all of them
are in infinite sleep. -/
structure Consensus where
  /-- The earliest wakeup. -/
  earliest : Option Timestamp
deriving DecidableEq, Repr

namespace Consensus

/-- The consensus of no machines. -/
def idle : Consensus := ⟨none⟩

/-- Whether no machine has a wakeup. -/
def isInfiniteSleep (c : Consensus) : Bool :=
  c.earliest.isNone

/-- The consensus with a wakeup more. -/
def consider (c : Consensus) (wakeup : Option Timestamp) : Consensus :=
  match c.earliest, wakeup with
  | some a, some b => ⟨some (a.earlier b)⟩
  | some a, none => ⟨some a⟩
  | none, b => ⟨b⟩

/-- The consensus with a machine more. -/
def insert (c : Consensus) (status : Status) : Consensus :=
  c.consider status.scheduled

/-- The consensus of two sets of machines. -/
def merge (c d : Consensus) : Consensus :=
  c.consider d.earliest

end Consensus

end TimedMachines
