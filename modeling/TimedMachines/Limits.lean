/-!
# Limits

Indices, states, event codes and positions are single bytes, and none of
them uses the last value, so that every count is a byte too.
-/

namespace TimedMachines

/-- The version of the library. -/
def version : String := "0.1.0"

/-- The most states a transition table can have. -/
def maxStates : Nat := 255

/-- The most events a transition table can have. -/
def maxEvents : Nat := 255

/-- The most members a group can have. -/
def maxMembers : Nat := 255

/-- The most groups a scheduler can have. -/
def maxGroups : Nat := 255

/-- The most slots an event queue can have. -/
def maxSlots : Nat := 255

/-- The room for a status line, in bytes. -/
def statusLineSize : Nat := 96

end TimedMachines
