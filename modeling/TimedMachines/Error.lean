import TimedMachines.Text.Decimal

/-!
# Errors

What can be wrong with a declaration or with a call, as causes;
`Error.message` has their wording.
-/

namespace TimedMachines

/-- **Why a declaration or a call was refused.** -/
inductive Error where
  /-- No group has this index. -/
  | invalidGroup (index : UInt8)
  /-- No machine stands at this position. -/
  | invalidMachine (position : UInt8)
  /-- The table has no such state. -/
  | invalidState (state : UInt8)
  /-- The table has no such event. -/
  | eventOutOfRange (code : UInt8)
  /-- The event needed a slot and every slot was taken. -/
  | queueFull
  /-- A queue cannot have this many slots. -/
  | queueCapacity (slots : Nat)
  /-- A table has no rows or columns, or too many. -/
  | tableShape
  /-- There is no index left for another group. -/
  | tooManyGroups
  /-- There are not enough positions for the members of a group. -/
  | tooManyMachines
  /-- No group was declared. -/
  | emptyTopology
deriving DecidableEq, Repr

/-- The wording of an error. -/
def Error.message : Error → String
  | .invalidGroup index => "Invalid group index " ++ Decimal.text index.toNat
  | .invalidMachine position => "Invalid FSM index " ++ Decimal.text position.toNat
  | .invalidState state => "Invalid state " ++ Decimal.text state.toNat
  | .eventOutOfRange code => "Event code " ++ Decimal.text code.toNat ++ " is out of range"
  | .queueFull => "Event queue is full"
  | .queueCapacity slots => "Invalid event queue capacity " ++ Decimal.text slots
  | .tableShape => "Invalid transition table shape"
  | .tooManyGroups => "Too many groups"
  | .tooManyMachines => "Too many FSMs in group"
  | .emptyTopology => "No groups declared"

end TimedMachines
