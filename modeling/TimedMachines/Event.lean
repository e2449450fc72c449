import TimedMachines.Text.Decimal

/-!
# Events

An event is a code, which selects a column of a transition table, and a
byte of data, which handlers may read. Code 0 is the **timeout**: the
event a machine's scheduled wakeup turns into.
-/

namespace TimedMachines

/-- The code of an event. -/
abbrev EventCode := UInt8

/-- The data of an event. -/
abbrev EventData := UInt8

/-- A state of a machine, a row of its transition table. -/
abbrev StateId := UInt8

/-- **An event**: what happened, and a byte about it. -/
structure Event where
  /-- What happened. -/
  code : EventCode
  /-- A detail for handlers. -/
  data : EventData
deriving DecidableEq, Repr

/-- Whether a code is that of the timeout. -/
def EventCode.isTimeout (code : EventCode) : Bool :=
  code == 0

namespace Event

/-- The timeout that the scheduler queues itself. -/
def timeout : Event := ⟨0, 0⟩

instance : Inhabited Event := ⟨timeout⟩

/-- Whether an event is a timeout, with any data. -/
def isTimeout (event : Event) : Bool :=
  EventCode.isTimeout event.code

/-- The wording of an event in messages. -/
def text (event : Event) : String :=
  "eventCode " ++ Decimal.text event.code.toNat ++ " eventData " ++ Decimal.text event.data.toNat

end Event

/-- What became of an event that a queue accepted. -/
inductive Enqueued where
  /-- It took a slot of its own. -/
  | appended
  /-- Its data replaced that of the newest pending event. -/
  | coalesced
deriving DecidableEq, Repr

/-- **Where a machine stands**: a group, and a position in that group. A
machine that belongs to several groups has several coordinates. -/
structure Coords where
  /-- The index of the group. -/
  group : UInt8
  /-- The position among the group's members. -/
  position : UInt8
deriving DecidableEq, Repr

/-- The wording of coordinates in messages. -/
def Coords.text (coords : Coords) : String :=
  "F(" ++ Decimal.text coords.position.toNat ++ ")G(" ++ Decimal.text coords.group.toNat ++ ")"

end TimedMachines
