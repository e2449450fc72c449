import TimedMachines.Event
import TimedMachines.Timestamp

/-!
# The journal

Everything that machines and their scheduler report about themselves, in
the order it happened. A `Record` is an observable step: it is kept as a
value, so that a run can be replayed from its records. A `Note` is a
message about the work in between. Both have a severity and a wording,
and `Journal.lines` is what a reader sees who asks for messages of a
given severity or worse.
-/

namespace TimedMachines

/-- How much a message matters, the gravest first. -/
inductive Severity where
  /-- A call that cannot be carried out. -/
  | error
  /-- A loss. -/
  | warn
  /-- A change of state. -/
  | info
  /-- A step of the work. -/
  | debug
  /-- A detail of a step. -/
  | trace
deriving DecidableEq, Repr

namespace Severity

/-- The place of a severity, the gravest being 1. -/
def rank : Severity → Nat
  | .error => 1
  | .warn => 2
  | .info => 3
  | .debug => 4
  | .trace => 5

/-- The word that opens a message. -/
def word : Severity → String
  | .error => "ERROR"
  | .warn => "WARN"
  | .info => "INFO"
  | .debug => "DEBUG"
  | .trace => "TRACE"

/-- Whether a reader who asks for `threshold` sees messages of this
severity: those of the threshold and all graver ones. -/
def reaches (severity threshold : Severity) : Bool :=
  decide (severity.rank ≤ threshold.rank)

end Severity

/-! ## Records -/

/-- Why an event did not reach a handler. -/
inductive Suppression where
  /-- A timeout came before the machine's wakeup or in infinite sleep. -/
  | asleep
  /-- The table has no handler for the state and the event. -/
  | noHandler
deriving DecidableEq, Repr

/-- **A step from one state to the next.** -/
structure Move where
  /-- The coordinates under which the event was delivered. -/
  place : Coords
  /-- The state before. -/
  source : StateId
  /-- The event that was handled. -/
  event : Event
  /-- The state after. -/
  target : StateId
  /-- Whether the handler chose the state after. -/
  overridden : Bool
  /-- The delay until the wakeup, `none` for infinite sleep. -/
  delay : Option Ticks
  /-- The time the delay is counted from. -/
  base : Timestamp
deriving DecidableEq, Repr

/-- **An observable step.** -/
inductive Record where
  /-- A handler ran and the machine moved. -/
  | transition (move : Move)
  /-- A handler ran and vetoed the move, so the machine was restored. -/
  | vetoed (place : Coords) (state : StateId) (event : Event)
  /-- An event did not reach a handler. -/
  | suppressed (place : Coords) (state : StateId) (event : Event) (reason : Suppression)
  /-- A group's queue took an event. -/
  | enqueued (group : UInt8) (event : Event) (outcome : Enqueued)
  /-- A group's queue was full and an event was lost. -/
  | dropped (group : UInt8) (event : Event)
  /-- The scheduler goes to sleep; `none` means until woken. -/
  | sleep (wakeup : Option Timestamp)
deriving DecidableEq, Repr

namespace Record

/-- The severity of a record. -/
def severity : Record → Severity
  | .dropped .. => .warn
  | .transition .. => .info
  | .vetoed .. | .enqueued .. => .debug
  | .suppressed .. | .sleep .. => .trace

/-- A number of ticks, or -1 where there is none. -/
def ticksText : Option Ticks → String
  | some ticks => Decimal.text ticks.toNat
  | none => "-1"

/-- The wording of a record. -/
def text : Record → String
  | .transition move =>
    move.place.text ++ ": Transitioning from state " ++ Decimal.text move.source.toNat ++ " ==> "
      ++ (if move.overridden then "!" else "") ++ Decimal.text move.target.toNat
      ++ ". Transition delay: " ++ ticksText move.delay
  | .vetoed place state _ =>
    place.text ++ ": Handler requested no transition. FSM state " ++ Decimal.text state.toNat
      ++ " was restored."
  | .suppressed place state event .noHandler =>
    place.text ++ ": Handler is not specified, state " ++ Decimal.text state.toNat
      ++ " event code " ++ Decimal.text event.code.toNat ++ ". Assuming infinite sleep."
  | .suppressed place _ _ .asleep => place.text ++ ": State Machine is asleep."
  | .enqueued group event outcome =>
    "G(" ++ Decimal.text group.toNat ++ "): Queued " ++ event.text ++ " (Updated "
      ++ (if outcome = .coalesced then "1" else "0") ++ ")."
  | .dropped group event =>
    "G(" ++ Decimal.text group.toNat ++ "): Buffer overflow. " ++ event.text ++ " dropped."
  | .sleep wakeup =>
    "O: Entering sleep... Wakeup Time " ++ ticksText (wakeup.map (·.ticks)) ++ "."

/-- Whether a record is a step from one state to the next. -/
def isTransition : Record → Bool
  | .transition _ => true
  | _ => false

end Record

/-! ## Notes -/

/-- **A message about the work between two records.** -/
inductive Note where
  /-- A scheduler was put together. -/
  | assembled (name : String) (groups machines : Nat)
  /-- The scheduler goes back to its startup state. -/
  | resetting
  /-- A machine's initialization handler is about to run. -/
  | preparing (place : Coords)
  /-- An event has no column in a machine's table. -/
  | unexpectedEvent (place : Coords) (code : EventCode)
  /-- A machine is in a state without a row. -/
  | missingRow (place : Coords) (state : StateId)
  /-- A timeout met a machine in infinite sleep. -/
  | soundAsleep (place : Coords)
  /-- A timeout met a machine that wakes up later. -/
  | asleep (place : Coords) (left : Ticks)
  /-- A handler is about to run. -/
  | processing (place : Coords) (state : StateId) (event : Event)
  /-- An event named a group that does not exist. -/
  | noSuchGroup (group : UInt8) (event : Event)
  /-- An event for all groups comes to the next group. -/
  | queuing (group : UInt8)
  /-- The scheduled wakeup has been reached. -/
  | wakeupReached
  /-- The scheduler saw the request to exit. -/
  | exiting
  /-- A pass comes to the next group. -/
  | visiting (group : UInt8)
  /-- A group had no event in this pass. -/
  | nothingPending (group : UInt8)
  /-- A pass left events behind. -/
  | backlog
  /-- The scheduler settled its next wakeup, `none` for infinite sleep. -/
  | enteringSleep (wakeup : Option Ticks)
  /-- The scheduler's sleep ended. -/
  | wokenUp
  /-- A message of a handler or of the program that runs the scheduler. -/
  | remark (severity : Severity) (message : String)
deriving DecidableEq, Repr

namespace Note

/-- The severity of a note. -/
def severity : Note → Severity
  | .noSuchGroup .. => .error
  | .unexpectedEvent .. | .missingRow .. => .warn
  | .assembled .. => .info
  | .resetting | .preparing .. | .processing .. | .wakeupReached | .exiting => .debug
  | .soundAsleep .. | .asleep .. | .queuing .. | .visiting .. | .nothingPending .. | .backlog
  | .enteringSleep .. | .wokenUp => .trace
  | .remark severity _ => severity

/-- The wording of a note. -/
def text : Note → String
  | .assembled name groups machines =>
    name ++ ": " ++ Decimal.text groups ++ " group(s), " ++ Decimal.text machines ++ " FSM(s)"
  | .resetting => "O: Resetting..."
  | .preparing place => place.text ++ ": Initializing..."
  | .unexpectedEvent place code =>
    place.text ++ ": Unexpected Event!!! Ignored eventCode " ++ Decimal.text code.toNat ++ "."
  | .missingRow place state =>
    place.text ++ ": State " ++ Decimal.text state.toNat ++ " has no table row."
  | .soundAsleep place => place.text ++ ": State Machine is in infinite sleep."
  | .asleep place left =>
    place.text ++ ": State Machine is asleep. Wakeup is scheduled in "
      ++ Decimal.text left.toNat ++ " ticks."
  | .processing place state event =>
    place.text ++ ": State: " ++ Decimal.text state.toNat ++ ". Processing " ++ event.text ++ "..."
  | .noSuchGroup group event =>
    "O: Invalid Group Index " ++ Decimal.text group.toNat ++ "!!! Dropped " ++ event.text ++ "."
  | .queuing group => "O: Event queuing group " ++ Decimal.text group.toNat ++ "..."
  | .wakeupReached => "O: Reached timeout. Queue global timeout event."
  | .exiting => "O: Exit requested."
  | .visiting group =>
    "O: Processing event for group index " ++ Decimal.text group.toNat ++ "..."
  | .nothingPending group => "G(" ++ Decimal.text group.toNat ++ "): Event queue is empty."
  | .backlog => "O: At least one group has pending event(s). Re-process all groups."
  | .enteringSleep wakeup =>
    "O: Entering sleep... Wakeup Time " ++ Record.ticksText wakeup ++ "."
  | .wokenUp => "O: Waked up."
  | .remark _ message => message

end Note

/-! ## The sequence of both -/

/-- A record or a note. -/
inductive Entry where
  /-- An observable step. -/
  | record (record : Record)
  /-- A message in between. -/
  | note (note : Note)
deriving DecidableEq, Repr

namespace Entry

/-- The severity of an entry. -/
def severity : Entry → Severity
  | .record r => r.severity
  | .note n => n.severity

/-- The wording of an entry. -/
def text : Entry → String
  | .record r => r.text
  | .note n => n.text

/-- The record in an entry, if it is one. -/
def record? : Entry → Option Record
  | .record r => some r
  | .note _ => none

/-- An entry as a line of a log: severity, then wording. -/
def line (entry : Entry) : String :=
  entry.severity.word ++ " " ++ entry.text

end Entry

/-- **Everything reported so far**, the oldest first. -/
abbrev Journal := Array Entry

namespace Journal

/-- The records, in order. -/
def records (journal : Journal) : Array Record :=
  journal.filterMap Entry.record?

/-- The notes, in order. -/
def notes (journal : Journal) : Journal :=
  journal.filter fun entry => entry.record?.isNone

/-- The log that a reader sees who asks for `threshold`. -/
def lines (journal : Journal) (threshold : Severity) : Array String :=
  (journal.filter fun entry => entry.severity.reaches threshold).map Entry.line

end Journal

end TimedMachines
