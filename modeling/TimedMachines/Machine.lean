import TimedMachines.Behaviour
import TimedMachines.Table

/-!
# State machines with timeouts

A machine is a transition table, an optional initialization handler and
a `Status`: the state it is in, the time it wants to be woken up, and
three flags. `Machine.deliver` gives it one event. An event without a
column, or without a handler in the present state, or a timeout that
comes before the wakeup, leaves the machine where it is; otherwise its
handler runs once, and the machine moves to the table's target – or the
handler's choice – with a new wakeup, or is restored if the handler
vetoed the step.

Both functions work in any `World` whose states hold the machine's
status somewhere, which a `Slot` says. While a handler runs, the status
in the slot is that of a machine without a wakeup, and what the handler
makes the world do to it is overwritten when the handler is done.
-/

namespace TimedMachines

/-- **The flags of a machine.** -/
structure MachineFlags where
  /-- No wakeup is scheduled. -/
  infiniteSleep : Bool
  /-- The last handler vetoed its step. -/
  preventTransition : Bool
  /-- The last step went to a state of the handler's choice. -/
  nextStateOverride : Bool
deriving DecidableEq, Repr

namespace MachineFlags

/-- The flags of a machine that has not run: it sleeps. -/
def startup : MachineFlags := ⟨true, false, false⟩

/-- No flag. -/
def clear : MachineFlags := ⟨false, false, false⟩

instance : Inhabited MachineFlags := ⟨clear⟩

end MachineFlags

/-- **The changing part of a machine.** -/
structure Status where
  /-- The state the machine is in. -/
  state : StateId
  /-- When to wake up; without meaning in infinite sleep. -/
  wakeup : Timestamp
  /-- The flags. -/
  flags : MachineFlags
deriving DecidableEq, Repr

namespace Status

/-- The status of a machine that has not run. -/
def startup : Status := ⟨0, .zero, .startup⟩

instance : Inhabited Status := ⟨startup⟩

/-- The wakeup, unless the machine is in infinite sleep. -/
def scheduled (status : Status) : Option Timestamp :=
  if status.flags.infiniteSleep then none else some status.wakeup

/-- Whether a timeout that comes now leaves the machine asleep.
`wakesSleepers` lets it through to machines in infinite sleep. -/
def isAsleep (status : Status) (now : Timestamp) (wakesSleepers : Bool) : Bool :=
  (status.flags.infiniteSleep && !wakesSleepers) || status.wakeup.after now

/-- The ticks left until the wakeup, as handlers are shown them. -/
def left (status : Status) (now : Timestamp) : Ticks :=
  if status.flags.infiniteSleep then infiniteTicks else now.ticksUntil status.wakeup

/-- The status while a handler runs. -/
def suspended (status : Status) : Status :=
  ⟨status.state, .zero, .clear⟩

/-- The status after a vetoed step. -/
def restored (status : Status) : Status :=
  { status with flags := { status.flags with preventTransition := true } }

/-- The status of a machine that can only be woken by another event. -/
def sleepForever (status : Status) : Status :=
  { status with flags := { status.flags with infiniteSleep := true } }

/-- The status with its wakeup seen from the epoch that starts at the
wrap. -/
def rebased (status : Status) : Status :=
  { status with wakeup := status.wakeup.rebased }

end Status

/-- The status that a step leads to. -/
def Move.status (move : Move) : Status where
  state := move.target
  wakeup := (move.delay.map move.base.offset).getD .zero
  flags := ⟨move.delay.isNone, false, move.overridden⟩

/-- The time that delays are counted from. -/
inductive DelayBase where
  /-- The time before the handler ran. -/
  | beforeHandler
  /-- The time after the handler ran. -/
  | afterHandler
deriving DecidableEq, Repr

/-- **How wakeups are computed.** -/
structure Timing where
  /-- The delay of a step whose handler asked for none. -/
  defaultDelay : Ticks
  /-- What delays are counted from. -/
  delayBase : DelayBase
deriving DecidableEq, Repr

/-- **A state machine**, over handlers with a shared memory of type `μ`. -/
structure Machine (μ : Type) where
  /-- What it does with which event in which state. -/
  table : Table (Handler μ)
  /-- The handler that prepares it when the scheduler starts. -/
  init : Option (Handler μ)

/-- Where a world keeps the status of a machine. -/
structure Slot (σ : Type) where
  /-- Reads the status. -/
  read : σ → Status
  /-- Replaces the status. -/
  write : Status → σ → σ

namespace Machine

variable {σ μ : Type}

/-! ## Initialization -/

/-- The status after an initialization that was not vetoed. Without a
delay the wakeup stays as it was. -/
def prepared (before : Status) (wishes : Wishes) (wakeup : Option Timestamp) : Status where
  state := wishes.target.getD before.state
  wakeup := wakeup.getD before.wakeup
  flags := { before.flags with
    infiniteSleep :=
      match wishes.stay with
      | .byDefault => before.flags.infiniteSleep
      | .ticks _ => false
      | .forever => true
    nextStateOverride := before.flags.nextStateOverride || wishes.target.isSome }

/-- **Running the initialization handler.** It is shown a timeout. A delay
schedules the first wakeup, an override moves the machine, and a veto
leaves everything as it is. -/
def prepare (w : World σ μ) (slot : Slot σ) (machine : Machine μ) (place : Coords) (s : σ) : σ :=
  match machine.init with
  | none => s
  | some init =>
    let s := w.report (.note (.preparing place)) s
    let before := slot.read s
    let view : View := ⟨place, before.state, .timeout, infiniteTicks⟩
    let (wishes, s) := (init view).run w machine.table.hasState .none s
    if wishes.veto then
      s
    else
      match wishes.stay with
      | .ticks delay =>
        let (now, s) := w.now s
        slot.write (prepared before wishes (some (now.offset delay))) s
      | _ => slot.write (prepared before wishes none) s

/-! ## Delivery -/

/-- The delay of a step into `target`: none if it is to last forever, or
if the state has no handler for the timeout that would end it. -/
def delayFor (machine : Machine μ) (timing : Timing) (stay : Stay) (target : StateId) :
    Option Ticks :=
  if machine.table.handlesTimeout target then
    match stay with
    | .byDefault => some timing.defaultDelay
    | .ticks n => some n
    | .forever => none
  else
    none

/-- **The step** that a handler's wishes and the table's target make. -/
def move (machine : Machine μ) (timing : Timing) (view : View) (tableTarget : StateId)
    (wishes : Wishes) (base : Timestamp) : Move :=
  let target := wishes.target.getD tableTarget
  { place := view.place
    source := view.state
    event := view.event
    target := target
    overridden := wishes.target.isSome
    delay := machine.delayFor timing wishes.stay target
    base := base }

/-- Runs the handler of an event that reached the machine, and takes the
step or restores the machine. -/
def handle (w : World σ μ) (slot : Slot σ) (machine : Machine μ) (timing : Timing)
    (handler : Handler μ) (target : StateId) (before : Status) (now : Timestamp) (view : View)
    (s : σ) : σ :=
  let s := slot.write before.suspended s
  let s := w.report (.note (.processing view.place view.state view.event)) s
  let (wishes, s) := (handler view).run w machine.table.hasState .none s
  if wishes.veto then
    let s := slot.write before.restored s
    w.report (.record (.vetoed view.place view.state view.event)) s
  else
    let (base, s) :=
      match timing.delayBase with
      | .beforeHandler => (now, s)
      | .afterHandler => w.now s
    let move := machine.move timing view target wishes base
    let s := slot.write move.status s
    w.report (.record (.transition move)) s

/-- **Delivering an event.** At most one handler runs. -/
def deliver (w : World σ μ) (slot : Slot σ) (machine : Machine μ) (timing : Timing)
    (wakesSleepers : Bool) (place : Coords) (event : Event) (s : σ) : σ :=
  if machine.table.hasEvent event.code then
    let (now, s) := w.now s
    let before := slot.read s
    match machine.table.get? before.state event.code with
    | none => w.report (.note (.missingRow place before.state)) s
    | some ⟨none, _⟩ =>
      let s := if event.isTimeout then slot.write before.sleepForever s else s
      w.report (.record (.suppressed place before.state event .noHandler)) s
    | some ⟨some handler, target⟩ =>
      if event.isTimeout && before.isAsleep now wakesSleepers then
        let note :=
          if before.flags.infiniteSleep then Note.soundAsleep place
          else Note.asleep place (now.ticksUntil before.wakeup)
        let s := w.report (.note note) s
        w.report (.record (.suppressed place before.state event .asleep)) s
      else
        let view : View := ⟨place, before.state, event, before.left now⟩
        machine.handle w slot timing handler target before now view s
  else
    w.report (.note (.unexpectedEvent place event.code)) s

end Machine

end TimedMachines
