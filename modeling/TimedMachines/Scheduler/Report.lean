import TimedMachines.Scheduler.State

/-!
# Status reports

A snapshot of a scheduler, one of its groups and one machine of that
group, and the line that shows it, such as

    -O[I]-G(0)[.,001]-F(0)[ipo]-S(1)-TW[0000000005.,O:0000000000.,F:0000000007.]

The line has whether the scheduler is in infinite sleep; the group,
whether its queue is full and how many events are pending; the position
of the machine, its flags and its state; and the time with the wakeups
of the scheduler and of the machine. A flag is a capital when it is set,
and a wakeup that is not scheduled is written as the zero time.
-/

namespace TimedMachines

/-- **A snapshot** of a scheduler, a group and a member. -/
structure Report where
  /-- Whether the scheduler has no wakeup. -/
  infiniteSleep : Bool
  /-- The group. -/
  group : UInt8
  /-- Whether the group's queue is full. -/
  queueFull : Bool
  /-- The number of pending events. -/
  pending : Nat
  /-- The position of the machine in the group. -/
  position : UInt8
  /-- The machine's flags. -/
  flags : MachineFlags
  /-- The machine's state. -/
  state : StateId
  /-- The time. -/
  now : Timestamp
  /-- The scheduler's wakeup. -/
  wakeup : Option Timestamp
  /-- The machine's wakeup. -/
  machineWakeup : Option Timestamp
deriving DecidableEq, Repr

namespace Report

/-- One of two letters. -/
def mark (set : Bool) (on off : String) : String :=
  if set then on else off

/-- The parts of the line, in order. -/
def parts (r : Report) : List String :=
  ["-O[", mark r.infiniteSleep "I" "i",
    "]-G(", Decimal.text r.group.toNat,
    ")[", mark r.queueFull "!" ".", ",", Decimal.padded 3 r.pending,
    "]-F(", Decimal.text r.position.toNat,
    ")[", mark r.flags.infiniteSleep "I" "i", mark r.flags.preventTransition "P" "p",
    mark r.flags.nextStateOverride "O" "o",
    "]-S(", Decimal.text r.state.toNat,
    ")-TW[", r.now.text,
    ",O:", (r.wakeup.getD .zero).text,
    ",F:", (r.machineWakeup.getD .zero).text, "]"]

/-- **The report as text.** -/
def text (r : Report) : String :=
  String.join r.parts

/-- The text of the parts up to the first that no longer fits into
`room` bytes. A padded number and a time are a part each, so that a line
never ends within one; only a line that is too long shows that they are not
written in pieces, and no report on a scheduler makes one. -/
def fitting : Nat → List String → String
  | _, [] => ""
  | room, part :: rest =>
    if part.utf8ByteSize ≤ room then part ++ fitting (room - part.utf8ByteSize) rest else ""

/-- The report on a line of bounded size. -/
def line (r : Report) : String :=
  fitting statusLineSize r.parts

end Report

namespace Scheduler

variable {μ : Type} {t : Topology μ}

/-- **The snapshot** for a group and a position in it. A bad group index
is reported before a bad position. -/
def status (group position : UInt8) (s : Scheduler t) : Except Error Report :=
  match t.group? group, t.member? group position with
  | .error e, _ => .error e
  | _, .error e => .error e
  | .ok g, .ok id =>
    .ok {
      infiniteSleep := s.flags.infiniteSleep
      group := group
      queueFull := (s.queues.get g).full
      pending := (s.queues.get g).size
      position := position
      flags := (s.statuses.get id).flags
      state := (s.statuses.get id).state
      now := s.now
      wakeup := s.scheduled
      machineWakeup := (s.statuses.get id).scheduled }

/-- The pending events of a group, the oldest first. -/
def pending (group : UInt8) (s : Scheduler t) : Except Error (List Event) :=
  (t.group? group).map fun g => (s.queues.get g).toList

end Scheduler

end TimedMachines
