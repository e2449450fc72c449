import TimedMachines.Latch
import TimedMachines.Scheduler.Topology

/-!
# The state of a scheduler

A scheduler is a topology in motion: flags, a clock, the wakeup it last
committed to, the status of every machine, the queue of every group, and
a latch that is set by whatever should end its sleep. This module has
the state and what producers do to it between passes: they post events
and advance the clock. Neither ever waits; an event that finds no room
is dropped.
-/

namespace TimedMachines

/-- **The flags of a scheduler.** -/
structure SchedulerFlags where
  /-- No wakeup is committed: a pass is in flight, or every machine is in
  infinite sleep. -/
  infiniteSleep : Bool
  /-- An event has taken a slot since the pass began. -/
  eventQueued : Bool
  /-- Timeouts reach machines in infinite sleep too, which holds from
  startup to the first sleep. -/
  timeoutWakesSleepers : Bool
  /-- The next pass is to stop. -/
  exitRequested : Bool
deriving DecidableEq, Repr

namespace SchedulerFlags

/-- The flags of a scheduler that has not run. -/
def startup : SchedulerFlags := ⟨true, false, true, false⟩

/-- No flag. -/
def clear : SchedulerFlags := ⟨false, false, false, false⟩

instance : Inhabited SchedulerFlags := ⟨clear⟩

end SchedulerFlags

/-- **A scheduler** for the machines and groups of `t`. -/
structure Scheduler {μ : Type} (t : Topology μ) where
  /-- The flags. -/
  flags : SchedulerFlags
  /-- The wakeup committed to; without meaning in infinite sleep. -/
  wakeup : Timestamp
  /-- The time. -/
  now : Timestamp
  /-- The status of every machine. -/
  statuses : Vector Status t.machineCount
  /-- The queue of every group. -/
  queues : Vector EventQueue t.groupCount
  /-- The latch that ends the scheduler's sleep. -/
  latch : Latch
  /-- The memory that handlers share. -/
  memory : μ
  /-- What was reported so far. -/
  journal : Journal

namespace Scheduler

variable {μ : Type} {t : Topology μ}

/-- **Putting a scheduler together.** Without a group there is nothing to
schedule. -/
def build (t : Topology μ) (memory : μ) : Except Error (Scheduler t) :=
  if t.groupCount = 0 then
    .error .emptyTopology
  else
    .ok {
      flags := .startup
      wakeup := .zero
      now := .zero
      statuses := Vector.replicate t.machineCount .startup
      queues := t.groups.map (·.queue)
      latch := .clear
      memory := memory
      journal := #[.note (.assembled t.config.name t.groupCount t.machineCount)] }

/-! ## The journal and the latch -/

/-- Adds an entry to the journal. -/
def report (entry : Entry) (s : Scheduler t) : Scheduler t :=
  { s with journal := s.journal.push entry }

/-- Adds a message to the journal. -/
def note (n : Note) (s : Scheduler t) : Scheduler t :=
  s.report (.note n)

/-- Adds a record to the journal. -/
def record (r : Record) (s : Scheduler t) : Scheduler t :=
  s.report (.record r)

/-- Sets the latch. -/
def wake (s : Scheduler t) : Scheduler t :=
  { s with latch := s.latch.wake }

/-- Clears the latch. -/
def clearWake (s : Scheduler t) : Scheduler t :=
  { s with latch := .clear }

/-- The wakeup committed before the last sleep, `none` in infinite
sleep. -/
def scheduled (s : Scheduler t) : Option Timestamp :=
  if s.flags.infiniteSleep then none else some s.wakeup

/-! ## Events -/

/-- Notes that an event took a slot. -/
def markQueued (s : Scheduler t) : Scheduler t :=
  { s with flags := { s.flags with eventQueued := true } }

/-- **Posting an event to a group.** The latch is set unless the event
coalesced quietly, also when it is dropped for want of a slot. -/
def post (group : UInt8) (forceNew : Bool) (event : Event) (s : Scheduler t) :
    Except Error Enqueued × Scheduler t :=
  match t.group? group with
  | .error e => (.error e, s.note (.noSuchGroup group event))
  | .ok g =>
    let (answer, queue) := (s.queues.get g).push forceNew event
    let s := { s with queues := s.queues.put g queue }
    match answer with
    | .ok .appended => (answer, (s.markQueued.wake).record (.enqueued group event .appended))
    | .ok .coalesced =>
      let s := if t.config.wakeOnCoalesce then s.wake else s
      (answer, s.record (.enqueued group event .coalesced))
    | .error _ => (answer, s.wake.record (.dropped group event))

/-- Posts an event to one of all groups. -/
def postNext (forceNew : Bool) (event : Event) (s : Scheduler t) (g : Fin t.groupCount) :
    Scheduler t :=
  ((s.note (.queuing (t.groupId g))).post (t.groupId g) forceNew event).2

/-- **Posting an event to every group**, each of which takes or drops it
on its own. -/
def broadcast (forceNew : Bool) (event : Event) (s : Scheduler t) : Scheduler t :=
  t.allGroups.foldl (postNext forceNew event) s

/-- Posts the timeout of a wakeup that has been reached. -/
def fireTimeout (s : Scheduler t) : Scheduler t :=
  (s.note .wakeupReached).broadcast false .timeout

/-! ## Time -/

/-- **Setting the clock.** A lower counter value than before is a wrap.
Without a committed wakeup – in a pass, or in infinite sleep – only the
latch is set if an event was queued in the meantime; a committed wakeup
that has been reached becomes a timeout for every group. -/
def advance (ticks : Ticks) (s : Scheduler t) : Scheduler t :=
  let s := { s with now := s.now.advanceTo ticks }
  if s.flags.infiniteSleep then
    if s.flags.eventQueued then s.wake else s
  else if s.now.atOrAfter s.wakeup then
    s.fireTimeout
  else
    s

/-- Advances the clock by one tick. -/
def heartbeat (s : Scheduler t) : Scheduler t :=
  s.advance (s.now.ticks + 1)

/-- Asks the scheduler to stop at its next pass. -/
def requestExit (s : Scheduler t) : Scheduler t :=
  { s with flags := { s.flags with exitRequested := true } }.wake

/-! ## Startup -/

/-- The scheduler with flags, clock, queues and machines as at startup.
The latch, the memory and the journal stay. -/
def rewind (s : Scheduler t) : Scheduler t :=
  { s with
    flags := .startup
    wakeup := .zero
    now := .zero
    statuses := Vector.replicate t.machineCount .startup
    queues := s.queues.map EventQueue.clear }

/-- Where a scheduler keeps the status of a machine. -/
def slot (id : Fin t.machineCount) : Slot (Scheduler t) where
  read s := s.statuses.get id
  write status s := { s with statuses := s.statuses.put id status }

/-- Goes back to startup and then runs `start`. -/
def resetWith (start : Scheduler t → Scheduler t) (s : Scheduler t) : Scheduler t :=
  start (s.note .resetting).rewind

/-- How a scheduler carries out the actions of its handlers, where `start`
says what running the initialization handlers means. -/
def world (start : Scheduler t → Scheduler t) : World (Scheduler t) μ where
  now s := (s.now, s)
  post := post
  ask request s :=
    match request with
    | .advance ticks => s.advance ticks
    | .heartbeat => s.heartbeat
    | .broadcast forceNew event => s.broadcast forceNew event
    | .exit => s.requestExit
    | .reset => s.resetWith start
    | .start => start s
  consult s := s.memory
  amend change s := { s with memory := change s.memory }
  report := report

/-- Runs the initialization handlers of all members of all groups, group
by group and in order of position: a machine's handler runs once for
each of its coordinates. -/
def prepareAll (w : World (Scheduler t) μ) (s : Scheduler t) : Scheduler t :=
  t.allGroups.foldl (fun s g =>
    (t.placed g).foldl (fun s (place, id) =>
      (t.machines.get id).prepare w (slot id) place s) s) s

/-- Starts, with at most `depth` starts nested within. -/
def startWithin : Nat → Scheduler t → Scheduler t
  | 0 => prepareAll (world id)
  | depth + 1 => prepareAll (world (startWithin depth))

/-- **Starting**: every initialization handler runs. -/
def start (s : Scheduler t) : Scheduler t :=
  s.startWithin t.config.nesting

/-- **Resetting**: time goes back to zero, queues are emptied, every
machine returns to its startup status, and the scheduler starts. -/
def reset (s : Scheduler t) : Scheduler t :=
  s.resetWith start

end Scheduler

end TimedMachines
