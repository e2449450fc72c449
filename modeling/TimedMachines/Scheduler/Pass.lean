import TimedMachines.Scheduler.Consensus
import TimedMachines.Scheduler.State

/-!
# Passes

The scheduler works in passes. In a pass every group, in order, gives at
most one pending event to each of its members. Then the scheduler
decides: if events are left or came in, or if a wakeup is already due,
another pass follows at once; otherwise it commits to the earliest
wakeup of its machines and may sleep until then.

Committing is also where the clock's epochs change. When the clock and
every wakeup in use are past the wrap – or nothing is scheduled at all –
the wrap becomes the start of the epoch for all of them.

A pass always ends. Runs of passes need not, so `runUntilIdle` and `run`
take a bound on their number, and have no result if it is too low.
-/

namespace TimedMachines

/-- What a pass ended with. -/
inductive Step where
  /-- Work is left for another pass. -/
  | again
  /-- Nothing to do before the wakeup, `none` meaning until an event. -/
  | sleep (wakeup : Option Timestamp)
  /-- A request to exit was seen. -/
  | exit
deriving DecidableEq, Repr

namespace Scheduler

variable {μ : Type} {t : Topology μ}

/-! ## Groups -/

/-- Gives the event, if there is one, to a member, and asks it for its
wakeup. -/
def visitMember (wakesSleepers : Bool) (event : Option Event) (acc : Consensus × Scheduler t)
    (member : Coords × Fin t.machineCount) : Consensus × Scheduler t :=
  let (consensus, s) := acc
  let (place, id) := member
  let s :=
    match event with
    | some event =>
      (t.machines.get id).deliver (world start) (slot id) t.config.timing wakesSleepers place
        event s
    | none => s
  (consensus.insert ((slot id).read s), s)

/-- **A group's turn**: its oldest event goes to every member, and the
group's wakeup joins the consensus. A group that keeps further events
asks for another pass. -/
def visitGroup (wakesSleepers : Bool) (acc : Consensus × Scheduler t) (g : Fin t.groupCount) :
    Consensus × Scheduler t :=
  let (consensus, s) := acc
  let s := s.note (.visiting (t.groupId g))
  let (event, more, s) :=
    match (s.queues.get g).pop with
    | some (event, rest) =>
      (some event, !rest.isEmpty, { s with queues := s.queues.put g rest })
    | none => (none, false, s.note (.nothingPending (t.groupId g)))
  let (own, s) := (t.placed g).foldl (visitMember wakesSleepers event) (.idle, s)
  (consensus.merge own, if more then s.markQueued else s)

/-! ## Commitment -/

/-- The clock, the committed wakeup and all machines seen from the epoch
that starts at the wrap. -/
def rebase (s : Scheduler t) : Scheduler t :=
  { s with
    now := s.now.rebased
    wakeup := s.wakeup.rebased
    statuses := s.statuses.map Status.rebased }

/-- The wakeup of the consensus, committed to. -/
def schedule (consensus : Consensus) (s : Scheduler t) : Scheduler t :=
  { s with
    flags := { s.flags with infiniteSleep := consensus.isInfiniteSleep }
    wakeup := consensus.earliest.getD .zero }

/-- Ends the time in which timeouts reach machines in infinite sleep. -/
def endStartup (s : Scheduler t) : Scheduler t :=
  { s with flags := { s.flags with timeoutWakesSleepers := false } }

/-- Whether the epoch is over: nothing is scheduled, or the clock has
wrapped and so has the earliest wakeup. -/
def epochOver (s : Scheduler t) : Bool :=
  s.flags.infiniteSleep || (s.now.overflow && s.wakeup.overflow)

/-- The scheduler that sleeps until the wakeup of the consensus. -/
def settle (consensus : Consensus) (s : Scheduler t) : Scheduler t :=
  let s := s.schedule consensus
  (if s.epochOver then s.rebase else s).endStartup

/-- Whether the wakeup of the consensus has been reached. -/
def isDue (consensus : Consensus) (s : Scheduler t) : Bool :=
  match consensus.earliest with
  | some wakeup => s.now.atOrAfter wakeup
  | none => false

/-- **Sleep or timeout.** A wakeup that is due becomes a timeout for every
group and another pass; otherwise the scheduler commits to it. -/
def commit (consensus : Consensus) (s : Scheduler t) : Step × Scheduler t :=
  if s.isDue consensus then
    (.again, s.fireTimeout)
  else
    let s := s.settle consensus
    let s := s.note (.enteringSleep (s.scheduled.map (·.ticks)))
    (.sleep s.scheduled, s.record (.sleep s.scheduled))

/-! ## Passes -/

/-- The scheduler in a pass: nothing is committed, and no event has been
queued yet. -/
def inPass (s : Scheduler t) : Scheduler t :=
  { s with flags := { s.flags with infiniteSleep := true, eventQueued := false } }

/-- All groups' turns, one after the other. Whether timeouts reach
machines in infinite sleep is settled before the first. -/
def visitAll (s : Scheduler t) : Consensus × Scheduler t :=
  t.allGroups.foldl (visitGroup s.flags.timeoutWakesSleepers) (.idle, s)

/-- **One pass.** -/
def pass (s : Scheduler t) : Step × Scheduler t :=
  let s := s.inPass
  if s.flags.exitRequested then
    (.exit, s.note .exiting)
  else
    let (consensus, s) := s.visitAll
    if s.flags.eventQueued then
      (.again, s.note .backlog)
    else
      s.commit consensus

/-- At most `bound` passes, up to the first that is the last for now; all
steps, in order. -/
def passes : Nat → Scheduler t → List Step × Scheduler t
  | 0, s => ([], s)
  | bound + 1, s =>
    match s.pass with
    | (.again, s) =>
      let (steps, s) := passes bound s
      (.again :: steps, s)
    | (step, s) => ([step], s)

/-- **Passes until the scheduler would sleep or exit**, if `bound` passes
are enough. -/
def runUntilIdle : Nat → Scheduler t → Option (Step × Scheduler t)
  | 0, _ => none
  | bound + 1, s =>
    match s.pass with
    | (.again, s) => runUntilIdle bound s
    | (step, s) => some (step, s)

/-- **Passes until the scheduler exits**, if `bound` passes are enough. A
sleep in between ends at once and clears the latch. -/
def run : Nat → Scheduler t → Option (Scheduler t)
  | 0, _ => none
  | bound + 1, s =>
    match s.pass with
    | (.again, s) => run bound s
    | (.sleep _, s) => run bound (s.clearWake.note .wokenUp)
    | (.exit, s) => some s

/-- **Passes until the scheduler exits, or sleeps with nothing to wake
it**, if `bound` passes are enough. A sleep that the latch ends clears
it. -/
def runUntilAsleep : Nat → Scheduler t → Option (Step × Scheduler t)
  | 0, _ => none
  | bound + 1, s =>
    match s.pass with
    | (.again, s) => runUntilAsleep bound s
    | (.sleep wakeup, s) =>
      if s.latch.woken then runUntilAsleep bound (s.clearWake.note .wokenUp)
      else some (.sleep wakeup, s)
    | (.exit, s) => some (.exit, s)

end Scheduler

end TimedMachines
