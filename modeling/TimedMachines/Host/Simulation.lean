import TimedMachines.Scheduler.Pass

/-!
# A scheduler on its own

On a host the scheduler runs by itself: it sleeps until the latch is
set, then does passes until it can sleep again. What callers do in
between reaches it through its queues and its clock alone. A
`Simulation` is such a scheduler as it can be observed while it sleeps,
or after it saw a request to exit, which ends it for good.
-/

namespace TimedMachines

/-- **A scheduler that runs by itself**, observed when it does nothing. -/
structure Simulation {μ : Type} (t : Topology μ) where
  /-- The scheduler. -/
  scheduler : Scheduler t
  /-- Whether it saw a request to exit. -/
  ended : Bool

namespace Simulation

variable {μ : Type} {t : Topology μ}

/-- The scheduler after all passes that are due, if `bound` of them are
enough. -/
def proceed (bound : Nat) (s : Scheduler t) : Option (Simulation t) :=
  match s.runUntilAsleep bound with
  | some (step, s) => some ⟨s, step = .exit⟩
  | none => none

/-- The scheduler before its first pass: initialized, with the startup
events queued in every group. -/
def ready (startup : List Event) (s : Scheduler t) : Scheduler t :=
  startup.foldl (fun s event => s.broadcast false event) s.start

/-- **Starting**: the scheduler is made ready and does all passes that are
due. -/
def spawn (bound : Nat) (startup : List Event) (s : Scheduler t) : Option (Simulation t) :=
  proceed bound (ready startup s)

/-- **Going on**: a scheduler that is asleep with the latch set wakes up
and does all passes that are due. -/
def resume (bound : Nat) (sim : Simulation t) : Option (Simulation t) :=
  if !sim.ended && sim.scheduler.latch.woken then
    proceed bound (sim.scheduler.clearWake.note .wokenUp)
  else
    some sim

/-- What a caller does to the scheduler while it sleeps. -/
def update (f : Scheduler t → Scheduler t) (sim : Simulation t) : Simulation t :=
  { sim with scheduler := f sim.scheduler }

/-- Asks the scheduler to exit and waits until it does. -/
def shutdown (bound : Nat) (sim : Simulation t) : Option (Simulation t) :=
  resume bound (sim.update Scheduler.requestExit)

end Simulation

end TimedMachines
