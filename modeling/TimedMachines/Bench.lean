import TimedMachines.EventQueue
import TimedMachines.Machine

/-!
# A machine on a bench

One machine outside any scheduler, driven by hand. Its clock may drift:
every reading moves it on by a fixed number of ticks, which shows when
and how often a delivery reads the clock. Whatever group it posts to,
events go to the one queue of the bench, and every posting is kept with
its answer. A bench has no scheduler, so what handlers ask of one is
ignored.
-/

namespace TimedMachines

/-- An event that a handler posted, and what became of it. -/
structure Posting where
  /-- The group it was posted to. -/
  group : UInt8
  /-- Whether it should have a slot of its own. -/
  forceNew : Bool
  /-- The event. -/
  event : Event
  /-- The queue's answer. -/
  answer : Except Error Enqueued

/-- **A machine on its own**: its surroundings and its status. -/
structure Bench (μ : Type) where
  /-- What the next reading of the clock gives. -/
  clock : Timestamp
  /-- How far each reading moves the clock. -/
  drift : Ticks
  /-- The queue that takes all postings. -/
  queue : EventQueue
  /-- The postings so far. -/
  postings : Array Posting
  /-- The status of the machine. -/
  status : Status
  /-- The memory of the handlers. -/
  memory : μ
  /-- What the machine has reported. -/
  journal : Journal

namespace Bench

variable {μ : Type}

/-- A bench on which nothing has happened. -/
def fresh (clock : Timestamp) (drift : Ticks) (queue : EventQueue) (memory : μ) : Bench μ :=
  ⟨clock, drift, queue, #[], .startup, memory, #[]⟩

/-- How a bench carries out actions. -/
def world : World (Bench μ) μ where
  now bench := (bench.clock, { bench with clock := bench.clock.offset bench.drift })
  post group forceNew event bench :=
    let (answer, queue) := bench.queue.push forceNew event
    let posting : Posting := ⟨group, forceNew, event, answer⟩
    (answer, { bench with queue := queue, postings := bench.postings.push posting })
  ask _ bench := bench
  consult bench := bench.memory
  amend change bench := { bench with memory := change bench.memory }
  report entry bench := { bench with journal := bench.journal.push entry }

/-- Where a bench keeps the status. -/
def slot : Slot (Bench μ) where
  read bench := bench.status
  write status bench := { bench with status := status }

/-- Runs the machine's initialization handler. -/
def prepare (machine : Machine μ) (place : Coords) (bench : Bench μ) : Bench μ :=
  machine.prepare world slot place bench

/-- Delivers an event to the machine. -/
def deliver (machine : Machine μ) (timing : Timing) (wakesSleepers : Bool) (place : Coords)
    (event : Event) (bench : Bench μ) : Bench μ :=
  machine.deliver world slot timing wakesSleepers place event bench

/-- Puts the machine back into its startup status. -/
def reset (bench : Bench μ) : Bench μ :=
  { bench with status := .startup }

end Bench

end TimedMachines
