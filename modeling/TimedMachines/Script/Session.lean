import TimedMachines.Builtin
import TimedMachines.Host.Simulation
import TimedMachines.Scheduler.Report
import TimedMachines.Script.Reader
import TimedMachines.Text.Lines

/-!
# Running scripts

A session carries out the lines of a script on a scheduler. Status
reports, printed texts and complaints are its output; the last report or
printed text is what a line's expectation is compared with. A line that
cannot be read or carried out is complained about and the script goes
on; it counts as no failure, which only an expectation that is not met
does.

When the scheduler runs is up to the `Engine`. In `auto` mode it runs
until idle after every line that set the latch; in `manual` and `step`
mode on the `wakeup` command, until idle or for one pass; and a threaded
scheduler runs by itself.

Every function that lets the scheduler run takes the number of passes it
may do at a time, and has no result if that is too low.
-/

namespace TimedMachines.Script

/-- When a scheduler that is driven by the script runs. -/
inductive WakeMode where
  /-- After every command that set the latch. -/
  | auto
  /-- On `wakeup`, until idle. -/
  | manual
  /-- On `wakeup`, for one pass. -/
  | step
deriving DecidableEq, Repr

/-- Whether the script goes on after a line. -/
inductive Flow where
  /-- It does. -/
  | continue
  /-- It does not. -/
  | exit
deriving DecidableEq, Repr

/-- **What runs the scheduler.** -/
inductive Engine {μ : Type} (t : Topology μ) where
  /-- The script. -/
  | script (mode : WakeMode) (scheduler : Scheduler t)
  /-- The scheduler itself. -/
  | threaded (simulation : Simulation t)

namespace Engine

variable {μ : Type} {t : Topology μ}

/-- The scheduler. -/
def scheduler : Engine t → Scheduler t
  | .script _ s => s
  | .threaded sim => sim.scheduler

/-- Does something to the scheduler. -/
def update (f : Scheduler t → Scheduler t) : Engine t → Engine t
  | .script mode s => .script mode (f s)
  | .threaded sim => .threaded (sim.update f)

/-- Runs a scheduler until it is idle, without a pending wake before or
after. -/
def runAwake (bound : Nat) (s : Scheduler t) : Option (Scheduler t) :=
  (s.clearWake.runUntilIdle bound).map fun (_, s) => s.clearWake

/-- Lets a scheduler that sets its own pace do what its latch asks for. -/
def settle (bound : Nat) : Engine t → Option (Engine t)
  | .script .auto s =>
    if s.latch.woken then (runAwake bound s).map (.script .auto ·) else some (.script .auto s)
  | .script mode s => some (.script mode s)
  | .threaded sim => (sim.resume bound).map .threaded

/-- Queues the events that every start begins with, and has a scheduler
that the script drives run until it is idle. -/
def boot (bound : Nat) (startup : List Event) (engine : Engine t) : Option (Engine t) :=
  match engine.update fun s => startup.foldl (fun s event => s.broadcast false event) s with
  | .script mode s => (s.runUntilIdle bound).map fun (_, s) => .script mode s.clearWake
  | .threaded sim => some (.threaded sim)

/-- Whether the scheduler runs without being told to by the script. -/
def isAutomatic : Engine t → Bool
  | .script .auto _ => true
  | _ => false

/-- Lets the scheduler run when the script says so. -/
def wakeup (bound : Nat) : Engine t → Option (Engine t)
  | .script .step s => some (.script .step s.clearWake.pass.2)
  | .script mode s => (s.clearWake.runUntilIdle bound).map fun (_, s) => .script mode s
  | .threaded sim => some (.threaded (sim.update Scheduler.wake))

/-- Tells a scheduler that runs by itself to exit. -/
def close (bound : Nat) : Engine t → Option (Engine t)
  | .script mode s => some (.script mode s)
  | .threaded sim => (sim.shutdown bound).map .threaded

end Engine

/-- **A script under way.** -/
structure Session {μ : Type} (t : Topology μ) where
  /-- What runs the scheduler. -/
  engine : Engine t
  /-- The code of the event that is queued at every start. -/
  startup : Option EventCode
  /-- The output so far. -/
  output : String
  /-- The last report or printed text. -/
  lastOutput : String
  /-- The number of expectations that were not met. -/
  failures : Nat

namespace Session

variable {μ : Type} {t : Topology μ}

/-- The scheduler. -/
def scheduler (s : Session t) : Scheduler t :=
  s.engine.scheduler

/-- Does something to the scheduler. -/
def update (f : Scheduler t → Scheduler t) : Session t → Session t
  | { engine, startup, output, lastOutput, failures } =>
    { engine := engine.update f, startup, output, lastOutput, failures }

/-- Lets the engine run. -/
def drive (f : Engine t → Option (Engine t)) : Session t → Option (Session t)
  | { engine, startup, output, lastOutput, failures } =>
    (f engine).map fun engine => { engine, startup, output, lastOutput, failures }

/-- Adds a message to the scheduler's journal. -/
def remark (severity : Severity) (message : String) (s : Session t) : Session t :=
  s.update (Scheduler.note (.remark severity message))

/-! ## Output -/

/-- Writes a line. -/
def write (text : String) (s : Session t) : Session t :=
  { s with output := s.output ++ text ++ "\n" }

/-- Writes a line that expectations are compared with. -/
def emit (text : String) (s : Session t) : Session t :=
  { s.write text with lastOutput := text }

/-- Complains about a line that was not carried out. -/
def complain (lineNumber : Nat) (e : ScriptError) (s : Session t) : Session t :=
  s.write ("ASSERT at line: " ++ Decimal.text lineNumber ++ ": " ++ e.message)

/-- What expectations are compared with. -/
def produced (s : Session t) : String :=
  String.ofList (Text.trim s.lastOutput.toList)

/-- Compares the last output with an expectation, if there is one. -/
def check (line : Line) (s : Session t) : Session t :=
  match line.expected with
  | none => s
  | some expected =>
    let produced := s.produced
    if expected = produced then
      s
    else
      let s := ((s.write ("ASSERT at line: " ++ Decimal.text line.number)).write
        ("\tExpected: " ++ expected)).write ("\tProduced: " ++ produced)
      { s with failures := s.failures + 1 }

/-! ## Letting the scheduler run -/

/-- The events to start with, if there is a code for one. -/
def startupEvents (startup : Option EventCode) : List Event :=
  (startup.map (⟨·, 0⟩)).toList

/-- Lets a scheduler that sets its own pace do what its latch asks for. -/
def settle (bound : Nat) (s : Session t) : Option (Session t) :=
  s.drive (Engine.settle bound)

/-- Queues the startup event, and has a scheduler that the script drives
run until it is idle. -/
def boot (bound : Nat) (s : Session t) : Option (Session t) :=
  let startup := startupEvents s.startup
  s.drive (Engine.boot bound startup)

/-! ## Beginning and end -/

/-- **A session whose script drives the scheduler.** The scheduler starts
and runs until it is idle. -/
def script (bound : Nat) (mode : WakeMode) (startup : Option EventCode) (scheduler : Scheduler t) :
    Option (Session t) :=
  boot bound ⟨.script mode scheduler.start, startup, "", "", 0⟩

/-- **A session with a scheduler that runs by itself.** -/
def threaded (bound : Nat) (startup : Option EventCode) (scheduler : Scheduler t) :
    Option (Session t) :=
  (Simulation.spawn bound (startupEvents startup) scheduler).map fun sim =>
    ⟨.threaded sim, startup, "", "", 0⟩

/-- Ends a session: a scheduler that runs by itself is told to exit. -/
def close (bound : Nat) (s : Session t) : Option (Session t) :=
  s.drive (Engine.close bound)

/-! ## Lines -/

/-- The `wakeup` command, which an automatic scheduler ignores. -/
def wakeup (bound : Nat) (s : Session t) : Option (Except ScriptError Unit × Session t) :=
  if s.engine.isAutomatic then
    some (.error .wakeupIgnored, s)
  else
    (s.drive (Engine.wakeup bound)).map fun s => (.ok (), s)

/-- The `queue` command. An unknown group is an error of the script,
while a full queue is only reported by the scheduler. -/
def queue (everywhere forceNew : Bool) (event : Event) (group : UInt8) (s : Session t) :
    Except ScriptError Unit × Session t :=
  if everywhere then
    (.ok (), s.update (Scheduler.broadcast forceNew event))
  else if group.toNat < t.groupCount then
    (.ok (), s.update fun sc => (sc.post group forceNew event).2)
  else
    (.error (.invalidGroup group), s)

/-- The `status` command. -/
def status (group position : UInt8) (s : Session t) : Except ScriptError Unit × Session t :=
  match s.scheduler.status group position with
  | .ok report => (.ok (), s.emit report.text)
  | .error e => (.error (.scheduler e), s)

/-- The `heartbeat` command. -/
def heartbeat (time : Option Ticks) (s : Session t) : Session t :=
  s.update fun sc =>
    match time with
    | some ticks => sc.advance ticks
    | none => sc.heartbeat

/-- The `reset` command. -/
def reset (bound : Nat) (s : Session t) : Option (Session t) :=
  ((s.remark .debug "Reseting...").update Scheduler.reset).boot bound

/-- A heartbeat that comes from outside the script, to a scheduler that
runs by itself. -/
def beat (bound : Nat) (s : Session t) : Option (Session t) :=
  (s.heartbeat none).settle bound

/-- What follows a command. If it succeeded, the scheduler may run, and
the expectation is checked. -/
def conclude (bound : Nat) (line : Line) :
    Except ScriptError Unit × Session t → Option (Except ScriptError Flow × Session t)
  | (.error e, s) => some (.error e, s)
  | (.ok (), s) => (s.settle bound).map fun s => (.ok .continue, s.check line)

/-- **Carrying out a line.** `exit`, `delay` and `print` neither let the
scheduler run nor check an expectation. -/
def execute (bound : Nat) (line : Line) (s : Session t) :
    Option (Except ScriptError Flow × Session t) :=
  match line.command with
  | .exit => some (.ok .exit, s)
  | .delay ms =>
    some (.ok .continue, s.remark .debug
      ("G: Entering sleep for " ++ Decimal.text ms ++ " milliseconds..."))
  | .print text => some (.ok .continue, s.emit text)
  | .wakeup => (s.wakeup bound).bind (conclude bound line)
  | .queue everywhere forceNew code data group =>
    conclude bound line (s.queue everywhere forceNew ⟨code, data⟩ group)
  | .heartbeat time => conclude bound line (.ok (), s.heartbeat time)
  | .status group position => conclude bound line (s.status group position)
  | .reset => (s.reset bound).bind fun s => conclude bound line (.ok (), s)

/-- **Reading and carrying out a line.** -/
def executeLine (bound lineNumber : Nat) (raw : String) (s : Session t) :
    Option (Flow × Session t) :=
  match parse lineNumber raw with
  | .error e => some (.continue, s.complain lineNumber e)
  | .ok none => some (.continue, s)
  | .ok (some line) =>
    (s.execute bound line).map fun
      | (.error e, s) => (.continue, s.complain lineNumber e)
      | (.ok flow, s) => (flow, s)

/-- Reads and carries out a line again and again, at most `times` times,
until the last output contains a text. Only the output of the last time
is kept. -/
def executeUntil (bound lineNumber : Nat) (raw text : String) :
    Nat → Session t → Option (Flow × Session t)
  | 0, s => some (.continue, s)
  | times + 1, s =>
    (s.executeLine bound lineNumber raw).bind fun (flow, next) =>
      if next.lastOutput.contains text || times = 0 then
        some (flow, next)
      else
        executeUntil bound lineNumber raw text times { next with output := s.output }

/-! ## Scripts -/

/-- How a script ended. -/
inductive Ending where
  /-- By `exit`, or at its end. -/
  | finished
  /-- At a line that is no text. -/
  | malformed
deriving DecidableEq, Repr

/-- **Running a script** from a line on, where `none` is a line that is no
text. -/
def runFrom (bound : Nat) : Nat → List (Option String) → Session t → Option (Ending × Session t)
  | _, [], s => some (.finished, s)
  | _, none :: _, s => some (.malformed, s)
  | lineNumber, some raw :: rest, s =>
    (s.executeLine bound lineNumber raw).bind fun
      | (.exit, s) => some (.finished, s.remark .debug "G: Exiting...")
      | (.continue, s) => runFrom bound (lineNumber + 1) rest s

/-- **Running the script in a stream of bytes.** -/
def run (bound : Nat) (bytes : List UInt8) (s : Session t) : Option (Ending × Session t) :=
  s.runFrom bound 1 (Text.lines bytes)

/-- The complaint about a line that is no text. -/
def malformedMessage : String :=
  "stream did not contain valid UTF-8"

end Session

end TimedMachines.Script
