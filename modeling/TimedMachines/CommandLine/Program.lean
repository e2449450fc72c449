import TimedMachines.CommandLine.Options
import TimedMachines.Host.FileTree
import TimedMachines.Host.Ticker
import TimedMachines.Text.Duration

/-!
# The simulator

What the program does with its options: it sets up a machine, runs a
script on it, and ends with the number of expectations that were not
met. `launch` and `finish` are the two ends of that; `run` has the whole,
for a script that is known in advance, and `perform` starts from the words
of the command line.
-/

namespace TimedMachines.CommandLine

open Script (Session)

/-- Why the program gave up. -/
inductive Failure where
  /-- There is no such scheduler. -/
  | configuration (error : Error)
  /-- There is no such heartbeat. -/
  | host (error : TickError)
  /-- The script cannot be opened. -/
  | noScript (path reason : String)
  /-- The script cannot be read. -/
  | unreadable (reason : String)
deriving DecidableEq, Repr

/-- A message with the reason below it. -/
def because (message reason : String) : String :=
  message ++ "\n\nCaused by:\n    " ++ reason

/-- The wording of a failure. -/
def Failure.message : Failure → String
  | .configuration error => because "invalid machine configuration" error.message
  | .host error => because "failed to start the host simulation" error.message
  | .noScript path reason => because ("cannot open script " ++ path) reason
  | .unreadable reason => reason

/-- **What a run of the program leaves behind.** -/
structure Outcome where
  /-- The exit code. -/
  code : Nat
  /-- The standard output. -/
  output : String
  /-- The messages, on the standard error output. -/
  messages : String
deriving DecidableEq, Repr

/-- A machine and the session that runs it. -/
structure Launched where
  /-- The machine in its group. -/
  topology : Topology Unit
  /-- The session. -/
  session : Session topology

/-- The messages of a journal that the options ask for, line by line. -/
def Options.messages (o : Options) (journal : Journal) : String :=
  String.join ((journal.lines o.threshold).toList.map (· ++ "\n"))

/-- The message of a failure, as a line of its own. -/
def Failure.line (failure : Failure) : String :=
  "Error: " ++ failure.message ++ "\n"

/-! ## What a threaded scheduler's host reports -/

/-- The period of the heartbeat as text. -/
def Options.period (o : Options) : String :=
  Text.duration o.tickMilliseconds

/-- The message that the heartbeats have begun. -/
def tickerStarted (o : Options) : Note :=
  .remark .debug ("Ticker started, period " ++ o.period)

/-- The message that the heartbeats have ended. -/
def tickerStopped : Note :=
  .remark .debug "Ticker stopped"

/-- The message that a threaded scheduler runs. -/
def running (o : Options) : Note :=
  .remark .info
    (o.config.name ++ ": Host simulation running, heartbeat Some(" ++ o.period ++ ")")

/-- The message that a threaded scheduler was stopped. -/
def stopped : Note :=
  .remark .info "O: Host simulation stopped"

/-! ## Setting up -/

/-- The session of a scheduler that runs by itself. Without a heartbeat
the scheduler is told to exit before its first pass. -/
def launchThreaded (bound : Nat) (o : Options) {t : Topology Unit} (scheduler : Scheduler t) :
    Option (Except (Failure × Journal) (Session t)) :=
  match Ticker.start (1000000 * o.tickMilliseconds) with
  | .error e =>
    let ready := Simulation.ready (Session.startupEvents o.machine.startup) scheduler
    (ready.requestExit.run bound).map fun s => .error (.host e, (s.note stopped).journal)
  | .ok _ =>
    (Session.threaded bound o.machine.startup scheduler).map fun s =>
      .ok (s.update fun sc => (sc.note (tickerStarted o)).note (running o))

/-- **Setting up** a machine and a session for it. -/
def launch (bound : Nat) (o : Options) : Option (Except (Failure × Journal) Launched) :=
  match (o.machine.topology o.config o.slots).bind fun t =>
      (Scheduler.build t ()).map fun s => (⟨t, s⟩ : (t : Topology Unit) × Scheduler t) with
  | .error e => some (.error (.configuration e, #[]))
  | .ok ⟨t, scheduler⟩ =>
    if o.threaded then
      (launchThreaded bound o scheduler).map fun launched => launched.map (⟨t, ·⟩)
    else
      (Session.script bound o.wake o.machine.startup scheduler).map fun s => .ok ⟨t, s⟩

/-! ## The end -/

/-- The session at its end, when a scheduler that runs by itself has been
stopped. -/
def shutDown (bound : Nat) (o : Options) {t : Topology Unit} (s : Session t) :
    Option (Session t) :=
  if o.threaded then
    ((s.update (Scheduler.note tickerStopped)).close bound).map (·.update (Scheduler.note stopped))
  else
    some s

/-- **Coming to an end**, by a failure or after the last line. -/
def finish (bound : Nat) (o : Options) (failure : Option Failure) {t : Topology Unit}
    (s : Session t) : Option Outcome :=
  (shutDown bound o s).map fun s =>
    let messages := o.messages s.scheduler.journal
    match failure with
    | none => ⟨min s.failures 255, s.output, messages⟩
    | some f => ⟨1, s.output, messages ++ f.line⟩

/-- The bytes of the script: the standard input, or a file. A directory
can be opened as a script, but not read. -/
def source (o : Options) (input : List UInt8) (files : FilePlace) :
    Except Failure (List UInt8) :=
  match o.script with
  | none => .ok input
  | some path =>
    match files.read path with
    | .ok bytes => .ok bytes
    | .error .isDirectory => .error (.unreadable FileError.isDirectory.message)
    | .error e => .error (.noScript path e.message)

/-- **A run of the simulator**, with the files around the directory that
it works in. -/
def run (bound : Nat) (o : Options) (input : List UInt8) (files : FilePlace) : Option Outcome :=
  (launch bound o).bind fun
    | .error (f, journal) => some ⟨1, "", o.messages journal ++ f.line⟩
    | .ok ⟨_, s⟩ =>
      match source o input files with
      | .error f => finish bound o (some f) s
      | .ok bytes =>
        (s.run bound bytes).bind fun
          | (.finished, s) => finish bound o none s
          | (.malformed, s) => finish bound o (some (.unreadable Session.malformedMessage)) s

/-- The exit code of a command line that is refused. -/
def usageCode : Nat := 2

/-- **The whole program**, from its command line on. -/
def perform (bound : Nat) (arguments : List String) (input : List UInt8) (files : FilePlace) :
    Option Outcome :=
  match Request.parse arguments with
  | none => some ⟨usageCode, "", ""⟩
  | some (.inform page) => some ⟨0, page.text, ""⟩
  | some (.run o) => run bound o input files

end TimedMachines.CommandLine
