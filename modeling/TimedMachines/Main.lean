import TimedMachines.CommandLine.Program

/-!
# The simulator on a terminal

Reads the command line and then the script, from a file or line by line
as it is typed, writes output and messages as they arise, sleeps through
the pauses of the script, and gives a threaded scheduler the heartbeats
that have become due since the last line.
-/

namespace TimedMachines.CommandLine

open Script

/-- The passes that a scheduler may do between two lines. -/
def passBound : Nat := 0x4000_0000_0000_0000

/-- What is shown for a command line that is refused. -/
def hint : String :=
  usage ++ "

For more information, try '--help'.
"

/-- What is said of a scheduler that needs more passes than that. -/
def restless : String :=
  "the scheduler does not come to rest"

variable {t : Topology Unit}

/-- Writes what a session has to show, and gives the session without it. -/
def flush (o : Options) (s : Session t) : IO (Session t) := do
  IO.eprint (o.messages s.scheduler.journal)
  IO.print s.output
  (← IO.getStdout).flush
  return { s with output := "" }.update fun sc => { sc with journal := #[] }

/-- Gives a session so many heartbeats. -/
def beats : Nat → Session t → IO (Session t)
  | 0, s => return s
  | n + 1, s =>
    match s.beat passBound with
    | some s => beats n s
    | none => throw (IO.userError restless)

/-- The pause that a line asks for, in milliseconds. -/
def pauseOf (raw : String) : Nat :=
  match parse 1 raw with
  | .ok (some ⟨_, .delay milliseconds, _⟩) => milliseconds
  | _ => 0

/-- Where the program is in its script. -/
structure Progress (t : Topology Unit) where
  /-- The session. -/
  session : Session t
  /-- The number of the next line. -/
  lineNumber : Nat
  /-- The heartbeats given so far. -/
  beats : Nat

/-- Gives the heartbeats that are due at this time. -/
def keepTime (o : Options) (begun : Nat) (p : Progress t) : IO (Progress t) := do
  if o.threaded then
    let due := ((← IO.monoMsNow) - begun) / o.tickMilliseconds
    return { p with session := ← beats (due - p.beats) p.session, beats := due }
  else
    return p

/-- An error in the words of the operating system, with its number. -/
def reasonOf : IO.Error → String
  | .noFileOrDirectory _ number words | .permissionDenied _ number words
  | .inappropriateType _ number words | .invalidArgument _ number words
  | .resourceExhausted _ number words | .noSuchThing _ number words
  | .otherError number words =>
    words ++ " (os error " ++ Decimal.text number.toNat ++ ")"
  | e => toString e

/-- Carries out a line, unless it is no text. -/
def step (o : Options) (begun : Nat) (line : Option String) (p : Progress t) :
    IO (Except Failure Flow × Progress t) := do
  let p ← keepTime o begun p
  match line with
  | none => return (.error (.unreadable Session.malformedMessage), p)
  | some raw =>
    match p.session.executeLine passBound p.lineNumber raw with
    | none => throw (IO.userError restless)
    | some (flow, s) =>
      let s ← flush o s
      IO.sleep (UInt32.ofNat (min (pauseOf raw) (UInt32.size - 1)))
      return (.ok flow, { p with session := s, lineNumber := p.lineNumber + 1 })

/-- Reads and carries out lines until the script or its source ends, where
`held` is the unfinished line so far in reverse order. The flow is that
of the last line. -/
partial def loop (o : Options) (begun : Nat) (source : IO.FS.Stream) (held : List UInt8)
    (p : Progress t) : IO (Except Failure Flow × Progress t) := do
  match ← (source.read 1).toBaseIO with
  | .error e => return (.error (.unreadable (reasonOf e)), p)
  | .ok read =>
    let held := read.toList ++ held
    if read.isEmpty || read.toList = [10] then
      match Text.lines held.reverse with
      | [] => return (.ok .continue, p)
      | line :: _ =>
        match ← step o begun line p with
        | (.ok .continue, p) =>
          if read.isEmpty then return (.ok .continue, p) else loop o begun source [] p
        | result => return result
    else
      loop o begun source held p

/-- Shows how a session ended, and gives the exit code. -/
def conclude (o : Options) (failure : Option Failure) (s : Session t) : IO UInt32 := do
  match finish passBound o failure s with
  | none => throw (IO.userError restless)
  | some outcome =>
    IO.print outcome.output
    IO.eprint outcome.messages
    return UInt32.ofNat outcome.code

/-- Runs a session on the lines of a source. -/
def runOn (o : Options) (source : IO.FS.Stream) (s : Session t) : IO UInt32 := do
  let begun ← IO.monoMsNow
  match ← loop o begun source [] ⟨← flush o s, 1, 0⟩ with
  | (.ok .continue, p) => conclude o none p.session
  | (.ok .exit, p) => conclude o none (p.session.remark .debug "G: Exiting...")
  | (.error f, p) => conclude o (some f) p.session

/-- Runs the program. -/
def program (arguments : List String) : IO UInt32 := do
  match Request.parse arguments with
  | none =>
    IO.eprint hint
    return UInt32.ofNat usageCode
  | some (.inform page) =>
    IO.print page.text
    return 0
  | some (.run o) =>
    match launch passBound o with
    | none => throw (IO.userError restless)
    | some (.error (failure, journal)) =>
      IO.eprint (o.messages journal ++ failure.line)
      return 1
    | some (.ok ⟨_, s⟩) =>
      match o.script with
      | none => runOn o (← IO.getStdin) s
      | some path =>
        let opened ← (IO.FS.Handle.mk path .read).toBaseIO
        match opened with
        | .ok handle => runOn o (.ofHandle handle) s
        | .error reason => conclude o (some (.noScript path (reasonOf reason))) s

end TimedMachines.CommandLine

/-- The simulator. -/
def main (arguments : List String) : IO UInt32 :=
  TimedMachines.CommandLine.program arguments
