import TimedMachines.CommandLine.Manual
import TimedMachines.Script.Session

/-!
# Options

The command line of the simulator: options with a value, given as
`--name value` or `--name=value` and at most once; the flag `--threaded`,
at most once; `-v` or `--verbose`, which adds up; and at most one script.
After `--` everything is taken as it is. A command line that does not
follow these rules is refused. A question about the program is answered
where it stands: what comes before it has to be in order, and what comes
after it is not looked at.
-/

namespace TimedMachines.CommandLine

open Script (WakeMode)

/-- **What a user asked for.** -/
structure Options where
  /-- The script to run; commands are read from the standard input if
  there is none. -/
  script : Option String
  /-- The machine. -/
  machine : Builtin
  /-- When the scheduler runs. -/
  wake : WakeMode
  /-- Whether the scheduler runs by itself. -/
  threaded : Bool
  /-- The period of the heartbeat of a threaded scheduler. -/
  tickMilliseconds : Nat
  /-- The capacity of the queue, unless it is the machine's. -/
  queueSize : Option Nat
  /-- The default delay, unless it is the machine's. -/
  defaultDelay : Option Ticks
  /-- What delays are counted from. -/
  delayBase : DelayBase
  /-- How often more messages were asked for. -/
  verbosity : Nat
deriving DecidableEq, Repr

/-! ## Words of the command line -/

/-- The options that take a value. -/
inductive Key where
  /-- The machine. -/
  | machine
  /-- When the scheduler runs. -/
  | wake
  /-- The period of the heartbeat. -/
  | tick
  /-- The capacity of the queue. -/
  | queueSize
  /-- The default delay. -/
  | defaultDelay
  /-- What delays are counted from. -/
  | delayBase
deriving DecidableEq, Repr

/-- The name of an option that takes a value. -/
def Key.ofName? : String → Option Key
  | "machine" => some .machine
  | "wake" => some .wake
  | "tick-ms" => some .tick
  | "queue-size" => some .queueSize
  | "default-delay" => some .defaultDelay
  | "delay-base" => some .delayBase
  | _ => none

/-- **One wish of the command line.** -/
inductive Setting where
  /-- An option with its value. -/
  | value (key : Key) (text : String)
  /-- The scheduler runs by itself. -/
  | threaded
  /-- More messages. -/
  | verbose
  /-- The script. -/
  | script (path : String)
  /-- A question about the program. -/
  | inform (page : Page)
deriving DecidableEq, Repr

/-- Whether an argument looks like an option rather than a value. -/
def looksLikeOption (argument : String) : Bool :=
  argument.startsWith "-" && argument != "-"

/-- The name and the value of an argument such as `name=value`. -/
def nameAndValue (argument : List Char) : String × Option String :=
  let (name, value) := Text.cut '=' argument
  (String.ofList name, value.map String.ofList)

/-- The settings of flags of one letter written together, before those of
the rest of the command line. -/
def flags (rest : Option (List Setting)) : List Char → Option (List Setting)
  | [] => rest
  | 'v' :: more => (flags rest more).map (.verbose :: ·)
  | 'h' :: _ => some [.inform .summary]
  | 'V' :: _ => some [.inform .version]
  | _ :: _ => none

/-- **The settings of a command line**, in order, up to a question about
the program. -/
def settings : List String → Option (List Setting)
  | [] => some []
  | argument :: rest =>
    match argument.toList with
    | ['-', '-'] => some (rest.map .script)
    | '-' :: '-' :: long =>
      match nameAndValue long with
      | ("threaded", none) => (settings rest).map (.threaded :: ·)
      | ("verbose", none) => (settings rest).map (.verbose :: ·)
      | ("help", none) => some [.inform .manual]
      | ("version", none) => some [.inform .version]
      | (name, some value) => do
        let key ← Key.ofName? name
        return .value key value :: (← settings rest)
      | (name, none) =>
        match rest with
        | [] => none
        | value :: rest =>
          if looksLikeOption value then none
          else do
            let key ← Key.ofName? name
            return .value key value :: (← settings rest)
    | '-' :: short :: more => flags (settings rest) (short :: more)
    | _ => (settings rest).map (.script argument :: ·)

/-! ## Values -/

/-- A number of ticks. It is read as a signed number, so that zero may
have a minus sign. -/
def ticks? (text : String) : Option Ticks :=
  match text.toList with
  | '-' :: ds => if !ds.isEmpty && ds.all (· == '0') then some 0 else none
  | cs => (Decimal.read? UInt32.size cs).map UInt32.ofNat

/-- A number of 64 bits. -/
def number? (text : String) : Option Nat :=
  Decimal.read? UInt64.size text.toList

/-- A machine by its name. -/
def machine? (text : String) : Option Builtin :=
  [Builtin.test, .blink, .endToEnd].find? fun m => m.name == text

/-- A wake mode by its name. -/
def wake? : String → Option WakeMode
  | "auto" => some .auto
  | "manual" => some .manual
  | "step" => some .step
  | _ => none

/-- What delays are counted from, by its name. -/
def delayBase? : String → Option DelayBase
  | "pre" => some .beforeHandler
  | "post" => some .afterHandler
  | _ => none

/-! ## Options -/

/-- The value of a key, `none` if there is none; a key given twice is
refused. -/
def valueOf? (key : Key) (all : List Setting) : Option (Option String) :=
  let values := all.filterMap fun
    | .value k text => if k = key then some text else none
    | _ => none
  match values with
  | [] => some none
  | [text] => some (some text)
  | _ => none

/-- The value of a key as `read` understands it, or what holds without
one. -/
def read? {α : Type} (key : Key) (all : List Setting) (read : String → Option α) (absent : α) :
    Option α :=
  match valueOf? key all with
  | none => none
  | some none => some absent
  | some (some text) => read text

/-- The script, if one is named; a second or a nameless one is refused. -/
def script? (all : List Setting) : Option (Option String) :=
  let paths := all.filterMap fun
    | .script path => some path
    | _ => none
  match paths with
  | [] => some none
  | [path] => if path.isEmpty then none else some (some path)
  | _ => none

/-- The options that the settings add up to; `none` if they are
refused. -/
def Options.ofSettings? (all : List Setting) : Option Options := do
  if all.count .threaded > 1 then none else
  return {
    script := ← script? all
    machine := ← read? .machine all machine? .test
    wake := ← read? .wake all wake? .auto
    threaded := all.contains .threaded
    tickMilliseconds := ← read? .tick all number? 1000
    queueSize := ← read? .queueSize all (fun text => (number? text).map some) none
    defaultDelay := ← read? .defaultDelay all (fun text => (ticks? text).map some) none
    delayBase := ← read? .delayBase all delayBase? .beforeHandler
    verbosity := all.count .verbose }

/-- **What a command line asks for.** -/
inductive Request where
  /-- To run the simulator. -/
  | run (options : Options)
  /-- To be told about the program. -/
  | inform (page : Page)
deriving DecidableEq, Repr

/-- **Reading a command line**; `none` if it is refused. -/
def Request.parse (arguments : List String) : Option Request := do
  let all ← settings arguments
  let options ← Options.ofSettings? all
  match all.findSome? (fun | .inform page => some page | _ => none) with
  | some page => return .inform page
  | none => return .run options

namespace Options

/-- The gravity from which on messages are shown. -/
def threshold (o : Options) : Severity :=
  match o.verbosity with
  | 0 => .warn
  | 1 => .info
  | 2 => .debug
  | _ => .trace

/-- The scheduler's configuration. -/
def config (o : Options) : Config :=
  { Config.default with
    name := "ofsm-sim"
    timing := ⟨o.defaultDelay.getD o.machine.defaultDelay, o.delayBase⟩ }

/-- The capacity of the queue. -/
def slots (o : Options) : Nat :=
  o.queueSize.getD o.machine.slots

end Options

end TimedMachines.CommandLine
