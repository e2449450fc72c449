import TimedMachines.Script.Command
import TimedMachines.Text.Blank
import TimedMachines.Text.LowerCase
import TimedMachines.Text.Split

/-!
# Reading script lines

The grammar of a line, with optional parts in brackets:

    q[ueue][,g|f][,code[,data[,group]]]   queue an event (g: all groups, f: own slot)
    h[eartbeat][,time]                    advance time (absent: by one tick)
    s[tatus][,group[,fsm]]                print a status report
    d[elay][,ms]                          pause the script (0 or absent: 1000 ms)
    p[rint][,text]                        print text
    w[akeup]                              wake the scheduler
    r[eset]                               restart from the startup state
    e[xit]                                stop

A command is known by its first letter, in either case, and a line that
starts with a digit queues an event. `//` starts a comment. A line other
than `print` may end in `= text`, the output it expects. Absent or empty
numbers are zero.
-/

namespace TimedMachines.Script

open Text

/-- The text ahead of the first comment. -/
def beforeComment : List Char → List Char
  | '/' :: '/' :: _ => []
  | c :: rest => c :: beforeComment rest
  | [] => []

/-- The text of a line without comment and surrounding blanks. -/
def content (raw : List Char) : List Char :=
  trimEnd (beforeComment (trim raw))

/-- The trimmed parts of a text between the commas, with the command that
a leading digit stands for. -/
def arguments (body : List Char) : List (List Char) :=
  let args := (split ',' body).map trim
  if (args.head?.bind List.head?).any Decimal.isDigit then "queue".toList :: args else args

/-- A number below `bound`; absent or empty it is zero. -/
def number (bound : Nat) : Option (List Char) → Except ScriptError Nat
  | none => .ok 0
  | some [] => .ok 0
  | some text =>
    match Decimal.read? bound text with
    | some n => .ok n
    | none => .error (.invalidNumber (String.ofList text))

/-- A number that fits a byte. -/
def byte (arg : Option (List Char)) : Except ScriptError UInt8 :=
  (number UInt8.size arg).map UInt8.ofNat

/-- The command of an event to queue: modifiers first if there are any,
then code, data and group. -/
def queueCommand (args : List (List Char)) : Except ScriptError Command :=
  let everywhere := (args.head?.map (·.contains 'g')).getD false
  let forceNew := (args.head?.map (·.contains 'f')).getD false
  let args := if everywhere || forceNew then args.drop 1 else args
  match byte args[0]?, byte args[1]?, byte args[2]? with
  | .ok code, .ok data, .ok group => .ok (.queue everywhere forceNew code data group)
  | .error e, _, _ => .error e
  | _, .error e, _ => .error e
  | _, _, .error e => .error e

/-- The command of a line in lower case that is no `print`. -/
def command (body : List Char) : Except ScriptError Command :=
  match arguments body with
  | ('e' :: _) :: _ => .ok .exit
  | ('w' :: _) :: _ => .ok .wakeup
  | ('d' :: _) :: args =>
    (number UInt64.size args[0]?).map fun ms => .delay (if ms = 0 then defaultPause else ms)
  | ('q' :: _) :: args => queueCommand args
  | ('h' :: _) :: [] => .ok (.heartbeat none)
  | ('h' :: _) :: time :: _ =>
    (number UInt32.size (some time)).map fun n => .heartbeat (some (UInt32.ofNat n))
  | ('s' :: _) :: args =>
    match byte args[0]?, byte args[1]? with
    | .ok group, .ok position => .ok (.status group position)
    | .error e, _ => .error e
    | _, .error e => .error e
  | ('r' :: _) :: _ => .ok .reset
  | _ => .error (.invalidCommand (String.ofList (trim body)))

/-- Whether a line is a `print`, whose text is taken as it is. -/
def isPrint (text : List Char) : Bool :=
  (lower text).head? == some 'p'

/-- The line of a text without comment and surrounding blanks. -/
def lineOf (lineNumber : Nat) (text : List Char) : Except ScriptError (Option Line) :=
  if text.isEmpty then
    .ok none
  else if isPrint text then
    let message := ((cut ',' text).2).getD []
    .ok (some ⟨lineNumber, .print (String.ofList message), none⟩)
  else
    let (body, expected) := cut '=' text
    let expected := (expected.map trim).filter fun e => !e.isEmpty
    (command (lower body)).map fun c => some ⟨lineNumber, c, expected.map String.ofList⟩

/-- **Reading a line.** Lines without a command give `none`. -/
def parse (lineNumber : Nat) (raw : String) : Except ScriptError (Option Line) :=
  lineOf lineNumber (content raw.toList)

end TimedMachines.Script
