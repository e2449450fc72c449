import TimedMachines.Error
import TimedMachines.Event
import TimedMachines.Timestamp

/-!
# Script commands

A script drives a scheduler line by line. A line has at most one command,
and may state the output it expects.
-/

namespace TimedMachines.Script

/-- **What a line of a script does.** -/
inductive Command where
  /-- End the script. -/
  | exit
  /-- Let the scheduler run. -/
  | wakeup
  /-- Pause for some milliseconds. -/
  | delay (milliseconds : Nat)
  /-- Print a text. -/
  | print (text : String)
  /-- Queue an event into one group, or into all if `everywhere` is set. -/
  | queue (everywhere forceNew : Bool) (code : EventCode) (data : EventData) (group : UInt8)
  /-- Set the clock, or advance it by one tick. -/
  | heartbeat (time : Option Ticks)
  /-- Print the status of a group and a member. -/
  | status (group position : UInt8)
  /-- Go back to the startup state. -/
  | reset
deriving DecidableEq, Repr

/-- **A line with a command.** -/
structure Line where
  /-- Its number, from 1. -/
  number : Nat
  /-- The command. -/
  command : Command
  /-- The output the last command must have produced. -/
  expected : Option String
deriving DecidableEq, Repr

/-- **Why a line was not carried out.** -/
inductive ScriptError where
  /-- The line starts with no known command. -/
  | invalidCommand (text : String)
  /-- An argument is no number, or too large a number. -/
  | invalidNumber (text : String)
  /-- No group has this index. -/
  | invalidGroup (index : UInt8)
  /-- The scheduler runs by itself, so it cannot be told to. -/
  | wakeupIgnored
  /-- The scheduler refused. -/
  | scheduler (error : Error)
deriving DecidableEq, Repr

/-- The wording of an error. -/
def ScriptError.message : ScriptError → String
  | .invalidCommand text => "Invalid Command '" ++ text ++ "' ignored."
  | .invalidNumber text => "Invalid number '" ++ text ++ "'."
  | .invalidGroup index => "Invalid Group Index " ++ Decimal.text index.toNat ++ "."
  | .wakeupIgnored => "wakeup command is ignored in auto wake mode."
  | .scheduler error => error.message

/-- The pause of a `delay` that does not say how long. -/
def defaultPause : Nat := 1000

end TimedMachines.Script
