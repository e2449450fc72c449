import TimedMachines.Behaviour

/-!
# Handlers as data

A handler can be given as a list of instructions instead of a function.
Such programs can be read from a file, compared and enumerated. They
share a notebook: what they see is written down in order, and a machine
may own a counter in it or a text, its private data.

`Instruction.handler` turns a program into the handler it describes. The
labels that a program can write down are of any type `κ`.
-/

namespace TimedMachines

/-- A number that a program can test. -/
inductive Quantity where
  /-- The machine's state. -/
  | state
  /-- The event's code. -/
  | code
  /-- The event's data. -/
  | data
  /-- The ticks left before the wakeup. -/
  | left
  /-- The counter of the clock, which is read for it. -/
  | clock
  /-- The index of the group. -/
  | group
  /-- The position in the group. -/
  | position
  /-- The machine's own counter, or 0 if it has none. -/
  | counter
deriving DecidableEq, Repr

/-- **An instruction.** -/
inductive Instruction (κ : Type) where
  /-- Wake up some ticks after the step. -/
  | delay (ticks : Ticks)
  /-- Sleep after the step until another event comes. -/
  | delayForever
  /-- Do not take the step. -/
  | veto
  /-- Go to another state, and write down the answer. -/
  | override (state : StateId)
  /-- Post an event to the machine's own group, with the data of the
  event at hand if none is given, and write down the answer. -/
  | emit (forceNew : Bool) (code : EventCode) (data : Option EventData)
  /-- Post an event to any group, and write down the answer. -/
  | post (group : UInt8) (forceNew : Bool) (event : Event)
  /-- Ask something of the scheduler. -/
  | ask (request : Request)
  /-- Write down what the handler is shown, and the time. -/
  | look
  /-- Write down a label. -/
  | mark (label : κ)
  /-- Write down the private data. -/
  | inspect
  /-- Add to the machine's own counter, if it has one. -/
  | count (increment : UInt32)
  /-- Go on in one of two ways, by how a quantity compares with a
  number. -/
  | test (quantity : Quantity) (order : Ordering) (number : Nat) (yes no : List (Instruction κ))

/-- **What a program wrote down.** -/
inductive Observation (κ : Type) where
  /-- The answer to an override. -/
  | overridden (answer : Except Error Unit)
  /-- The answer to an event posted to the machine's own group. -/
  | emitted (answer : Except Error Enqueued)
  /-- The answer to an event posted to any group. -/
  | posted (answer : Except Error Enqueued)
  /-- What the handler was shown, and the time. -/
  | looked (view : View) (now : Timestamp)
  /-- A label. -/
  | marked (label : κ)
  /-- The private data: a counter, a text, or neither. -/
  | inspected (counter : Option UInt32) (text : Option String)

/-- **The memory that programs share.** -/
structure Notebook (κ : Type) where
  /-- What was written down, in order. -/
  observations : Array (Observation κ)
  /-- The counters of the machines that own one. -/
  counters : Array UInt32

/-- What a machine owns. -/
inductive PrivateData where
  /-- Nothing. -/
  | nothing
  /-- The counter with an index. -/
  | counter (index : Nat)
  /-- A text. -/
  | text (content : String)
deriving DecidableEq, Repr

namespace PrivateData

/-- The value of a machine's own counter, if it has one. -/
def counterIn {κ : Type} (owned : PrivateData) (notebook : Notebook κ) : Option UInt32 :=
  match owned with
  | .counter index => notebook.counters[index]?
  | _ => none

/-- A machine's own text, if it has one. -/
def text? : PrivateData → Option String
  | .text content => some content
  | _ => none

end PrivateData

namespace Notebook

variable {κ : Type}

/-- The notebook with an observation more. -/
def add (o : Observation κ) (notebook : Notebook κ) : Notebook κ :=
  { notebook with observations := notebook.observations.push o }

/-- The notebook with a machine's private data written down. -/
def inspect (owned : PrivateData) (notebook : Notebook κ) : Notebook κ :=
  notebook.add (.inspected (owned.counterIn notebook) owned.text?)

/-- The notebook with a machine's own counter moved on, if it has one. -/
def count (owned : PrivateData) (increment : UInt32) (notebook : Notebook κ) : Notebook κ :=
  match owned with
  | .counter index =>
    { notebook with counters := notebook.counters.modify index (· + increment) }
  | _ => notebook

/-- The notebook with nothing written down. -/
def erase (notebook : Notebook κ) : Notebook κ :=
  { notebook with observations := #[] }

end Notebook

namespace Instruction

variable {κ : Type}

/-- Writes down an observation. -/
def writeDown (o : Observation κ) (next : Act (Notebook κ)) : Act (Notebook κ) :=
  .amend (Notebook.add o) next

/-- Goes on with a quantity. -/
def measure (owned : PrivateData) (view : View) (next : Nat → Act (Notebook κ)) :
    Quantity → Act (Notebook κ)
  | .state => next view.state.toNat
  | .code => next view.event.code.toNat
  | .data => next view.event.data.toNat
  | .left => next view.left.toNat
  | .clock => .readClock fun now => next now.ticks.toNat
  | .group => next view.place.group.toNat
  | .position => next view.place.position.toNat
  | .counter => .consult fun notebook => next ((owned.counterIn notebook).getD 0).toNat

mutual

/-- The actions of an instruction, and what comes after them. -/
def act (owned : PrivateData) (view : View) (next : Act (Notebook κ)) :
    Instruction κ → Act (Notebook κ)
  | .delay ticks => .delay ticks next
  | .delayForever => .delayForever next
  | .veto => .veto next
  | .override state => .override state fun answer => writeDown (.overridden answer) next
  | .emit forceNew code data =>
    .post view.place.group forceNew ⟨code, data.getD view.event.data⟩ fun answer =>
      writeDown (.emitted answer) next
  | .post group forceNew event =>
    .post group forceNew event fun answer => writeDown (.posted answer) next
  | .ask request => .ask request next
  | .look => .readClock fun now => writeDown (.looked view now) next
  | .mark label => writeDown (.marked label) next
  | .inspect => .amend (Notebook.inspect owned) next
  | .count increment => .amend (Notebook.count owned increment) next
  | .test quantity order number yes no =>
    measure owned view
      (fun n => if compare n number = order then actAll owned view next yes
        else actAll owned view next no)
      quantity

/-- The actions of a program, and what comes after them. -/
def actAll (owned : PrivateData) (view : View) (next : Act (Notebook κ)) :
    List (Instruction κ) → Act (Notebook κ)
  | [] => next
  | i :: rest => act owned view (actAll owned view next rest) i

end

/-- **The handler that a program describes**, for a machine with the given
private data. -/
def handler (owned : PrivateData) (program : List (Instruction κ)) : Handler (Notebook κ) :=
  fun view => actAll owned view .done program

end Instruction

end TimedMachines
