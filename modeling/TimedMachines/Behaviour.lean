import TimedMachines.Error
import TimedMachines.Journal

/-!
# What handlers do

A handler is shown an event and acts. Its actions are a tree: each node
is one action, followed by what comes next, which may depend on the
answer. Some actions are **wishes** about the machine's own next step –
its delay, its target, a veto – and are only collected; the last word
counts. The others reach the world around the machine: reading the
clock, posting events, asking the scheduler for something, and a memory
that all handlers share and no reset touches.

The tree fixes no meaning for the world. A `World σ μ` gives it one over
states `σ`, and `Act.run` is the traversal, the same for every world.
-/

namespace TimedMachines

/-- **What a handler is shown.** -/
structure View where
  /-- The coordinates under which the event was delivered. -/
  place : Coords
  /-- The machine's state. -/
  state : StateId
  /-- The event. -/
  event : Event
  /-- The ticks that were left until the scheduled wakeup:
  `infiniteTicks` if there was none, 0 if it was due. -/
  left : Ticks
deriving DecidableEq, Repr

/-- What a handler can ask of the scheduler that runs it. -/
inductive Request where
  /-- Set the clock's counter. -/
  | advance (ticks : Ticks)
  /-- Advance the clock by one tick. -/
  | heartbeat
  /-- Post an event to every group. -/
  | broadcast (forceNew : Bool) (event : Event)
  /-- Stop at the next pass. -/
  | exit
  /-- Go back to the startup state and initialize again. -/
  | reset
  /-- Run the initialization handlers. -/
  | start
deriving DecidableEq, Repr

/-- **The actions of a handler**, over a shared memory of type `μ`. -/
inductive Act (μ : Type) where
  /-- Nothing more. -/
  | done
  /-- Wake up some ticks after the step. -/
  | delay (ticks : Ticks) (next : Act μ)
  /-- Sleep after the step until another event comes. -/
  | delayForever (next : Act μ)
  /-- Do not take the step. -/
  | veto (next : Act μ)
  /-- Go to another state than the table says. -/
  | override (state : StateId) (next : Except Error Unit → Act μ)
  /-- Read the clock. -/
  | readClock (next : Timestamp → Act μ)
  /-- Post an event to a group. -/
  | post (group : UInt8) (forceNew : Bool) (event : Event) (next : Except Error Enqueued → Act μ)
  /-- Ask something of the scheduler. -/
  | ask (request : Request) (next : Act μ)
  /-- Read the shared memory. -/
  | consult (next : μ → Act μ)
  /-- Change the shared memory. -/
  | amend (change : μ → μ) (next : Act μ)
  /-- Write a message. -/
  | remark (severity : Severity) (message : String) (next : Act μ)

/-- **A handler**: what it does about what it is shown. -/
abbrev Handler (μ : Type) := View → Act μ

/-! ## Wishes -/

/-- How long a machine should stay in its next state. -/
inductive Stay where
  /-- As long as the scheduler's configuration says. -/
  | byDefault
  /-- That many ticks. -/
  | ticks (n : Ticks)
  /-- Until another event comes. -/
  | forever
deriving DecidableEq, Repr

/-- **What a handler wants of its machine's next step.** -/
structure Wishes where
  /-- Whether the step is vetoed. -/
  veto : Bool
  /-- How long to stay in the next state. -/
  stay : Stay
  /-- The state to go to instead of the table's target. -/
  target : Option StateId
deriving DecidableEq, Repr

/-- The wishes of a handler that has none. -/
def Wishes.none : Wishes := ⟨false, .byDefault, Option.none⟩

/-! ## Worlds -/

/-- **A meaning for the actions that leave the machine.** -/
structure World (σ μ : Type) where
  /-- Reads the clock. -/
  now : σ → Timestamp × σ
  /-- Posts an event to a group. -/
  post : UInt8 → Bool → Event → σ → Except Error Enqueued × σ
  /-- Carries out a request. -/
  ask : Request → σ → σ
  /-- Reads the shared memory. -/
  consult : σ → μ
  /-- Changes the shared memory. -/
  amend : (μ → μ) → σ → σ
  /-- Adds to the journal. -/
  report : Entry → σ → σ

/-- **Running a handler's actions** in a world, for a machine whose states
are those that `knows` accepts. An override to an unknown state is
refused and changes nothing. -/
def Act.run {σ μ : Type} (w : World σ μ) (knows : StateId → Bool) :
    Act μ → Wishes → σ → Wishes × σ
  | .done, wishes, s => (wishes, s)
  | .delay ticks next, wishes, s => next.run w knows { wishes with stay := .ticks ticks } s
  | .delayForever next, wishes, s => next.run w knows { wishes with stay := .forever } s
  | .veto next, wishes, s => next.run w knows { wishes with veto := true } s
  | .override state next, wishes, s =>
    if knows state then
      (next (.ok ())).run w knows { wishes with target := some state } s
    else
      (next (.error (.invalidState state))).run w knows wishes s
  | .readClock next, wishes, s =>
    let (now, s) := w.now s
    (next now).run w knows wishes s
  | .post group forceNew event next, wishes, s =>
    let (answer, s) := w.post group forceNew event s
    (next answer).run w knows wishes s
  | .ask request next, wishes, s => next.run w knows wishes (w.ask request s)
  | .consult next, wishes, s => (next (w.consult s)).run w knows wishes s
  | .amend change next, wishes, s => next.run w knows wishes (w.amend change s)
  | .remark severity message next, wishes, s =>
    next.run w knows wishes (w.report (.note (.remark severity message)) s)

/-! ## Common handlers -/

namespace Handler

variable {μ : Type}

/-- A handler that does nothing, so that the machine moves as the table
says and stays for the default time. -/
def idle : Handler μ := fun _ => .done

/-- A handler that vetoes every step. -/
def veto : Handler μ := fun _ => .veto .done

/-- A handler after which the machine sleeps until another event comes. -/
def rest : Handler μ := fun _ => .delayForever .done

end Handler

end TimedMachines
