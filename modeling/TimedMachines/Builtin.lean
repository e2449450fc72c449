import TimedMachines.Scheduler.State

/-!
# Built-in machines

Three small machines to try a scheduler with, each alone in one group:
`test` has a handler of every kind, `blink` switches a light on and off
by timeouts alone, and `endToEnd` moves between a state that times out
into itself and one that does not handle its second event.
-/

namespace TimedMachines

/-- **A machine to try things with.** -/
inductive Builtin where
  /-- Plain, vetoing and resting handlers. -/
  | test
  /-- A light: two ticks on, one tick off. -/
  | blink
  /-- Two states with plain handlers. -/
  | endToEnd
deriving DecidableEq, Repr

namespace Builtin

/-- The name by which a machine is chosen. -/
def name : Builtin → String
  | .test => "test"
  | .blink => "blink"
  | .endToEnd => "e2e"

/-- A cell with a handler. -/
def on (handler : Handler Unit) (target : StateId) : Cell (Handler Unit) :=
  ⟨some handler, target⟩

/-- The handler that switches the light, and says for how long. -/
def switch (setting : String) (ticks : Ticks) : Handler Unit := fun view =>
  .remark .info
    (view.place.text ++ ": Turning Led " ++ setting ++ " for " ++ Decimal.text ticks.toNat
      ++ " ticks.")
    (.delay ticks .done)

/-- The transition table. -/
def table : Builtin → Except Error (Table (Handler Unit))
  | .test => Table.ofRows #v[
      #v[on .idle 1, on .idle 1, on .veto 1, on .rest 1],
      #v[.empty, on .idle 0, on .veto 0, on .rest 0]]
  | .blink => Table.ofRows #v[
      #v[on (switch "ON" 2) 1],
      #v[on (switch "OFF" 1) 0]]
  | .endToEnd => Table.ofRows #v[
      #v[on .idle 0, on .idle 1],
      #v[on .idle 1, .empty]]

/-- The capacity of the queue unless one is given. -/
def slots : Builtin → Nat
  | .blink => 1
  | .test | .endToEnd => 3

/-- The default delay unless one is given. -/
def defaultDelay : Builtin → Ticks
  | .blink => 0
  | .test | .endToEnd => 1

/-- The event that gets the machine going, if it needs one. -/
def startup : Builtin → Option EventCode
  | .blink => some 0
  | .test | .endToEnd => none

/-- **The topology** of the machine alone in a group with a queue of the
given capacity. -/
def topology (machine : Builtin) (config : Config) (slots : Nat) : Except Error (Topology Unit) :=
  match machine.table with
  | .error e => .error e
  | .ok table =>
    (((Topology.empty config).addMachine ⟨table, none⟩).addGroup slots [0]).map (·.2)

end Builtin

end TimedMachines
