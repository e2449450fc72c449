import TimedMachines.Proofs.Operation

/-!
# An alarm clock

A scheduler with a single machine in a single group, small enough to be
followed by hand and with all that the theory is about: event 1 sets the
alarm, and the timeout that follows some ticks later turns it off. The
statements of the theory are tried on it.
-/

namespace TimedMachines.Alarm

/-- An empty queue with two slots. -/
def queue : EventQueue :=
  (EventQueue.create 2).toOption.get rfl

/-- The machine: a single state, in which the timeout is followed by a
rest and event 1 by a delay of some ticks. -/
def machine (ticks : Ticks) : Machine Unit where
  table := {
    states := 1
    events := 2
    cells := #v[⟨some .rest, 0⟩, ⟨some fun _ => .delay ticks .done, 0⟩]
    states_pos := by decide
    states_le := by decide
    events_pos := by decide
    events_le := by decide
    target_lt := fun cell hcell _ => by
      have : cell.target = 0 := by
        simp only [Vector.mem_mk, List.mem_toArray, List.mem_cons, List.not_mem_nil,
          or_false] at hcell
        obtain rfl | rfl := hcell <;> rfl
      rw [this]
      decide }
  init := none

/-- The machine alone in a group. -/
def topology (ticks : Ticks) : Topology Unit where
  config := ⟨"alarm", ⟨0, .beforeHandler⟩, false, 0⟩
  machineCount := 1
  machines := #v[machine ticks]
  groupCount := 1
  groups := #v[⟨[0], queue, by decide, rfl⟩]
  groupCount_le := by decide

/-- Its one group. -/
def group {ticks : Ticks} : Fin (topology ticks).groupCount := (0 : Fin 1)

/-- Its one machine. -/
def clock {ticks : Ticks} : Fin (topology ticks).machineCount := (0 : Fin 1)

/-- The scheduler that has just been put together. -/
def scheduler (ticks : Ticks) : Scheduler (topology ticks) where
  flags := .startup
  wakeup := .zero
  now := .zero
  statuses := .replicate 1 .startup
  queues := (topology ticks).groups.map (·.queue)
  latch := .clear
  memory := ()
  journal := #[.note (.assembled "alarm" 1 1)]

theorem machines_eq {ticks : Ticks} (id : Fin (topology ticks).machineCount) :
    (topology ticks).machines.get id = machine ticks := by
  obtain ⟨_ | _, hlt⟩ := id
  · rfl
  · exact absurd hlt (by simp [topology])

theorem init_eq_none {ticks : Ticks} (id : Fin (topology ticks).machineCount) :
    ((topology ticks).machines.get id).init = none := by
  rw [machines_eq]
  rfl

/-- Its handlers let it rest or set the alarm. -/
theorem of_handles {ticks : Ticks} {id : Fin (topology ticks).machineCount}
    {handler : Handler Unit} (h : ((topology ticks).machines.get id).Handles handler) :
    handler = Handler.rest ∨ handler = fun _ => .delay ticks .done := by
  obtain ⟨state, code, target, hcell⟩ := h
  have hmem := Table.mem_cells hcell
  rw [machines_eq] at hmem
  have hcells : (⟨some handler, target⟩ : Cell (Handler Unit)) ∈
      #v[⟨some .rest, 0⟩, ⟨some fun _ => .delay ticks .done, 0⟩] := hmem
  simp only [Vector.mem_mk, List.mem_toArray, List.mem_cons, List.not_mem_nil, or_false,
    Cell.mk.injEq, Option.some.injEq] at hcells
  exact hcells.imp And.left And.left

/-- They ask for nothing. -/
theorem asks_of_handles {ticks : Ticks} {id : Fin (topology ticks).machineCount}
    {handler : Handler Unit} (h : ((topology ticks).machines.get id).Handles handler)
    (allowed : Request → Prop) (view : View) : (handler view).Asks allowed := by
  obtain rfl | rfl := of_handles h
  · trivial
  · trivial

theorem build_topology (ticks : Ticks) :
    Scheduler.build (topology ticks) () = .ok (scheduler ticks) := rfl

theorem reachable (ticks : Ticks) (operations : List Operation) :
    Scheduler.Reachable ((scheduler ticks).performAll operations) :=
  (Scheduler.Reachable.built (build_topology ticks)).performAll operations

end TimedMachines.Alarm
