import TimedMachines.Error
import TimedMachines.Event
import TimedMachines.Limits

/-!
# Transition tables

A table says, for every state and every event, which handler runs and
which state comes next. It has a row per state and a column per event
and is stored row after row in one vector. A cell without a handler is a
dead end: its event is not delivered in that state, so its target is
never used, and only cells with a handler are checked to lead to a state
of the table.
-/

namespace TimedMachines

/-- **What a state does with an event**: which handler runs, if any, and
where the machine goes. -/
structure Cell (α : Type) where
  /-- The handler, `none` where the event is not handled. -/
  handler : Option α
  /-- The state after the handler. -/
  target : StateId
deriving DecidableEq, Repr

namespace Cell

variable {α : Type}

/-- The cell of an event that does nothing. -/
def empty : Cell α := ⟨none, 0⟩

/-- Whether the event is handled. -/
def isHandled (cell : Cell α) : Bool :=
  cell.handler.isSome

/-- Whether a handled event leads out of a table of `states` rows. -/
def strays (states : Nat) (cell : Cell α) : Bool :=
  cell.isHandled && decide (states ≤ cell.target.toNat)

/-- The wording of a cell when it is shown. -/
def text (cell : Cell α) : String :=
  "Transition \x7b handled: " ++ (if cell.isHandled then "true" else "false")
    ++ ", next_state: StateId(" ++ Decimal.text cell.target.toNat ++ ") \x7d"

end Cell

/-- **A transition table** whose handled cells lead to its own states. -/
structure Table (α : Type) where
  /-- The number of rows. -/
  states : Nat
  /-- The number of columns. -/
  events : Nat
  /-- The cells, row after row. -/
  cells : Vector (Cell α) (states * events)
  states_pos : 0 < states
  states_le : states ≤ maxStates
  events_pos : 0 < events
  events_le : events ≤ maxEvents
  target_lt : ∀ cell ∈ cells, cell.isHandled = true → cell.target.toNat < states

namespace Table

variable {α : Type}

/-- The table with the given rows. Its shape is checked first, then the
targets, and the first stray target row by row is the one reported. -/
def ofRows {states events : Nat} (rows : Vector (Vector (Cell α) events) states) :
    Except Error (Table α) :=
  if shape : (0 < events ∧ events ≤ maxEvents) ∧ 0 < states ∧ states ≤ maxStates then
    match h : rows.flatten.toList.find? (Cell.strays states) with
    | some stray => .error (.invalidState stray.target)
    | none => .ok {
        states := states
        events := events
        cells := rows.flatten
        states_pos := shape.2.1
        states_le := shape.2.2
        events_pos := shape.1.1
        events_le := shape.1.2
        target_lt := fun cell hcell handled => by
          have := List.find?_eq_none.mp h cell (Vector.mem_toList_iff.mpr hcell)
          simpa [Cell.strays, handled] using this }
  else
    .error .tableShape

/-- Whether the table has a row for the state. -/
def hasState (table : Table α) (state : StateId) : Bool :=
  decide (state.toNat < table.states)

/-- Whether the table has a column for the event. -/
def hasEvent (table : Table α) (code : EventCode) : Bool :=
  decide (code.toNat < table.events)

/-- **The cell of a state and an event**, if the table has both. -/
def get? (table : Table α) (state : StateId) (code : EventCode) : Option (Cell α) :=
  if h : state.toNat < table.states ∧ code.toNat < table.events then
    have inside : state.toNat * table.events + code.toNat < table.states * table.events :=
      calc
        _ < state.toNat * table.events + table.events := Nat.add_lt_add_left h.2 _
        _ = (state.toNat + 1) * table.events := (Nat.succ_mul _ _).symm
        _ ≤ _ := Nat.mul_le_mul_right _ h.1
    some table.cells[state.toNat * table.events + code.toNat]
  else
    none

/-- Whether a state has a handler for the timeout: one without can only
sleep until another event comes. -/
def handlesTimeout (table : Table α) (state : StateId) : Bool :=
  ((table.get? state 0).map Cell.isHandled).getD false

/-- A cell that was found is one of the table's. -/
theorem mem_cells {table : Table α} {state : StateId} {code : EventCode} {cell : Cell α}
    (found : table.get? state code = some cell) :
    cell ∈ table.cells := by
  unfold get? at found
  split at found
  · cases found
    exact Vector.getElem_mem _
  · cases found

/-- A cell that was found leads to a state of the table, if it is
handled. -/
theorem hasState_target {table : Table α} {state : StateId} {code : EventCode} {cell : Cell α}
    (found : table.get? state code = some cell) (handled : cell.isHandled = true) :
    table.hasState cell.target = true :=
  decide_eq_true (table.target_lt cell (mem_cells found) handled)

/-- Where a cell is when the rows are put one after another. -/
theorem getElem_flatten {states events row column : Nat}
    (rows : Vector (Vector (Cell α) events) states) (row_lt : row < states)
    (column_lt : column < events) {inside : row * events + column < states * events} :
    rows.flatten[row * events + column] = rows[row][column] := by
  have events_pos : 0 < events := Nat.zero_lt_of_lt column_lt
  have row_eq : (row * events + column) / events = row := by
    rw [Nat.mul_comm, Nat.mul_add_div events_pos, Nat.div_eq_of_lt column_lt, Nat.add_zero]
  have column_eq : (row * events + column) % events = column := by
    rw [Nat.mul_add_mod_self_right, Nat.mod_eq_of_lt column_lt]
  rw [Vector.getElem_flatten]
  simp only [row_eq, column_eq]

/-- **The cells of a table** are those of the rows that it was given. -/
theorem get?_ofRows {states events : Nat} {rows : Vector (Vector (Cell α) events) states}
    {table : Table α} (built : ofRows rows = .ok table) (state : StateId) (code : EventCode) :
    table.get? state code = rows[state.toNat]?.bind fun row => row[code.toNat]? := by
  unfold ofRows at built
  split at built
  · split at built
    · cases built
    · cases built
      unfold get?
      dsimp only
      split
      · next inside =>
        rw [Vector.getElem?_eq_getElem inside.1, Option.bind_some,
          Vector.getElem?_eq_getElem inside.2, getElem_flatten rows inside.1 inside.2]
      · next outside =>
        by_cases known : state.toNat < states
        · rw [Vector.getElem?_eq_getElem known, Option.bind_some, Vector.getElem?_eq_none]
          exact Nat.le_of_not_lt fun column => outside ⟨known, column⟩
        · rw [Vector.getElem?_eq_none (Nat.le_of_not_lt known), Option.bind_none]
  · cases built

end Table

end TimedMachines
