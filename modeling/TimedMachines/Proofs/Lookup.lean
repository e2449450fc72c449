import TimedMachines.Table

/-!
# Looking up a cell

A table is written down as rows of cells and kept in one piece, row after
row. Nothing is lost by that: a table is accepted exactly if its shape is
in bounds and no handled cell leads out of it, the cell that is reported
otherwise is the first in the order of reading, and every cell is found
again under its own row and column and nowhere else (`lookup_exact`).

What is looked up is addressed by bytes, and the counts fit into bytes
too. `Table.pack` keeps them that way, and looks a cell up by comparing
bytes and computing its position in sixteen bits, which may wrap around
and may lie outside. It never does either.
-/

namespace TimedMachines

namespace Table

variable {α : Type} {states events : Nat}

/-! ## Positions -/

/-- The position of a cell, row after row. -/
def position (events row column : Nat) : Nat :=
  row * events + column

/-- It lies within the table. -/
theorem position_lt {row column : Nat} (hrow : row < states) (hcolumn : column < events) :
    position events row column < states * events :=
  calc
    row * events + column < row * events + events := Nat.add_lt_add_left hcolumn _
    _ = (row + 1) * events := (Nat.succ_mul _ _).symm
    _ ≤ states * events := Nat.mul_le_mul_right _ hrow

/-- A cell further down is further on. -/
theorem position_lt_of_row_lt {row column row' column' : Nat} (hrow : row' < row)
    (hcolumn' : column' < events) :
    position events row' column' < position events row column :=
  calc
    position events row' column' < row * events := position_lt hrow hcolumn'
    _ ≤ row * events + column := Nat.le_add_right _ _

/-- **Positions are in the order of reading.** -/
theorem position_lt_iff {row column row' column' : Nat} (hcolumn : column < events)
    (hcolumn' : column' < events) :
    position events row' column' < position events row column ↔
      row' < row ∨ row' = row ∧ column' < column := by
  obtain hless | rfl | hmore := Nat.lt_trichotomy row' row
  · exact iff_of_true (position_lt_of_row_lt hless hcolumn') (.inl hless)
  · simp [position]
  · have hbehind : position events row column < position events row' column' :=
      position_lt_of_row_lt hmore hcolumn
    exact iff_of_false (Nat.lt_asymm hbehind) (by omega)

/-- **No two cells share a position.** -/
theorem position_inj {row column row' column' : Nat} (hcolumn : column < events)
    (hcolumn' : column' < events)
    (h : position events row column = position events row' column') :
    row = row' ∧ column = column' := by
  have hnot := mt (position_lt_iff hcolumn hcolumn').mpr (Nat.not_lt_of_ge (Nat.le_of_eq h))
  have hnot' := mt (position_lt_iff hcolumn' hcolumn).mpr (Nat.not_lt_of_ge (Nat.le_of_eq h.symm))
  omega

/-- Every position is that of a row and a column. -/
theorem exists_position {i : Nat} (hi : i < states * events) :
    ∃ (row : Fin states) (column : Fin events), i = position events row column := by
  have hevents : 0 < events := Nat.pos_of_lt_mul_left hi
  refine ⟨⟨i / events, Nat.div_lt_of_lt_mul (Nat.mul_comm states events ▸ hi)⟩,
    ⟨i % events, Nat.mod_lt i hevents⟩, ?_⟩
  exact (Nat.div_add_mod' i events).symm

/-! ## Which tables are accepted -/

/-- A number of rows and columns that a table can have. -/
def Shaped (states events : Nat) : Prop :=
  (1 ≤ events ∧ events ≤ 255) ∧ 1 ≤ states ∧ states ≤ 255

/-- A cell that is handled and leads to a state without a row. -/
def Stray (rows : Vector (Vector (Cell α) events) states) (row : Fin states)
    (column : Fin events) : Prop :=
  ((rows.get row).get column).handler.isSome = true ∧
    states ≤ ((rows.get row).get column).target.toNat

/-- The first such cell, row by row. -/
def FirstStray (rows : Vector (Vector (Cell α) events) states) (row : Fin states)
    (column : Fin events) : Prop :=
  Stray rows row column ∧
    ∀ row' column', row' < row ∨ row' = row ∧ column' < column → ¬Stray rows row' column'

instance : Decidable (Shaped states events) :=
  inferInstanceAs (Decidable (_ ∧ _))

instance (rows : Vector (Vector (Cell α) events) states) (row : Fin states)
    (column : Fin events) : Decidable (Stray rows row column) :=
  inferInstanceAs (Decidable (_ ∧ _))

variable {rows : Vector (Vector (Cell α) events) states}

/-- The cell at a position. -/
theorem flatten_position {row : Fin states} {column : Fin events}
    {inside : position events row column < states * events} :
    rows.flatten[position events row column] = (rows.get row).get column :=
  getElem_flatten rows row.2 column.2

/-- The test that a table makes of each cell. -/
theorem strays_iff {row : Fin states} {column : Fin events}
    {inside : position events row column < states * events} :
    Cell.strays states rows.flatten[position events row column] = true ↔ Stray rows row column := by
  rw [flatten_position, Cell.strays, Bool.and_eq_true, decide_eq_true_iff]
  rfl

/-- **The first cell that fails the test** is the first one row by row. -/
theorem find?_strays_eq_some_iff {stray : Cell α} :
    rows.flatten.toList.find? (Cell.strays states) = some stray ↔
      ∃ row column, FirstStray rows row column ∧ (rows.get row).get column = stray := by
  simp only [List.find?_eq_some_iff_getElem, Vector.getElem_toList, Vector.length_toList]
  constructor
  · rintro ⟨hstray, i, hi, rfl, hbefore⟩
    obtain ⟨row, column, rfl⟩ := exists_position hi
    refine ⟨row, column, ⟨strays_iff.mp hstray, fun row' column' hahead hstray' => ?_⟩,
      flatten_position.symm⟩
    have hlt := (position_lt_iff column.2 column'.2).mpr
      (hahead.imp id (And.imp_left Fin.val_inj.mpr))
    have hpasses := hbefore _ hlt
    rw [strays_iff.mpr hstray'] at hpasses
    cases hpasses
  · rintro ⟨row, column, ⟨hstray, hbefore⟩, rfl⟩
    have hinside := position_lt row.2 column.2
    have hcell : rows.flatten[position events row column] = (rows.get row).get column :=
      flatten_position
    refine ⟨?_, _, hinside, hcell, ?_⟩
    · rw [← hcell]
      exact strays_iff.mpr hstray
    · intro j hj
      obtain ⟨row', column', rfl⟩ := exists_position (Nat.lt_trans hj hinside)
      have hahead := (position_lt_iff column.2 column'.2).mp hj
      have hsound := hbefore row' column' (hahead.imp id (And.imp_left Fin.val_inj.mp))
      rw [Bool.not_eq_true', ← Bool.not_eq_true]
      exact mt strays_iff.mp hsound

/-- **None fails it** if no cell strays. -/
theorem find?_strays_eq_none_iff :
    rows.flatten.toList.find? (Cell.strays states) = none ↔
      ∀ row column, ¬Stray rows row column := by
  constructor
  · intro h row column hstray
    have hinside := position_lt row.2 column.2
    have hmem : rows.flatten[position events row column] ∈ rows.flatten.toList :=
      Vector.mem_toList_iff.mpr (Vector.getElem_mem _)
    exact List.find?_eq_none.mp h _ hmem (strays_iff.mpr hstray)
  · intro h
    cases hfind : rows.flatten.toList.find? (Cell.strays states) with
    | none => rfl
    | some stray =>
      obtain ⟨row, column, hfirst, -⟩ := find?_strays_eq_some_iff.mp hfind
      exact absurd hfirst.1 (h row column)

/-- A table of no possible shape is refused for that. -/
theorem ofRows_of_not_shaped (hshape : ¬Shaped states events) :
    ofRows rows = .error .tableShape :=
  dif_neg fun h => hshape ⟨⟨h.1.1, h.1.2⟩, ⟨h.2.1, h.2.2⟩⟩

/-- Else the first cell that strays is at fault. -/
theorem ofRows_of_firstStray (hshape : Shaped states events) {row : Fin states}
    {column : Fin events} (hfirst : FirstStray rows row column) :
    ofRows rows = .error (.invalidState ((rows.get row).get column).target) := by
  have hfind := find?_strays_eq_some_iff.mpr ⟨row, column, hfirst, rfl⟩
  unfold ofRows
  rw [dif_pos ⟨hshape.1, hshape.2⟩]
  split
  · next stray hstray =>
    rw [hfind] at hstray
    cases hstray
    rfl
  · next hnone => cases hfind.symm.trans hnone

/-- And else nothing is. -/
theorem ofRows_of_sound (hshape : Shaped states events)
    (hsound : ∀ row column, ¬Stray rows row column) :
    ∃ table, ofRows rows = .ok table := by
  have hfind := find?_strays_eq_none_iff.mpr hsound
  unfold ofRows
  rw [dif_pos ⟨hshape.1, hshape.2⟩]
  split
  · next stray hstray => cases hfind.symm.trans hstray
  · exact ⟨_, rfl⟩

/-- **There are three cases**, and what comes of each. -/
theorem ofRows_cases (rows : Vector (Vector (Cell α) events) states) :
    (¬Shaped states events ∧ ofRows rows = .error .tableShape) ∨
      (Shaped states events ∧ ∃ row column, FirstStray rows row column ∧
        ofRows rows = .error (.invalidState ((rows.get row).get column).target)) ∨
      Shaped states events ∧ (∀ row column, ¬Stray rows row column) ∧
        ∃ table, ofRows rows = .ok table := by
  by_cases hshape : Shaped states events
  · cases hfind : rows.flatten.toList.find? (Cell.strays states) with
    | some stray =>
      obtain ⟨row, column, hfirst, -⟩ := find?_strays_eq_some_iff.mp hfind
      exact .inr (.inl ⟨hshape, row, column, hfirst, ofRows_of_firstStray hshape hfirst⟩)
    | none =>
      have hsound := find?_strays_eq_none_iff.mp hfind
      exact .inr (.inr ⟨hshape, hsound, ofRows_of_sound hshape hsound⟩)
  · exact .inl ⟨hshape, ofRows_of_not_shaped hshape⟩

/-! ## Bytes -/

/-- **A table in bytes**: its counts and its cells, one after another. -/
structure Packed (α : Type) where
  /-- The number of rows. -/
  states : UInt8
  /-- The number of columns. -/
  events : UInt8
  /-- The cells. -/
  cells : Array (Cell α)

/-- The table with its counts narrowed to bytes. -/
def pack (table : Table α) : Packed α where
  states := UInt8.ofNat table.states
  events := UInt8.ofNat table.events
  cells := table.cells.toArray

namespace Packed

/-- The position of a cell, in sixteen bits. -/
def position (packed : Packed α) (state : StateId) (code : EventCode) : UInt16 :=
  state.toUInt16 * packed.events.toUInt16 + code.toUInt16

/-- The cell of a state and an event, if the bytes are below the counts and
there is a cell at the position. -/
def get? (packed : Packed α) (state : StateId) (code : EventCode) : Option (Cell α) :=
  if state < packed.states ∧ code < packed.events then
    packed.cells[(packed.position state code).toNat]?
  else
    none

end Packed

variable (table : Table α)

/-- A byte is enough for the number of rows. -/
theorem toNat_states_pack : table.pack.states.toNat = table.states :=
  UInt8.toNat_ofNat_of_lt (Nat.lt_succ_of_le table.states_le)

/-- And for the number of columns. -/
theorem toNat_events_pack : table.pack.events.toNat = table.events :=
  UInt8.toNat_ofNat_of_lt (Nat.lt_succ_of_le table.events_le)

/-- **Sixteen bits are enough** for the position of every cell. -/
theorem toNat_position_pack {state : StateId} {code : EventCode}
    (hstate : state.toNat < table.states) (hcode : code.toNat < table.events) :
    (table.pack.position state code).toNat =
      Table.position table.events state.toNat code.toNat := by
  have hlt : Table.position table.events state.toNat code.toNat < 2 ^ 16 :=
    calc
      _ < table.states * table.events := position_lt hstate hcode
      _ ≤ 255 * 255 := Nat.mul_le_mul table.states_le table.events_le
      _ < 2 ^ 16 := by decide
  unfold Packed.position
  simp only [UInt16.toNat_add, UInt16.toNat_mul, UInt8.toNat_toUInt16, toNat_events_pack]
  rw [Nat.mod_add_mod]
  exact Nat.mod_eq_of_lt hlt

/-- **Looking up in bytes** finds the same. -/
theorem get?_pack (state : StateId) (code : EventCode) :
    table.pack.get? state code = table.get? state code := by
  have hinside : state < table.pack.states ∧ code < table.pack.events ↔
      state.toNat < table.states ∧ code.toNat < table.events := by
    rw [UInt8.lt_iff_toNat_lt, UInt8.lt_iff_toNat_lt, toNat_states_pack, toNat_events_pack]
  unfold Packed.get? get?
  simp only [hinside]
  split
  · next h =>
    rw [toNat_position_pack table h.1 h.2]
    exact Array.getElem?_eq_getElem _
  · rfl

/-- **No two cells are confused.** -/
theorem position_pack_inj {state state' : StateId} {code code' : EventCode}
    (hstate : state.toNat < table.states) (hcode : code.toNat < table.events)
    (hstate' : state'.toNat < table.states) (hcode' : code'.toNat < table.events)
    (h : table.pack.position state code = table.pack.position state' code') :
    state = state' ∧ code = code' := by
  have hpositions := congrArg UInt16.toNat h
  rw [toNat_position_pack table hstate hcode, toNat_position_pack table hstate' hcode']
    at hpositions
  obtain ⟨hrow, hcolumn⟩ := position_inj hcode hcode' hpositions
  exact ⟨UInt8.toNat_inj.mp hrow, UInt8.toNat_inj.mp hcolumn⟩

/-! ## The table that was written down -/

/-- A table has the shape of its rows. -/
theorem shape_of_ofRows {table : Table α} (built : ofRows rows = .ok table) :
    table.states = states ∧ table.events = events := by
  unfold ofRows at built
  split at built
  · split at built
    · cases built
    · cases built
      exact ⟨rfl, rfl⟩
  · cases built

/-- The cell of a state and an event is the one that was written down. -/
theorem get?_eq_dite {table : Table α} (built : ofRows rows = .ok table) (state : StateId)
    (code : EventCode) :
    table.get? state code =
      if h : state.toNat < states ∧ code.toNat < events then some rows[state.toNat][code.toNat]
      else none := by
  rw [get?_ofRows built]
  split
  · next h => simp [h.1, h.2]
  · next h =>
    by_cases hstate : state.toNat < states
    · simp [hstate, Nat.not_lt.mp fun hcode => h ⟨hstate, hcode⟩]
    · simp [Nat.not_lt.mp hstate]

/-- **Looking up is exact.** Rows are accepted as a table exactly if there
are 1 to 255 of them, with 1 to 255 columns, and no handled cell leads
to a state without a row. Otherwise the shape is at fault, if it is out of
bounds, and else the target of the first cell that strays, row by row. In
a table that is accepted, the cell of a state and an event is the one that
was written in this row and column, or there is none, and it makes no
difference that counts, states and events are bytes: the position is
computed without a loss, and no two cells share one. -/
theorem lookup_exact (rows : Vector (Vector (Cell α) events) states) :
    ((∃ table, ofRows rows = .ok table) ↔
        Shaped states events ∧ ∀ row column, ¬Stray rows row column) ∧
      (∀ error, ofRows rows = .error error ↔
        ¬Shaped states events ∧ error = .tableShape ∨
          Shaped states events ∧ ∃ row column, FirstStray rows row column ∧
            error = .invalidState ((rows.get row).get column).target) ∧
      ∀ table, ofRows rows = .ok table → ∀ (state : StateId) (code : EventCode),
        (table.get? state code =
          if h : state.toNat < states ∧ code.toNat < events then some rows[state.toNat][code.toNat]
          else none) ∧
        table.pack.get? state code = table.get? state code ∧
        (state.toNat < states ∧ code.toNat < events →
          ∀ state' code', state'.toNat < states ∧ code'.toNat < events →
            table.pack.position state code = table.pack.position state' code' →
              state = state' ∧ code = code') := by
  refine ⟨⟨?_, fun h => ofRows_of_sound h.1 h.2⟩, fun error => ⟨?_, ?_⟩, ?_⟩
  · rintro ⟨table, hok⟩
    obtain ⟨-, herror⟩ | ⟨-, _, _, -, herror⟩ | ⟨hshape, hsound, -⟩ := ofRows_cases rows
    · cases hok.symm.trans herror
    · cases hok.symm.trans herror
    · exact ⟨hshape, hsound⟩
  · intro herror
    obtain ⟨hshape, hshaped⟩ | ⟨hshape, row, column, hfirst, hstray⟩ | ⟨-, -, table, hok⟩ :=
      ofRows_cases rows
    · exact .inl ⟨hshape, Except.error.inj (herror.symm.trans hshaped)⟩
    · exact .inr ⟨hshape, row, column, hfirst, Except.error.inj (herror.symm.trans hstray)⟩
    · cases hok.symm.trans herror
  · rintro (⟨hshape, rfl⟩ | ⟨hshape, row, column, hfirst, rfl⟩)
    · exact ofRows_of_not_shaped hshape
    · exact ofRows_of_firstStray hshape hfirst
  · intro table hok state code
    obtain ⟨hstates, hevents⟩ := shape_of_ofRows hok
    refine ⟨get?_eq_dite hok state code, get?_pack table state code, ?_⟩
    rintro ⟨hstate, hcode⟩ state' code' ⟨hstate', hcode'⟩ hposition
    rw [← hstates] at hstate hstate'
    rw [← hevents] at hcode hcode'
    exact position_pack_inj table hstate hcode hstate' hcode' hposition

/-- Two states and two events. A cell without a handler may say anything. -/
def sparse : Vector (Vector (Cell Unit) 2) 2 :=
  #v[#v[⟨some (), 0⟩, ⟨some (), 1⟩], #v[⟨some (), 1⟩, ⟨none, 9⟩]]

/-- The same with two targets that there are not. -/
def straying : Vector (Vector (Cell Unit) 2) 2 :=
  #v[#v[⟨none, 9⟩, ⟨some (), 3⟩], #v[⟨some (), 7⟩, ⟨some (), 0⟩]]

/-- The one is accepted, and each cell is in its place; of the other, the
first handled target is reported that there is not. -/
theorem lookup_exact_sparse :
    (∃ table, ofRows sparse = .ok table ∧ table.get? 1 0 = some ⟨some (), 1⟩ ∧
        table.get? 1 1 = some ⟨none, 9⟩ ∧ table.get? 2 0 = none) ∧
      ofRows straying = .error (.invalidState 3) := by
  obtain ⟨table, hok⟩ := (lookup_exact sparse).1.mpr (by decide)
  have hcell (state : StateId) (code : EventCode) :=
    ((lookup_exact sparse).2.2 table hok state code).1
  have herror := ((lookup_exact straying).2.1 (.invalidState 3)).mpr
    (.inr ⟨by decide, 0, 1, ⟨by decide, by decide⟩, rfl⟩)
  exact ⟨⟨table, hok, hcell 1 0, hcell 1 1, hcell 2 0⟩, herror⟩

end Table

end TimedMachines
