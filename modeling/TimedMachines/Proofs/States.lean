import TimedMachines.Proofs.Alarm
import TimedMachines.Proofs.Perpetual

/-!
# Machines stay in their tables

A table is closed: handled cells lead to its own states, and a handler
that asks for any other is refused. The targets of other cells may lead
anywhere, but nothing goes there. So whatever a scheduler goes through,
each of its machines is in a state that its table has a row for, and a
delivery never finds the row missing.

The journal bears this out: it has no message about a missing row, and
every step in it leads from a state of the machine's table to another.
Since a machine that is in its table reports nothing else
(`Machine.Reports`), both are kept together (`perpetual_vouched`).
-/

namespace TimedMachines

variable {μ : Type} {t : Topology μ}

namespace Topology

/-- A member is found under its coordinates. -/
theorem member?_placed {g : Fin t.groupCount} {member : Coords × Fin t.machineCount}
    (h : member ∈ t.placed g) :
    t.member? member.1.group member.1.position = .ok member.2 := by
  obtain ⟨position, hlt, rfl⟩ := List.mem_mapIdx.mp h
  have hle := (t.groups.get g).length_le
  have hmax : maxMembers = 255 := rfl
  have hposition : (UInt8.ofNat position).toNat = position := by
    rw [UInt8.toNat_ofNat']
    omega
  unfold member?
  simp only [group?_groupId, hposition, List.getElem?_eq_getElem hlt]

end Topology

/-- **What an entry of the journal says fits the tables**: a step is one
of the machine at its place, between states of its table, and no row is
missing. -/
def Entry.Fits (t : Topology μ) : Entry → Prop
  | .record (.transition move) =>
    ∃ id, t.member? move.place.group move.place.position = .ok id ∧
      (t.machines.get id).table.hasState move.source = true ∧
      (t.machines.get id).table.hasState move.target = true
  | .note (.missingRow ..) => False
  | _ => True

theorem Entry.fits_of_isRoutine {entry : Entry} (h : entry.isRoutine = true) : entry.Fits t := by
  unfold isRoutine at h
  split at h
  · cases h
  · cases h
  · unfold Fits
    split <;> simp_all

/-- What a member reports whose states are those of its table fits. -/
theorem Machine.fits_of_reports {g : Fin t.groupCount} {member : Coords × Fin t.machineCount}
    (hmember : member ∈ t.placed g) (entry : Entry)
    (h : (t.machines.get member.2).Reports
      (fun state => (t.machines.get member.2).table.hasState state = true) member.1 entry) :
    entry.Fits t := by
  unfold Reports at h
  split at h
  · next move =>
    obtain ⟨hplace, hsource, htarget⟩ := h
    exact ⟨member.2, hplace ▸ Topology.member?_placed hmember, hsource, htarget⟩
  · exact absurd (h.2.symm.trans h.1) Bool.false_ne_true
  · unfold Entry.Fits
    split <;> simp_all

namespace Scheduler

/-! ## Where machines are -/

/-- Every machine is in a state of its table. -/
def InTable (s : Scheduler t) : Prop :=
  ∀ id, (t.machines.get id).table.hasState (s.statuses.get id).state = true

theorem InTable.write {s : Scheduler t} (h : InTable s) {id : Fin t.machineCount} {status : Status}
    (hstate : (t.machines.get id).table.hasState status.state = true) :
    InTable ((slot id).write status s) := by
  intro k
  change (t.machines.get k).table.hasState ((s.statuses.put id status).get k).state = true
  by_cases hk : k = id
  · subst hk
    rwa [Vector.get_put_self]
  · rw [Vector.get_put_of_ne _ _ hk]
    exact h k

/-- At startup every machine is in the first state, which every table
has. -/
theorem inTable_startup {s : Scheduler t}
    (h : s.statuses = Vector.replicate t.machineCount .startup) : InTable s := by
  intro id
  rw [h, get_startup]
  exact decide_eq_true (t.machines.get id).table.states_pos

/-- A change of epoch moves no machine. -/
theorem InTable.rebase {s : Scheduler t} (h : InTable s) : InTable s.rebase := by
  intro id
  change (t.machines.get id).table.hasState ((s.statuses.map Status.rebased).get id).state = true
  rw [Vector.get_mapped]
  exact h id

/-- **Machines stay in their tables** whatever they do. -/
theorem steady_inTable : Steady (InTable (t := t)) where
  toLasting := Lasting.of_statuses fun statuses =>
    ∀ id, (t.machines.get id).table.hasState (statuses.get id).state = true
  rewind _ _ := inTable_startup rfl
  prepare _ hw id _ s h :=
    Machine.prepare_upholds _ hw.upholds (fun _ hstate => hstate)
      (fun _ _ hstate h => h.write hstate) (fun _ h => h id) (fun _ _ _ => Act.asks_any _)
      (fun _ _ => trivial) s h
  deliver _ hw id wakesSleepers _ event s h :=
    Machine.deliver_upholds _ hw.upholds (fun _ hstate => hstate)
      (fun _ _ hstate h => h.write hstate) (fun _ h => h id) (fun _ _ _ => Act.asks_any _) _
      wakesSleepers (fun _ _ => trivial) event s h

theorem inTable_pass (s : Scheduler t) (h : InTable s) : InTable s.pass.2 :=
  (steady_inTable.perpetual (fun _ _ h hstatuses _ id => hstatuses ▸ h id)
    fun _ h => h.rebase).pass s h

/-! ## What the journal says of it -/

/-- **The journal vouches for the tables**: every machine is in a state of
its table, and all entries so far fit. -/
structure Vouched (s : Scheduler t) : Prop where
  inTable : s.InTable
  fits : ∀ entry ∈ s.journal, entry.Fits t

theorem Vouched.report {s : Scheduler t} (h : s.Vouched) {entry : Entry} (hentry : entry.Fits t) :
    (s.report entry).Vouched where
  inTable := h.inTable
  fits e he := (Array.mem_push.mp he).elim (h.fits e) fun heq => heq ▸ hentry

/-- **It does so whatever the scheduler goes through.** -/
theorem perpetual_vouched : Perpetual (Entry.Fits t) (Vouched (t := t)) where
  only _ _ h hstatuses hjournal := ⟨fun id => hstatuses ▸ h.inTable id, hjournal ▸ h.fits⟩
  routine _ := Entry.fits_of_isRoutine
  report _ _ hentry h := h.report hentry
  rewind _ h := ⟨inTable_startup rfl, h.fits⟩
  rebase _ h := ⟨h.inTable.rebase, h.fits⟩
  prepare _ hw _ member hmember s h :=
    Machine.prepare_upholds _ hw (fun _ hstate => hstate)
      (fun _ _ hstate h => ⟨h.inTable.write hstate, h.fits⟩) (fun _ h => h.inTable member.2)
      (fun _ _ _ => Act.asks_any _) (Machine.fits_of_reports hmember) s h
  deliver _ hw _ member hmember wakesSleepers event s h :=
    Machine.deliver_upholds _ hw (fun _ hstate => hstate)
      (fun _ _ hstate h => ⟨h.inTable.write hstate, h.fits⟩) (fun _ h => h.inTable member.2)
      (fun _ _ _ => Act.asks_any _) _ wakesSleepers (Machine.fits_of_reports hmember) event s h

theorem Reachable.vouched {s : Scheduler t} (h : Reachable s) : s.Vouched := by
  refine perpetual_vouched.reachable (fun memory s hbuild => ?_) h
  obtain ⟨-, rfl⟩ := eq_of_build hbuild
  exact ⟨inTable_startup rfl, fun entry hentry => by
    rw [Array.mem_singleton.mp hentry]
    trivial⟩

/-- Between passes every machine is in a state of its table. -/
theorem Reachable.inTable {s : Scheduler t} (h : Reachable s) : s.InTable :=
  h.vouched.inTable

/-- **No machine leaves its table.** Between passes every machine is in a
state that its table has a row for. No delivery, in a pass or before, has
found the row missing; and every step was one of the machine at its place,
from a state that its table has a row for to another. -/
theorem states_within_tables {s : Scheduler t} (h : Reachable s) :
    (∀ id, (s.statuses.get id).state.toNat < (t.machines.get id).table.states) ∧
      (∀ place state, Entry.note (.missingRow place state) ∉ s.journal) ∧
      ∀ move, Entry.record (.transition move) ∈ s.journal →
        ∃ id, t.member? move.place.group move.place.position = .ok id ∧
          move.source.toNat < (t.machines.get id).table.states ∧
          move.target.toNat < (t.machines.get id).table.states := by
  obtain ⟨hin, hfits⟩ := h.vouched
  refine ⟨fun id => of_decide_eq_true (hin id), fun _ _ hmem => hfits _ hmem, fun move hmem => ?_⟩
  obtain ⟨id, hid, hsource, htarget⟩ := hfits _ hmem
  exact ⟨id, hid, of_decide_eq_true hsource, of_decide_eq_true htarget⟩

/-- A machine with two states that is led astray: its initialization asks
for a state that it has not, and so does event 1 before it asks for the
second state; and timeouts, which nothing handles, have targets far off. -/
def wanderer : Machine Unit where
  table :=
    { (Alarm.machine 1).table with
      states := 2
      cells := #v[⟨none, 9⟩, ⟨some fun _ => .override 7 fun _ => .override 1 fun _ => .done, 0⟩,
        ⟨none, 200⟩, ⟨some .rest, 0⟩]
      states_pos := Nat.two_pos
      states_le := by decide
      target_lt := fun cell hcell handled => by
        obtain ⟨⟨hcell⟩⟩ := hcell
        simp only [List.mem_cons, List.not_mem_nil, or_false] at hcell
        obtain rfl | rfl | rfl | rfl := hcell <;> first | decide | cases handled }
  init := some fun _ => .override 5 fun _ => .done

/-- The machine in the place of an alarm clock. -/
def wandering : Topology Unit :=
  { Alarm.topology 1 with machines := #v[wanderer] }

/-- It moves to its second state and stays there when a timeout comes. -/
theorem states_within_tables_wanderer :
    ∃ s, build wandering () = .ok s ∧
      let s := s.performAll [.start, .post 0 false ⟨1, 0⟩, .pass, .post 0 false .timeout, .pass]
      let step : Move := ⟨⟨0, 0⟩, 0, ⟨1, 0⟩, 1, true, none, .zero⟩
      Reachable s ∧ (s.statuses.get (0 : Fin 1)).state = 1 ∧
        (s.statuses.get (0 : Fin 1)).state.toNat < 2 ∧
        Entry.note (.missingRow ⟨0, 0⟩ 1) ∉ s.journal ∧
        Entry.record (.transition step) ∈ s.journal ∧
        ∃ id, wandering.member? 0 0 = .ok id ∧
          (0 : StateId).toNat < (wandering.machines.get id).table.states ∧
          (1 : StateId).toNat < (wandering.machines.get id).table.states := by
  refine ⟨_, rfl, ?_⟩
  intro s step
  have hreach : Reachable s := (Reachable.built rfl).performAll _
  have hstep : Entry.record (.transition step) ∈ s.journal := by decide +kernel
  obtain ⟨hstates, hrows, hsteps⟩ := states_within_tables hreach
  exact ⟨hreach, by decide +kernel, hstates (0 : Fin 1), hrows _ _, hstep, hsteps step hstep⟩

end Scheduler

end TimedMachines
