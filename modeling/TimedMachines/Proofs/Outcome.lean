import TimedMachines.Bench
import TimedMachines.Proofs.Alarm

/-!
# What a delivery comes to

An event that is delivered to a machine has one of five outcomes: it has
no column in the machine's table, its cell has no handler, it is a timeout
that comes too early, or the cell's handler is called, and vetoes the step
or lets it happen. `Machine.Outcome` says when each of them occurs and
what it comes to, as far as it can be seen from outside: the status that
the machine is left in, the handlers that were called, and the records
that were written.

To see what a delivery does by itself, and not what events do that its
handler posts, it is run in a world that keeps an account of it beside the
state (`World.audited`). Nobody can tell that an account is kept, so the
delivery in the audited world is that in the world itself.
-/

namespace TimedMachines

variable {σ μ : Type}

/-! ## Accounts -/

/-- **A call of a handler**: the place it was called for, the state the
machine was in, and the event. -/
structure Call where
  /-- The coordinates of the machine. -/
  place : Coords
  /-- The state the machine was in. -/
  state : StateId
  /-- The event. -/
  event : Event
deriving DecidableEq, Repr

/-- The call that an entry of the journal announces. -/
def Entry.call? : Entry → Option Call
  | .note (.processing place state event) => some ⟨place, state, event⟩
  | _ => none

/-- **A state with an account** of the actions that were taken in it. -/
structure Audited (σ : Type) where
  /-- The state. -/
  state : σ
  /-- How often the clock was read. -/
  readings : Nat
  /-- What was reported, the oldest first. What the world itself reports
  about events that are posted in it is not part of it. -/
  entries : List Entry

namespace Audited

/-- A state in which nothing has happened yet. -/
def opening (s : σ) : Audited σ :=
  ⟨s, 0, []⟩

/-- The records that were written. -/
def records (a : Audited σ) : List Record :=
  a.entries.filterMap Entry.record?

/-- The handlers that were called. -/
def calls (a : Audited σ) : List Call :=
  a.entries.filterMap Entry.call?

end Audited

/-- **A world with an account** of what is done in it. -/
def World.audited (w : World σ μ) : World (Audited σ) μ where
  now a := ((w.now a.state).1, ⟨(w.now a.state).2, a.readings + 1, a.entries⟩)
  post group forceNew event a :=
    ((w.post group forceNew event a.state).1,
      { a with state := (w.post group forceNew event a.state).2 })
  ask request a := { a with state := w.ask request a.state }
  consult a := w.consult a.state
  amend change a := { a with state := w.amend change a.state }
  report entry a := ⟨w.report entry a.state, a.readings, a.entries ++ [entry]⟩

/-- The place of a status in it. -/
def Slot.audited (slot : Slot σ) : Slot (Audited σ) where
  read a := slot.read a.state
  write status a := { a with state := slot.write status a.state }

theorem World.audited_extends (w : World σ μ) : w.audited.Extends w Audited.state :=
  ⟨fun _ => rfl, fun _ _ _ _ => rfl, fun _ _ => rfl, fun _ => rfl, fun _ _ => rfl, fun _ _ => rfl⟩

theorem Slot.audited_extends (slot : Slot σ) : slot.audited.Extends slot Audited.state :=
  ⟨fun _ => rfl, fun _ _ => rfl⟩

/-- **What a handler does is no record and no call.** -/
theorem World.audited_upholds (w : World σ μ) (records : List Record) (calls : List Call) :
    w.audited.Upholds (fun _ => True) (fun entry => entry.record? = none ∧ entry.call? = none)
      fun a => a.records = records ∧ a.calls = calls where
  now _ := id
  post _ _ _ _ := id
  ask _ _ _ := id
  amend _ _ := id
  report entry a hentry h := by
    simpa [Audited.records, Audited.calls, World.audited, hentry] using h

/-- **What a delivery comes to.** -/
structure Account where
  /-- The status the machine is left in. -/
  status : Status
  /-- The handlers that were called. -/
  calls : List Call
  /-- The records that were written. -/
  records : List Record
deriving DecidableEq

/-- What a delivery came to, for a machine whose status is in the slot. -/
def Slot.account (slot : Slot σ) (a : Audited σ) : Account :=
  ⟨slot.read a.state, a.calls, a.records⟩

/-- **A status that stays where it was put**: neither a reading of the
clock nor a report touches it. -/
structure Slot.Steady (slot : Slot σ) (w : World σ μ) : Prop where
  read_write : ∀ status s, slot.read (slot.write status s) = status
  read_now : ∀ s, slot.read (w.now s).2 = slot.read s
  read_report : ∀ entry s, slot.read (w.report entry s) = slot.read s

/-! ## Outcomes -/

theorem Status.isAsleep_iff {status : Status} {now : Timestamp} {wakesSleepers : Bool} :
    status.isAsleep now wakesSleepers = true ↔
      status.flags.infiniteSleep = true ∧ wakesSleepers = false ∨
        status.wakeup.after now = true := by
  unfold Status.isAsleep
  simp

namespace Machine

variable (w : World σ μ) (slot : Slot σ) (machine : Machine μ) (timing : Timing)
  (wakesSleepers : Bool) (place : Coords) (event : Event) (s : σ)

/-- Whether an event is a timeout to a machine that sleeps on: one in
infinite sleep that timeouts do not wake, or one whose wakeup is to
come. -/
def Undue : Prop :=
  event.isTimeout = true ∧
    ((slot.read s).flags.infiniteSleep = true ∧ wakesSleepers = false ∨
      (slot.read s).wakeup.after (w.now s).1 = true)

/-- What the handler of an event is shown. -/
def shown : View where
  place := place
  state := (slot.read s).state
  event := event
  left :=
    if (slot.read s).flags.infiniteSleep then infiniteTicks
    else (w.now s).1.ticksUntil (slot.read s).wakeup

/-- A call of a handler for an event: its wishes, and the state it ends
in. -/
def called (handler : Handler μ) : Wishes × Audited σ :=
  (handler (shown w slot place event s)).run w.audited machine.table.hasState .none
    (w.audited.report (.note (.processing place (slot.read s).state event))
      (slot.audited.write (slot.read s).suspended (w.audited.now (.opening s)).2))

/-- **The outcomes of a delivery** that ends in `after`. -/
inductive Outcome (after : Audited σ) : Prop
  /-- The table has no column for the event. The clock is not read. -/
  | unexpected (hevent : machine.table.hasEvent event.code = false)
    (hstate : after.state = w.report (.note (.unexpectedEvent place event.code)) s)
    (hreadings : after.readings = 0)
    (haccount : slot.account after = ⟨slot.read s, [], []⟩)
  /-- The cell has no handler. A machine without one for timeouts cannot
  wake up by itself. -/
  | unhandled {target : StateId}
    (hcell : machine.table.get? (slot.read s).state event.code = some ⟨none, target⟩)
    (haccount : slot.account after =
      ⟨if event.isTimeout then
          { slot.read s with flags := { (slot.read s).flags with infiniteSleep := true } }
        else slot.read s,
        [], [.suppressed place (slot.read s).state event .noHandler]⟩)
  /-- The machine sleeps on. -/
  | asleep {handler : Handler μ} {target : StateId}
    (hcell : machine.table.get? (slot.read s).state event.code = some ⟨some handler, target⟩)
    (hundue : Undue w slot wakesSleepers event s)
    (haccount : slot.account after =
      ⟨slot.read s, [], [.suppressed place (slot.read s).state event .asleep]⟩)
  /-- The handler is called, and vetoes the step. Whatever else it did to
  the world stays, but the machine is restored. -/
  | vetoed {handler : Handler μ} {target : StateId}
    (hcell : machine.table.get? (slot.read s).state event.code = some ⟨some handler, target⟩)
    (hdue : ¬Undue w slot wakesSleepers event s)
    (hveto : (called w slot machine place event s handler).1.veto = true)
    (hstate : after.state = w.report (.record (.vetoed place (slot.read s).state event))
      (slot.write (slot.read s).restored (called w slot machine place event s handler).2.state))
    (haccount : slot.account after =
      ⟨{ slot.read s with flags := { (slot.read s).flags with preventTransition := true } },
        [⟨place, (slot.read s).state, event⟩], [.vetoed place (slot.read s).state event]⟩)
  /-- The handler is called, and the machine takes a step. -/
  | moved {handler : Handler μ} {target : StateId} {base : Timestamp} {u : σ} {move : Move}
    (hcell : machine.table.get? (slot.read s).state event.code = some ⟨some handler, target⟩)
    (hdue : ¬Undue w slot wakesSleepers event s)
    (hveto : (called w slot machine place event s handler).1.veto = false)
    (hbase : timing.base w (w.now s).1 (called w slot machine place event s handler).2.state =
      (base, u))
    (hmove : move = machine.move timing (shown w slot place event s) target
      (called w slot machine place event s handler).1 base)
    (hstate : after.state = w.report (.record (.transition move)) (slot.write move.status u))
    (haccount : slot.account after =
      ⟨move.status, [⟨place, (slot.read s).state, event⟩], [.transition move]⟩)

variable {w slot machine timing wakesSleepers place event s}

/-- A handler's call leaves no record of its own. -/
theorem called_account (handler : Handler μ) :
    (called w slot machine place event s handler).2.records = [] ∧
      (called w slot machine place event s handler).2.calls =
        [⟨place, (slot.read s).state, event⟩] :=
  Act.run_upholds (w.audited_upholds [] [⟨place, (slot.read s).state, event⟩])
    (fun _ _ => ⟨rfl, rfl⟩) _ _ (Act.asks_any _) _ _ ⟨rfl, rfl⟩

/-- An entry adds a call if it announces one, and a record if it is one. -/
theorem account_report (hslot : slot.Steady w) (entry : Entry) (a : Audited σ) :
    slot.account (w.audited.report entry a) =
      ⟨slot.read a.state, a.calls ++ entry.call?.toList, a.records ++ entry.record?.toList⟩ := by
  have hlast {α : Type} (f : Entry → Option α) :
      (a.entries ++ [entry]).filterMap f = a.entries.filterMap f ++ (f entry).toList := by
    rw [List.filterMap_append]
    cases h : f entry <;> simp [h]
  exact congr (congr (congrArg Account.mk (hslot.read_report entry a.state)) (hlast _)) (hlast _)

/-- What is written and recorded in the end is all there is beside the
call. -/
theorem account_end (hslot : slot.Steady w) (status : Status) (record : Record) {a : Audited σ}
    {call : Call} (ha : a.records = [] ∧ a.calls = [call]) :
    slot.account (w.audited.report (.record record) (slot.audited.write status a)) =
      ⟨status, [call], [record]⟩ := by
  have hstatus : slot.read (slot.write status a.state) = status := hslot.read_write status a.state
  rw [account_report hslot]
  exact congr (congr (congrArg Account.mk hstatus) (congrArg (· ++ []) ha.2))
    (congrArg (· ++ [record]) ha.1)

/-- Reading the clock for a base is no record and no call. -/
theorem base_audited (timing : Timing) (now : Timestamp) (a : Audited σ) :
    let base := timing.base w.audited now a
    timing.base w now a.state = (base.1, base.2.state) ∧ base.2.records = a.records ∧
      base.2.calls = a.calls := by
  unfold Timing.base
  cases timing.delayBase with
  | beforeHandler => exact ⟨rfl, rfl, rfl⟩
  | afterHandler => exact ⟨rfl, rfl, rfl⟩

/-- **A handler that is called** vetoes the step or lets it happen. -/
theorem handle_outcome (hslot : slot.Steady w) {handler : Handler μ} {target : StateId}
    (hcell : machine.table.get? (slot.read s).state event.code = some ⟨some handler, target⟩)
    (hdue : ¬Undue w slot wakesSleepers event s) :
    Outcome w slot machine timing wakesSleepers place event s
      (machine.handle w.audited slot.audited timing handler target (slot.read s) (w.now s).1
        (shown w slot place event s) (w.audited.now (.opening s)).2) := by
  have hcalled : (called w slot machine place event s handler).2.records = [] ∧
    (called w slot machine place event s handler).2.calls = _ := called_account handler
  obtain ⟨hveto, hhandle⟩ | ⟨hveto, hhandle⟩ := machine.handle_cases w.audited slot.audited
    timing handler target (slot.read s) (w.now s).1 (shown w slot place event s)
    (w.audited.now (.opening s)).2
  · refine .vetoed hcell hdue hveto (congrArg Audited.state hhandle) ?_
    exact (congrArg slot.account hhandle).trans (account_end hslot _ _ hcalled)
  · obtain ⟨hbase, hrecords, hcalls⟩ := base_audited (w := w) timing (w.now s).1
      (called w slot machine place event s handler).2
    refine .moved hcell hdue hveto hbase rfl (congrArg Audited.state hhandle) ?_
    exact (congrArg slot.account hhandle).trans
      (account_end hslot _ _ ⟨hrecords.trans hcalled.1, hcalls.trans hcalled.2⟩)

/-- **A delivery has one of the five outcomes**, and the account that is
kept of it changes nothing. -/
theorem deliver_outcome (hslot : slot.Steady w)
    (hstate : machine.table.hasState (slot.read s).state = true) :
    let after :=
      machine.deliver w.audited slot.audited timing wakesSleepers place event (.opening s)
    machine.deliver w slot timing wakesSleepers place event s = after.state ∧
      Outcome w slot machine timing wakesSleepers place event s after := by
  refine ⟨deliver_extends w.audited_extends slot.audited_extends machine timing wakesSleepers place
    event (.opening s), ?_⟩
  cases hevent : machine.table.hasEvent event.code with
  | false =>
    have hdeliver : machine.deliver w.audited slot.audited timing wakesSleepers place event
        (.opening s) = w.audited.report (.note (.unexpectedEvent place event.code)) (.opening s) :=
      if_neg (ne_true_of_eq_false hevent)
    rw [hdeliver]
    exact .unexpected hevent rfl rfl (congrArg (Account.mk · [] []) (hslot.read_report _ s))
  | true =>
    have hread : slot.audited.read (w.audited.now (.opening s)).2 = slot.read s := hslot.read_now s
    obtain ⟨⟨handler?, target⟩, hcell⟩ := Table.exists_cell hstate hevent
    obtain ⟨hhandler, hdeliver⟩ | ⟨note, hnote, htimeout, hasleep, hhandler, hdeliver⟩ |
        ⟨handler, hhandler, hawake, hdeliver⟩ :=
      machine.deliver_cases w.audited slot.audited timing wakesSleepers place hevent
        (hread ▸ hcell)
    · cases hhandler
      rw [hread] at hdeliver
      refine .unhandled hcell ?_
      rw [hdeliver, account_report hslot]
      cases event.isTimeout with
      | true => exact congrArg (Account.mk · [] _) (hslot.read_write _ _)
      | false => exact congrArg (Account.mk · [] _) (hslot.read_now s)
    · obtain ⟨handler, rfl⟩ := Option.isSome_iff_exists.mp hhandler
      rw [hread] at hasleep hdeliver
      refine .asleep hcell ⟨htimeout, Status.isAsleep_iff.mp hasleep⟩ ?_
      have hnoted : slot.read (w.report (.note note) (w.now s).2) = slot.read s :=
        (hslot.read_report _ _).trans (hslot.read_now s)
      rw [hdeliver, account_report hslot]
      obtain rfl | ⟨left, rfl⟩ := hnote
      · exact congrArg (Account.mk · [] _) hnoted
      · exact congrArg (Account.mk · [] _) hnoted
    · cases hhandler
      rw [hread] at hawake hdeliver
      rw [hdeliver]
      exact handle_outcome hslot hcell fun h =>
        ne_true_of_eq_false (hawake h.1) (Status.isAsleep_iff.mpr h.2)

end Machine

/-! ## In a scheduler and on a bench -/

theorem Scheduler.steady_slot {t : Topology μ} (start : Scheduler t → Scheduler t)
    (id : Fin t.machineCount) : (slot id).Steady (world start) where
  read_write status s := Vector.get_put_self s.statuses id status
  read_now _ := rfl
  read_report _ _ := rfl

theorem Bench.steady_slot : Slot.Steady (Bench.slot (μ := μ)) Bench.world :=
  ⟨fun _ _ => rfl, fun _ => rfl, fun _ _ => rfl⟩

namespace Stubborn

/-- A handler that posts an event, wants a delay and a state, and vetoes. -/
def handler : Handler Unit := fun view =>
  .post view.place.group false view.event fun _ => .delay 5 (.override 0 fun _ => .veto .done)

theorem one_le_maxStates : 1 ≤ maxStates := by decide

theorem one_le_maxEvents : 1 ≤ maxEvents := by decide

/-- A machine that has it for the timeout. -/
def machine : Machine Unit where
  table := {
    states := 1
    events := 1
    cells := #v[⟨some handler, 0⟩]
    states_pos := Nat.one_pos
    states_le := one_le_maxStates
    events_pos := Nat.one_pos
    events_le := one_le_maxEvents
    target_lt := fun cell hcell _ => by
      obtain rfl : cell = ⟨some handler, 0⟩ := by simpa using hcell
      decide }
  init := none

/-- A bench for it. -/
def bench : Bench Unit :=
  .fresh (.ofTicks 9) 1 Alarm.queue ()

/-- Whatever else the handler wants, all that is left is the veto. -/
theorem deliver_outcome_veto :
    Slot.Steady (Bench.slot (μ := Unit)) Bench.world ∧
      machine.table.hasState (Bench.slot.read bench).state = true ∧
      Bench.slot.account (machine.deliver Bench.world.audited Bench.slot.audited
          ⟨1, .afterHandler⟩ true ⟨0, 0⟩ .timeout (.opening bench)) =
        ⟨⟨0, .zero, ⟨true, true, false⟩⟩, [⟨⟨0, 0⟩, 0, .timeout⟩], [.vetoed ⟨0, 0⟩ 0 .timeout]⟩ ∧
      let after := machine.deliver Bench.world.audited Bench.slot.audited ⟨1, .afterHandler⟩ true
        ⟨0, 0⟩ .timeout (.opening bench)
      bench.deliver machine ⟨1, .afterHandler⟩ true ⟨0, 0⟩ .timeout = after.state ∧
        Machine.Outcome Bench.world Bench.slot machine ⟨1, .afterHandler⟩ true ⟨0, 0⟩ .timeout bench
          after :=
  ⟨Bench.steady_slot, rfl, rfl, Machine.deliver_outcome Bench.steady_slot rfl⟩

end Stubborn

end TimedMachines
