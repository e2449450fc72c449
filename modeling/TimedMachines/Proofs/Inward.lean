import TimedMachines.Proofs.Operation

/-!
# Machines that keep to themselves

A handler is **inward** if it goes by its machine's state, the event and
the time that was left, and does nothing but wish for its machine's next
step and write messages. What an event does to an inward machine is then a
function of the machine's status, the event and the time
(`Machine.react`), and what an initialization does a function of status and
time (`Machine.readied`): in a scheduler either changes that status, adds
to the journal, and does nothing else (`deliver_inward`,
`prepare_inward`).
-/

namespace TimedMachines

variable {σ μ : Type}

/-! ## Inward handlers -/

namespace Act

/-- **The actions of an inward handler** are wishes and messages. -/
def Inward : Act μ → Prop
  | .done => True
  | .delay _ next | .delayForever next | .veto next | .remark _ _ next => next.Inward
  | .override _ next => ∀ answer, (next answer).Inward
  | _ => False

/-- The wishes of an inward handler, which depend on nothing but which
states its machine has. -/
def ownWishes (knows : StateId → Bool) : Act μ → Wishes → Wishes
  | .delay ticks next, before => next.ownWishes knows { before with stay := .ticks ticks }
  | .delayForever next, before => next.ownWishes knows { before with stay := .forever }
  | .veto next, before => next.ownWishes knows { before with veto := true }
  | .override state next, before =>
    if knows state then
      (next (.ok ())).ownWishes knows { before with target := some state }
    else
      (next (.error (.invalidState state))).ownWishes knows before
  | .remark _ _ next, before => next.ownWishes knows before
  | _, before => before

/-- **What messages keep, an inward handler keeps**, and its wishes are
known. -/
theorem run_inward {w : World σ μ} {P : σ → Prop}
    (hw : ∀ severity message s, P s → P (w.report (.note (.remark severity message)) s))
    (knows : StateId → Bool) (act : Act μ) (hact : act.Inward) (before : Wishes) (s : σ) (h : P s) :
    (act.run w knows before s).1 = act.ownWishes knows before ∧
      P (act.run w knows before s).2 := by
  induction act generalizing before s with
  | done => exact ⟨rfl, h⟩
  | delay _ _ ih | delayForever _ ih | veto _ ih => exact ih hact _ s h
  | remark severity message _ ih => exact ih hact _ _ (hw severity message s h)
  | override state next ih =>
    simp only [run, ownWishes]
    split
    · exact ih _ (hact _) _ s h
    · exact ih _ (hact _) _ s h
  | readClock _ _ | post _ _ _ _ _ | ask _ _ _ | consult _ _ | amend _ _ _ => exact hact.elim

end Act

/-- **An inward handler** does not go by its coordinates either. -/
structure Handler.Inward (handler : Handler μ) : Prop where
  act : ∀ view, (handler view).Inward
  place : ∀ view place, handler { view with place := place } = handler view

namespace Machine

/-- **An inward machine** has inward handlers. -/
def Inward (machine : Machine μ) : Prop :=
  ∀ handler, machine.init = some handler ∨ machine.Handles handler → Handler.Inward handler

/-- The coordinates that an inward handler is shown in what follows. -/
def nowhere : Coords := ⟨0, 0⟩

/-- **What running a handler does to an inward machine.** -/
def handled (machine : Machine μ) (timing : Timing) (handler : Handler μ) (target : StateId)
    (event : Event) (now : Timestamp) (before : Status) : Status :=
  let view : View := ⟨nowhere, before.state, event, before.left now⟩
  let wishes := (handler view).ownWishes machine.table.hasState .none
  if wishes.veto then before.restored else (machine.move timing view target wishes now).status

/-- **What an event does to an inward machine.** -/
def react (machine : Machine μ) (timing : Timing) (wakesSleepers : Bool) (event : Event)
    (now : Timestamp) (before : Status) : Status :=
  match machine.table.get? before.state event.code with
  | none => before
  | some ⟨none, _⟩ => if event.isTimeout then before.sleepForever else before
  | some ⟨some handler, target⟩ =>
    if event.isTimeout && before.isAsleep now wakesSleepers then before
    else machine.handled timing handler target event now before

/-- **What an initialization does to an inward machine.** -/
def readied (machine : Machine μ) (now : Timestamp) (before : Status) : Status :=
  match machine.init with
  | none => before
  | some init =>
    let wishes := (init ⟨nowhere, before.state, .timeout, infiniteTicks⟩).ownWishes
      machine.table.hasState .none
    if wishes.veto then before
    else
      match wishes.stay with
      | .ticks delay => prepared before wishes (some (now.offset delay))
      | _ => prepared before wishes none

end Machine

namespace Scheduler

variable {t : Topology μ} {id : Fin t.machineCount}

/-- **The scheduler after one machine moved** and nothing else happened
but entries in the journal. -/
def Moves (id : Fin t.machineCount) (status : Status) (s u : Scheduler t) : Prop :=
  ∃ journal, u = { s with statuses := s.statuses.put id status, journal := journal }

namespace Moves

variable {status : Status} {s u : Scheduler t}

/-- A machine that does not move. -/
theorem stay (id : Fin t.machineCount) (s : Scheduler t) : s.Moves id (s.statuses.get id) s :=
  ⟨s.journal, by rw [Vector.put_get]⟩

theorem report (h : s.Moves id status u) (entry : Entry) : s.Moves id status (u.report entry) := by
  obtain ⟨journal, rfl⟩ := h
  exact ⟨_, rfl⟩

/-- A machine that moves on. -/
theorem write (h : s.Moves id status u) (later : Status) :
    s.Moves id later ((slot id).write later u) := by
  obtain ⟨journal, rfl⟩ := h
  refine ⟨journal, ?_⟩
  change { s with statuses := (s.statuses.put id status).put id later, journal := journal } = _
  rw [Vector.put_put]

theorem now_eq (h : s.Moves id status u) : u.now = s.now := by
  obtain ⟨journal, rfl⟩ := h
  rfl

end Moves

/-- An inward handler moves nothing itself, and has the same wishes under
all coordinates. -/
theorem run_moves {status : Status} {s u : Scheduler t} {handler : Handler μ}
    (hhandler : handler.Inward) (start : Scheduler t → Scheduler t) (knows : StateId → Bool)
    (view : View) (h : s.Moves id status u) :
    ((handler view).run (world start) knows .none u).1 =
        (handler { view with place := Machine.nowhere }).ownWishes knows .none ∧
      s.Moves id status ((handler view).run (world start) knows .none u).2 := by
  rw [← hhandler.place view Machine.nowhere]
  exact Act.run_inward (w := world start) (fun _ _ _ h => h.report _) knows _
    (hhandler.act { view with place := Machine.nowhere }) .none u h

/-- **A handler's run** restores its machine or takes it a step on. -/
theorem handle_inward {handler : Handler μ} (hhandler : handler.Inward)
    (start : Scheduler t → Scheduler t) (target : StateId) (before : Status) (place : Coords)
    (event : Event) (s : Scheduler t) :
    s.Moves id
      ((t.machines.get id).handled t.config.timing handler target event s.now before)
      ((t.machines.get id).handle (world start) (slot id) t.config.timing handler target before
        s.now ⟨place, before.state, event, before.left s.now⟩ s) := by
  have hcalled : s.Moves id before.suspended ((world start).report
      (.note (.processing place before.state event)) ((slot id).write before.suspended s)) :=
    ((Moves.stay id s).write before.suspended).report _
  obtain ⟨hwishes, hran⟩ := run_moves hhandler start (t.machines.get id).table.hasState
    ⟨place, before.state, event, before.left s.now⟩ hcalled
  unfold Machine.handle Machine.handled
  dsimp only at hwishes ⊢
  rw [← hwishes]
  clear hwishes
  revert hran
  rcases Act.run (world start) _ _ _ _ with ⟨wishes, u⟩
  intro hran
  dsimp only at hran ⊢
  split
  · exact (hran.write _).report _
  · refine Moves.report ?_ _
    -- whichever time the delay is counted from, the clock stood still
    cases t.config.timing.delayBase with
    | beforeHandler => exact hran.write _
    | afterHandler => exact hran.now_eq ▸ hran.write _

/-- **A delivery to an inward machine** does to its status what the machine
makes of it, and nothing else. -/
theorem deliver_inward (hinward : (t.machines.get id).Inward) (start : Scheduler t → Scheduler t)
    (wakesSleepers : Bool) (place : Coords) (event : Event) (s : Scheduler t) :
    s.Moves id
      ((t.machines.get id).react t.config.timing wakesSleepers event s.now (s.statuses.get id))
      ((t.machines.get id).deliver (world start) (slot id) t.config.timing wakesSleepers place
        event s) := by
  have hstay := Moves.stay id s
  unfold Machine.deliver Machine.react
  rw [show (world start).now s = (s.now, s) from rfl]
  dsimp only
  rw [show (slot id).read s = s.statuses.get id from rfl]
  cases hcell : (t.machines.get id).table.get? (s.statuses.get id).state event.code with
  | none =>
    dsimp only
    split
    · exact hstay.report _
    · exact hstay.report _
  | some cell =>
    rw [if_pos (Table.has_of_get? hcell).2]
    obtain ⟨_ | handler, target⟩ := cell
    · exact Moves.report (ite_rel (R := fun status u => s.Moves id status u)
        (fun _ => hstay.write _) fun _ => hstay) _
    · refine ite_rel (R := fun status u => s.Moves id status u)
        (fun _ => (hstay.report _).report _) fun _ => ?_
      exact handle_inward (hinward handler (.inr ⟨_, _, target, hcell⟩)) start target _ place
        event s

/-- **So does the initialization of an inward machine.** -/
theorem prepare_inward (hinward : (t.machines.get id).Inward) (start : Scheduler t → Scheduler t)
    (place : Coords) (s : Scheduler t) :
    s.Moves id ((t.machines.get id).readied s.now (s.statuses.get id))
      ((t.machines.get id).prepare (world start) (slot id) place s) := by
  have hstay := Moves.stay id s
  unfold Machine.prepare Machine.readied
  cases hinit : (t.machines.get id).init with
  | none => exact hstay
  | some init =>
    have hnoted : s.Moves id (s.statuses.get id)
        ((world start).report (.note (.preparing place)) s) := hstay.report _
    obtain ⟨hwishes, hran⟩ := run_moves (hinward init (.inl hinit)) start
      (t.machines.get id).table.hasState
      ⟨place, (s.statuses.get id).state, .timeout, infiniteTicks⟩ hnoted
    dsimp only at hwishes ⊢
    rw [show (slot id).read ((world start).report (.note (.preparing place)) s) =
      s.statuses.get id from rfl, ← hwishes]
    clear hwishes
    revert hran
    rcases Act.run (world start) _ _ _ _ with ⟨wishes, u⟩
    intro hran
    dsimp only at hran ⊢
    refine ite_rel (R := fun status u => s.Moves id status u) (fun _ => hran) fun _ => ?_
    cases wishes.stay with
    | ticks delay => exact hran.now_eq ▸ hran.write _
    | byDefault | forever => exact hran.write _

end Scheduler

end TimedMachines
