import TimedMachines.Proofs.Queues
import TimedMachines.Proofs.Settling

/-!
# Patient machines

Whether passes come to an end depends on what handlers do in the run at
hand. Of some machines it can be told ahead. A handler is **modest** if
all that it has are wishes for its own step and messages, and a machine
is **patient** if its handlers are modest and lead on at a timeout, for a
delay that ends later than now if they do not let the machine rest.

A scheduler of patient machines is never asked for anything by them, so
it never exits on its own. Until it is told to, it is `Fit`: it sleeps
after one pass for each slot of its queues and one pass more, whatever it
went through before, and is fit again then (`sleeps_within_slots`).
-/

namespace TimedMachines

variable {σ μ : Type} {t : Topology μ}

/-! ## Modest handlers -/

namespace Act

/-- **The actions of a modest handler** are wishes and messages. -/
def Modest : Act μ → Prop
  | .done => True
  | .delay _ next | .delayForever next | .veto next | .remark _ _ next => next.Modest
  | _ => False

/-- The wishes of a modest handler, in which the world has no say. -/
def wishes : Act μ → Wishes → Wishes
  | .delay ticks next, before => next.wishes { before with stay := .ticks ticks }
  | .delayForever next, before => next.wishes { before with stay := .forever }
  | .veto next, before => next.wishes { before with veto := true }
  | .remark _ _ next, before => next.wishes before
  | _, before => before

/-- **What messages keep, a modest handler keeps**, and its wishes are
known. -/
theorem run_modest {w : World σ μ} {P : σ → Prop}
    (hw : ∀ severity message s, P s → P (w.report (.note (.remark severity message)) s))
    (knows : StateId → Bool) (act : Act μ) (hact : act.Modest) (before : Wishes) (s : σ) (h : P s) :
    (act.run w knows before s).1 = act.wishes before ∧ P (act.run w knows before s).2 := by
  induction act generalizing before s with
  | done => exact ⟨rfl, h⟩
  | delay _ _ ih | delayForever _ ih | veto _ ih => exact ih hact _ s h
  | remark severity message _ ih => exact ih hact _ _ (hw severity message s h)
  | override _ _ _ | readClock _ _ | post _ _ _ _ _ | ask _ _ _ | consult _ _ | amend _ _ _ =>
    exact hact.elim

end Act

/-- **A patient machine**, where `fine` are the delays that end later than
now: its handlers are modest, and none vetoes a timeout or stays for
another delay after it. -/
structure Machine.Patient (fine : Ticks → Prop) (timing : Timing) (machine : Machine μ) :
    Prop where
  modest : ∀ handler, machine.Handles handler → ∀ view, (handler view).Modest
  timeout : ∀ state handler target, machine.table.get? state 0 = some ⟨some handler, target⟩ →
    ∀ view, ((handler view).wishes .none).veto = false ∧ ∀ base,
      ∀ delay ∈ (machine.move timing view target ((handler view).wishes .none) base).delay,
        fine delay

/-- Without an initialization handler there is nothing to prepare. -/
theorem Machine.prepare_of_init_none {machine : Machine μ} (h : machine.init = none)
    (w : World σ μ) (slot : Slot σ) (place : Coords) (s : σ) :
    machine.prepare w slot place s = s := by
  unfold prepare
  rw [h]

/-- **A topology of patient machines**, which need no initialization, with
queues of at most so many slots. -/
structure Topology.Patient (fine : Ticks → Prop) (slots : Nat) (t : Topology μ) : Prop where
  slots_pos : 0 < slots
  machine : ∀ id, (t.machines.get id).Patient fine t.config.timing
  init : ∀ id, (t.machines.get id).init = none
  capacity : ∀ g, (t.groups.get g).queue.capacity ≤ slots

/-! ## Passes of patient machines -/

namespace Chronicled

/-- **All handlers are patient** so far, and none has asked for an
exit. -/
def Orderly (fine : Ticks → Prop) (chronicle : List (Moment t)) : Prop :=
  ∀ m ∈ chronicle, m.incident.Patient fine ∧ m.incident ≠ .asked .exit

variable {fine : Ticks → Prop} {u : Chronicled t}

theorem orderly_nil : Orderly (t := t) fine [] :=
  fun _ hm => absurd hm List.not_mem_nil

theorem Orderly.cons {chronicle : List (Moment t)} (h : Orderly fine chronicle) (m : Moment t)
    (hpatient : m.incident.Patient fine) (hasked : m.incident ≠ .asked .exit) :
    Orderly fine (m :: chronicle) :=
  List.forall_mem_cons.mpr ⟨⟨hpatient, hasked⟩, h⟩

/-- What a patient machine's handler does is orderly. -/
theorem Orderly.handle {id : Fin t.machineCount}
    (hmachine : (t.machines.get id).Patient fine t.config.timing) {handler : Handler μ}
    {target : StateId} {before : Status} {now : Timestamp} {view : View}
    (hcell : (t.machines.get id).table.get? before.state view.event.code =
      some ⟨some handler, target⟩)
    (h : Orderly fine u.chronicle) :
    Orderly fine ((t.machines.get id).handle (world start) (slot id) t.config.timing handler target
      before now view u).chronicle := by
  have hcalled : Orderly fine ((world start).report
      (.note (.processing view.place view.state view.event))
      ((slot id).write before.suspended u)).chronicle := h.cons _ trivial nofun
  obtain ⟨hwishes, hrun⟩ := Act.run_modest (w := world start)
    (P := fun u => Orderly fine u.chronicle) (fun _ _ _ hu => hu.cons _ trivial nofun)
    (t.machines.get id).table.hasState (handler view)
    (hmachine.modest handler ⟨_, _, _, hcell⟩ view) .none _ hcalled
  have htimeout (hevent : view.event.isTimeout = true) :=
    hmachine.timeout before.state handler target (eq_of_beq hevent ▸ hcell) view
  unfold Machine.handle
  dsimp only
  generalize Act.run _ _ _ _ _ = outcome at hwishes hrun ⊢
  obtain ⟨wishes, v⟩ := outcome
  dsimp only at hwishes hrun ⊢
  subst hwishes
  split
  · next hveto =>
    refine hrun.cons _ (Bool.eq_false_iff.mpr fun hevent => ?_) nofun
    rw [(htimeout hevent).1] at hveto
    cases hveto
  · cases t.config.timing.delayBase with
    | beforeHandler | afterHandler =>
      exact hrun.cons _ (fun hevent delay hdelay => (htimeout hevent).2 _ delay hdelay) nofun

/-- **What a patient machine does with an event is orderly.** -/
theorem Orderly.hand {member : Coords × Fin t.machineCount}
    (hmachine : (t.machines.get member.2).Patient fine t.config.timing) (wakesSleepers : Bool)
    (event : Event) (h : Orderly fine u.chronicle) :
    Orderly fine (hand wakesSleepers event member u).chronicle := by
  have hadded : Orderly fine (u.add (.handed member.1 member.2 event)).chronicle :=
    h.cons _ trivial nofun
  unfold Chronicled.hand
  by_cases hevent : (t.machines.get member.2).table.hasEvent event.code = true
  · rcases hcell : (t.machines.get member.2).table.get?
      (u.scheduler.statuses.get member.2).state event.code with _ | cell
    · unfold Machine.deliver
      rw [if_pos hevent]
      dsimp only
      split
      · exact hadded.cons _ trivial nofun
      · next heq => exact nomatch hcell.symm.trans heq
      · next heq => exact nomatch hcell.symm.trans heq
    · obtain ⟨-, hdeliver⟩ | ⟨note, -, -, -, -, hdeliver⟩ | ⟨handler, hhandler, -, hdeliver⟩ :=
        Machine.deliver_cases (world start) (slot member.2) (t.machines.get member.2)
          t.config.timing wakesSleepers member.1 hevent
          (s := u.add (.handed member.1 member.2 event)) hcell
      · rw [hdeliver]
        split
        · exact hadded.cons _ trivial nofun
        · exact hadded.cons _ trivial nofun
      · have hnoted : Orderly fine ((world start).report (.note note)
            (u.add (.handed member.1 member.2 event))).chronicle := hadded.cons _ trivial nofun
        rw [hdeliver]
        exact hnoted.cons _ trivial nofun
      · rw [hdeliver]
        obtain ⟨_, target⟩ := cell
        cases hhandler
        exact hadded.handle hmachine hcell
  · unfold Machine.deliver
    rw [if_neg hevent]
    exact hadded.cons _ trivial nofun

/-- **Passes of patient machines are orderly.** -/
theorem passing_orderly (hmachines : ∀ id, (t.machines.get id).Patient fine t.config.timing) :
    Passing fun u : Chronicled t => Orderly fine u.chronicle where
  update _ _ _ _ h := h
  post group _ _ _ h := by
    unfold Chronicled.post
    cases t.group? group with
    | error e => exact h
    | ok g => exact h.cons _ trivial nofun
  turn g _ h := by
    unfold Chronicled.turn
    dsimp only
    split
    · exact h.cons _ trivial nofun
    · exact h.cons _ trivial nofun
  hand wakesSleepers event member _ h := h.hand (hmachines member.2) wakesSleepers event

end Chronicled

/-! ## What producers leave alone -/

namespace Scheduler

/-- Every queue has the capacity that was declared for it. -/
def Sized (s : Scheduler t) : Prop :=
  ∀ g, (s.queues.get g).capacity = (t.groups.get g).queue.capacity

end Scheduler

namespace Chronicled

theorem standing_exit : Standing fun u : Chronicled t =>
    u.scheduler.flags.exitRequested = false where
  update _ _ _ hexit h := hexit.trans h
  post group forceNew event u h := by
    have := (u.scheduler.post_leaves group forceNew event).2
    rw [scheduler_post] at this
    exact this.trans h

/-- Queues never change their size. -/
theorem lasting_sized : Lasting (Throughout fun s : Scheduler t => s.Sized) :=
  lasting_queues (P := fun g q => q.capacity = (t.groups.get g).queue.capacity)
    fun _ q operation h => (q.capacity_perform operation).trans h

end Chronicled

/-! ## Fit schedulers -/

namespace Scheduler

/-- **A fit scheduler**: its machines are in their tables, its queues as
large as they were declared, and it is not to exit. -/
structure Fit (s : Scheduler t) : Prop where
  inTable : s.InTable
  sized : s.Sized
  exit : s.flags.exitRequested = false

theorem fit_of_build {memory : μ} {s : Scheduler t} (h : build t memory = .ok s) : s.Fit := by
  obtain ⟨-, rfl⟩ := eq_of_build h
  exact ⟨inTable_startup rfl, fun g => congrArg EventQueue.capacity (Vector.get_mapped ..), rfl⟩

theorem Reachable.sized {s : Scheduler t} (h : Reachable s) : s.Sized :=
  Chronicled.lasting_sized.reachable (fun _ _ hbuild => (fit_of_build hbuild).sized) h

/-- **Producers leave a scheduler fit**, unless they ask it to exit. -/
theorem Fit.perform {s : Scheduler t} (h : s.Fit) (operation : Operation)
    (hproducer : operation.isProducers = true) (hexit : operation ≠ .requestExit) :
    (s.perform operation).Fit where
  inTable := steady_inTable.toLasting.perform hproducer s h.inTable
  sized := by
    have := (Chronicled.lasting_sized.perform operation _ (Chronicled.throughout_of h.sized)).1
    rwa [Chronicled.scheduler_perform] at this
  exit := by
    have hof : (Chronicled.of s).scheduler.flags.exitRequested = false := h.exit
    have := Chronicled.scheduler_perform (Chronicled.of s) operation
    rw [Chronicled.scheduler_of] at this
    rw [← this]
    cases operation with
    | post group forceNew event => exact Chronicled.standing_exit.post _ _ _ _ hof
    | broadcast forceNew event => exact Chronicled.standing_exit.broadcast _ _ _ hof
    | advance ticks => exact Chronicled.standing_exit.advance _ _ hof
    | heartbeat => exact Chronicled.standing_exit.advance _ _ hof
    | wake => exact hof
    | requestExit => exact absurd rfl hexit
    | start | reset | takeWake | pass => cases hproducer

/-- Without initialization handlers there is nothing to start. -/
theorem start_eq_self (hinit : ∀ id, (t.machines.get id).init = none) (s : Scheduler t) :
    s.start = s := by
  have hprepare (w : World (Scheduler t) μ) : prepareAll w s = s := by
    refine List.foldlRecOn (motive := fun v => v = s) _ _ rfl fun v hv g _ =>
      List.foldlRecOn (motive := fun v => v = s) _ _ hv fun v hv member _ => ?_
    exact (Machine.prepare_of_init_none (hinit member.2) w (slot member.2) member.1 v).trans hv
  unfold start
  cases t.config.nesting with
  | zero => exact hprepare _
  | succ depth => exact hprepare _

/-- **A reset makes fit.** -/
theorem Fit.reset (hinit : ∀ id, (t.machines.get id).init = none) {s : Scheduler t} (h : s.Fit) :
    s.reset.Fit ∧ s.reset.now = .zero := by
  unfold Scheduler.reset resetWith
  rw [start_eq_self hinit]
  exact ⟨⟨inTable_startup rfl, fun g =>
    (congrArg EventQueue.capacity (Vector.get_mapped EventQueue.clear s.queues g)).trans
      (h.sized g), rfl⟩, rfl⟩

variable {fine : Ticks → Prop}

/-- A pass of patient machines leaves a scheduler fit. -/
theorem Fit.pass (hmachines : ∀ id, (t.machines.get id).Patient fine t.config.timing)
    {s : Scheduler t} (h : s.Fit) : s.pass.2.Fit where
  inTable := inTable_pass s h.inTable
  sized := by
    have := (Chronicled.lasting_sized.passing.pass _ (Chronicled.throughout_of h.sized)).1
    rwa [← Chronicled.scheduler_of s, Chronicled.scheduler_pass]
  exit := by
    have horderly := (Chronicled.passing_orderly hmachines).pass (Chronicled.of s)
      Chronicled.orderly_nil
    have hexplained := Chronicled.passing_explained.pass (Chronicled.of s) fun hrequested =>
      absurd (h.exit.symm.trans hrequested) Bool.false_ne_true
    rw [← Chronicled.scheduler_of s, Chronicled.scheduler_pass]
    refine Bool.eq_false_iff.mpr fun hrequested => ?_
    obtain ⟨m, hm, hasked⟩ := hexplained hrequested
    exact (horderly m hm).2 hasked

/-- **So does a run of passes.** -/
theorem Fit.runUntilIdle (hmachines : ∀ id, (t.machines.get id).Patient fine t.config.timing)
    {bound : Nat} {s v : Scheduler t} {step : Step} (h : s.Fit)
    (hrun : s.runUntilIdle bound = some (step, v)) : v.Fit := by
  induction bound generalizing s with
  | zero => cases hrun
  | succ bound ih =>
    have hpass := h.pass hmachines
    rw [Scheduler.runUntilIdle] at hrun
    split at hrun
    · next u heq =>
      rw [heq] at hpass
      exact ih hpass hrun
    · next heq =>
      cases hrun
      rw [heq] at hpass
      exact hpass

/-- More passes than enough are enough. -/
theorem runUntilIdle_mono {few many : Nat} (hle : few ≤ many) {s : Scheduler t}
    {outcome : Step × Scheduler t} (h : s.runUntilIdle few = some outcome) :
    s.runUntilIdle many = some outcome := by
  induction few generalizing many s with
  | zero => cases h
  | succ few ih =>
    obtain ⟨many, rfl⟩ := Nat.exists_eq_add_one_of_ne_zero (Nat.ne_of_gt (Nat.lt_of_lt_of_le
      (Nat.succ_pos few) hle))
    rw [Scheduler.runUntilIdle] at h ⊢
    split at h
    · exact ih (Nat.le_of_succ_le_succ hle) h
    · exact h

/-- **Patient machines come to rest**: as many passes as a queue has slots
and one pass more, and the scheduler sleeps. -/
theorem sleeps_within_slots {slots : Nat} (hpatient : t.Patient fine slots) {s : Scheduler t}
    (h : s.Fit) (hfine : Timely fine s.now) {bound : Nat} (hbound : slots < bound) :
    ∃ wakeup v, s.runUntilIdle bound = some (.sleep wakeup, v) := by
  have horderly := (Chronicled.passing_orderly hpatient.machine).passes (max 1 s.longest + 1)
    (Chronicled.of s) Chronicled.orderly_nil
  have hlongest : s.longest ≤ slots := Finset.sup_le fun g _ =>
    calc (s.waiting g).length
      _ = (s.queues.get g).size := EventQueue.length_toList _
      _ ≤ (s.queues.get g).capacity := EventQueue.size_le_capacity _
      _ ≤ slots := h.sized g ▸ hpatient.capacity g
  obtain ⟨step, v, hrun, hstep⟩ := settles_of_patient hfine h.inTable h.exit
    fun m hm => (horderly m hm).1
  obtain ⟨wakeup, rfl⟩ := hstep.resolve_right fun ⟨_, m, hm, hasked⟩ =>
    (horderly m hm).2 hasked
  have hpos := hpatient.slots_pos
  exact ⟨wakeup, v, runUntilIdle_mono (by omega) hrun⟩

end Scheduler

end TimedMachines
