import TimedMachines.Proofs.Operation

/-!
# Two schedulers in parallel

To compare two schedulers is to find a relation that both keep while the
same is done to them. Most of what can be done is made of a few elementary
changes and of looking at flags, clock and wakeup. So a relation that is
kept by these changes, and that only ever holds of schedulers that look the
same there, is kept by the clock, by what a pass commits to and by whole
runs of passes (`Parallel`). What is left to show of each relation is that
starts and the turns of a pass keep it.
-/

namespace Option.Rel

variable {α β γ δ : Type} {R : α → β → Prop} {S : γ → δ → Prop} {x : Option α} {y : Option β}

theorem mono (h : Rel R x y) {R' : α → β → Prop} (hR : ∀ a b, R a b → R' a b) : Rel R' x y := by
  cases h with
  | none => exact .none
  | some hab => exact .some (hR _ _ hab)

theorem bind (h : Rel R x y) {f : α → Option γ} {g : β → Option δ}
    (hfg : ∀ a b, y = Option.some b → R a b → Rel S (f a) (g b)) :
    Rel S (x.bind f) (y.bind g) := by
  cases h with
  | none => exact .none
  | some hab => exact hfg _ _ rfl hab

theorem map (h : Rel R x y) {f : α → γ} {g : β → δ} (hfg : ∀ a b, R a b → S (f a) (g b)) :
    Rel S (x.map f) (y.map g) := by
  cases h with
  | none => exact .none
  | some hab => exact .some (hfg _ _ hab)

theorem map_eq (h : Rel R x y) {f : α → γ} {g : β → γ} (hfg : ∀ a b, R a b → f a = g b) :
    x.map f = y.map g := by
  cases h with
  | none => rfl
  | some hab => exact congrArg Option.some (hfg _ _ hab)

end Option.Rel

namespace TimedMachines.Scheduler

variable {μ : Type} {t t' : Topology μ} {α : Type}

/-- Equal answers beside related schedulers. -/
def Alongside (R : Scheduler t → Scheduler t' → Prop) (outcome : α × Scheduler t)
    (outcome' : α × Scheduler t') : Prop :=
  outcome.1 = outcome'.1 ∧ R outcome.2 outcome'.2

/-- **A relation that is kept in parallel**, by what is done to both
schedulers, and under which they look the same. -/
structure Parallel (R : Scheduler t → Scheduler t' → Prop) : Prop where
  flags : ∀ {s u}, R s u → s.flags = u.flags
  wakeup : ∀ {s u}, R s u → s.wakeup = u.wakeup
  now : ∀ {s u}, R s u → s.now = u.now
  report : ∀ {s u}, R s u → ∀ entry, R (s.report entry) (u.report entry)
  wake : ∀ {s u}, R s u → R s.wake u.wake
  setFlags : ∀ {s u}, R s u → ∀ change : SchedulerFlags → SchedulerFlags,
    R { s with flags := change s.flags } { u with flags := change u.flags }
  setWakeup : ∀ {s u}, R s u → ∀ wakeup, R { s with wakeup := wakeup } { u with wakeup := wakeup }
  setNow : ∀ {s u}, R s u → ∀ ticks,
    R { s with now := s.now.advanceTo ticks } { u with now := u.now.advanceTo ticks }
  rebase : ∀ {s u}, R s u → R s.rebase u.rebase
  broadcast : ∀ {s u}, R s u → ∀ forceNew event,
    R (s.broadcast forceNew event) (u.broadcast forceNew event)

namespace Parallel

variable {R : Scheduler t → Scheduler t' → Prop} {s : Scheduler t} {u : Scheduler t'}

/-! ## The clock -/

theorem fireTimeout (hR : Parallel R) (h : R s u) : R s.fireTimeout u.fireTimeout :=
  hR.broadcast (hR.report h _) _ _

theorem advance (hR : Parallel R) (h : R s u) (ticks : Ticks) :
    R (s.advance ticks) (u.advance ticks) := by
  have hnow := hR.setNow h ticks
  have hreached : (s.now.advanceTo ticks).atOrAfter s.wakeup =
      (u.now.advanceTo ticks).atOrAfter u.wakeup := by rw [hR.now h, hR.wakeup h]
  unfold Scheduler.advance
  dsimp only
  rw [congrArg SchedulerFlags.infiniteSleep (hR.flags h),
    congrArg SchedulerFlags.eventQueued (hR.flags h), hreached]
  exact ite_rel (fun _ => ite_rel (fun _ => hR.wake hnow) fun _ => hnow)
    fun _ => ite_rel (fun _ => hR.fireTimeout hnow) fun _ => hnow

theorem heartbeat (hR : Parallel R) (h : R s u) : R s.heartbeat u.heartbeat := by
  unfold Scheduler.heartbeat
  rw [hR.now h]
  exact hR.advance h _

theorem requestExit (hR : Parallel R) (h : R s u) : R s.requestExit u.requestExit :=
  hR.wake (hR.setFlags h fun flags => { flags with exitRequested := true })

/-! ## Passes -/

theorem scheduled (hR : Parallel R) (h : R s u) : s.scheduled = u.scheduled := by
  unfold Scheduler.scheduled
  rw [hR.flags h, hR.wakeup h]

theorem settle (hR : Parallel R) (h : R s u) (consensus : Consensus) :
    R (s.settle consensus) (u.settle consensus) := by
  have hscheduled : R (s.schedule consensus) (u.schedule consensus) :=
    hR.setWakeup (hR.setFlags h fun flags =>
      { flags with infiniteSleep := consensus.isInfiniteSleep }) _
  have hover : (s.schedule consensus).epochOver = (u.schedule consensus).epochOver := by
    unfold epochOver
    rw [hR.flags hscheduled, hR.now hscheduled, hR.wakeup hscheduled]
  unfold Scheduler.settle
  dsimp only
  rw [hover]
  exact hR.setFlags (ite_rel (fun _ => hR.rebase hscheduled) fun _ => hscheduled)
    fun flags => { flags with timeoutWakesSleepers := false }

theorem commit (hR : Parallel R) (h : R s u) (consensus : Consensus) :
    Alongside R (s.commit consensus) (u.commit consensus) := by
  have hdue : s.isDue consensus = u.isDue consensus := by
    unfold isDue
    rw [hR.now h]
  have hsettled := hR.settle h consensus
  have hnoted : R
      ((s.settle consensus).note
        (.enteringSleep ((s.settle consensus).scheduled.map (·.ticks))))
      ((u.settle consensus).note
        (.enteringSleep ((u.settle consensus).scheduled.map (·.ticks)))) := by
    rw [hR.scheduled hsettled]
    exact hR.report hsettled _
  unfold Scheduler.commit
  dsimp only
  rw [hdue, hR.scheduled hnoted]
  exact ite_rel (fun _ => ⟨rfl, hR.fireTimeout h⟩) fun _ => ⟨rfl, hR.report hnoted _⟩

theorem inPass (hR : Parallel R) (h : R s u) : R s.inPass u.inPass :=
  hR.setFlags h fun flags => { flags with infiniteSleep := true, eventQueued := false }

/-- **A pass keeps the relation** if the turns of all groups do. What the
machines agree on only matters if no event was queued in the meantime. -/
theorem pass (hR : Parallel R) (h : R s u) (hvisited : R s.inPass.visitAll.2 u.inPass.visitAll.2)
    (hconsensus : s.inPass.visitAll.2.flags.eventQueued = false →
      s.inPass.visitAll.1 = u.inPass.visitAll.1) :
    Alongside R s.pass u.pass := by
  have hbegun := hR.inPass h
  unfold Scheduler.pass
  dsimp only
  rw [hR.flags hbegun, ← hR.flags hvisited]
  refine ite_rel (fun _ => ⟨rfl, hR.report hbegun _⟩) fun _ =>
    ite_rel (fun _ => ⟨rfl, hR.report hvisited _⟩) fun hqueued => ?_
  rw [hconsensus (Bool.eq_false_iff.mpr hqueued)]
  exact hR.commit hvisited _

end Parallel

/-- **Runs of passes end alike**, if they do, where passes keep the
relation. -/
theorem runUntilIdle_rel {R : Scheduler t → Scheduler t' → Prop}
    (hpass : ∀ s u, R s u → Alongside R s.pass u.pass) {s : Scheduler t} {u : Scheduler t'}
    (h : R s u) (bound : Nat) :
    Option.Rel (Alongside R) (s.runUntilIdle bound) (u.runUntilIdle bound) := by
  induction bound generalizing s u with
  | zero => exact .none
  | succ bound ih =>
    have hpassed := hpass s u h
    unfold Scheduler.runUntilIdle
    revert hpassed
    rcases s.pass with ⟨step, v⟩
    rcases u.pass with ⟨_, w⟩
    rintro ⟨rfl, hv⟩
    cases step with
    | again => exact ih hv
    | sleep _ | exit => exact .some ⟨rfl, hv⟩

end TimedMachines.Scheduler
