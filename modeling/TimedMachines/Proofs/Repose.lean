import TimedMachines.Proofs.Decision
import TimedMachines.Proofs.ScriptProgress

/-!
# What an automatic script leaves behind

Between two lines of a script that drives its scheduler in automatic mode
the scheduler is **at rest** (`Scheduler.AtRest`): nothing is pending, and
it has committed to the earliest wakeup of its machines, which has not
come. That is so although the scheduler runs only after lines that set the
latch, and not at all after lines that fail.

The reason is that a pass which ends in sleep leaves the scheduler at rest
(`atRest_of_sleep`), and that producers who disturb its rest set the latch
(`AtRest.perform`). So a line leaves the scheduler in one of few ways
(`Scheduler.Left`): as it was, as producers left it who did not wake it,
or as a run of passes left it.

With a machine that stands alone in its group the commitment is the
machine's own wakeup, and status reports show as much
(`Builtin.nothing_left_pending`).
-/

namespace TimedMachines

variable {μ : Type} {t : Topology μ}

/-- Modest handlers ask for nothing. -/
theorem Act.Modest.asks {act : Act μ} (h : act.Modest) (allowed : Request → Prop) :
    act.Asks allowed := by
  induction act with
  | done => trivial
  | delay _ _ ih | delayForever _ ih | veto _ ih | remark _ _ _ ih => exact ih h
  | override _ _ _ | readClock _ _ | post _ _ _ _ _ | ask _ _ _ | consult _ _ | amend _ _ _ =>
    exact h.elim

theorem Topology.Patient.calm {fine : Ticks → Prop} {slots : Nat} (h : t.Patient fine slots) :
    t.Calm :=
  fun id handler hhandles view => ((h.machine id).modest handler hhandles view).asks _

/-- What is not scheduled is an infinite sleep. -/
theorem Status.isNone_scheduled (status : Status) :
    status.scheduled.isNone = status.flags.infiniteSleep := by
  unfold scheduled
  cases status.flags.infiniteSleep <;> rfl

theorem Scheduler.isNone_scheduled (s : Scheduler t) :
    s.scheduled.isNone = s.flags.infiniteSleep := by
  unfold scheduled
  cases s.flags.infiniteSleep <;> rfl

namespace Topology.Alone

variable {machine : Machine μ} {config : Config} {slots : Nat}

/-- A machine that stands alone in one group is met there first. -/
theorem metFirst (h : t.Alone machine config slots) (g : Fin t.groupCount) : t.MetFirst g := by
  refine ⟨?_, fun earlier hearlier => ?_⟩
  · obtain ⟨id, hid⟩ := List.length_eq_one_iff.mp (h.members g)
    rw [hid]
    exact List.nodup_singleton id
  · have := h.groups
    have := g.isLt
    have : earlier.val < g.val := hearlier
    omega

/-- The group is the first, and the machine the first in it. -/
theorem exists_member (h : t.Alone machine config slots) :
    ∃ g id, t.group? 0 = .ok g ∧ t.member? 0 0 = .ok id ∧ t.Hosts id ∧ ∀ other, other = id := by
  have hgroup : (0 : UInt8).toNat < t.groupCount := h.groups ▸ Nat.one_pos
  obtain ⟨id, hid⟩ := List.length_eq_one_iff.mp (h.members ⟨0, hgroup⟩)
  refine ⟨⟨0, hgroup⟩, id, dif_pos hgroup, ?_, ⟨⟨0, hgroup⟩, hid ▸ List.mem_singleton_self id⟩,
    fun other => ?_⟩
  · unfold Topology.member? Topology.group?
    rw [dif_pos hgroup]
    dsimp only
    rw [show (⟨(0 : UInt8).toNat, hgroup⟩ : Fin t.groupCount) = ⟨0, hgroup⟩ from rfl, hid]
    rfl
  · have := h.machines
    omega

end Topology.Alone

namespace Scheduler

/-! ## Rest -/

/-- **A scheduler at rest**: nothing is pending or announced, and it has
committed to a wakeup of one of its machines that has not come and is not
after any other. It is past its startup; and if no machine has a wakeup,
all times are seen from the present epoch. -/
structure AtRest (s : Scheduler t) : Prop where
  empty : ∀ g, s.waiting g = []
  unannounced : s.flags.eventQueued = false
  started : s.flags.timeoutWakesSleepers = false
  guarded : s.Guarded
  attained : ∀ w, s.scheduled = some w → ∃ id, t.Hosts id ∧ (s.statuses.get id).scheduled = some w
  rebased : s.flags.infiniteSleep = true →
    s.wakeup = .zero ∧ ∀ id, (s.statuses.get id).rebased = s.statuses.get id

theorem flags_settle (consensus : Consensus) (s : Scheduler t) :
    (s.settle consensus).flags =
      ⟨consensus.isInfiniteSleep, s.flags.eventQueued, false, s.flags.exitRequested⟩ := by
  unfold settle
  dsimp only
  split <;> rfl

/-- Without a wakeup the epoch changes. -/
theorem settle_of_isInfiniteSleep {consensus : Consensus} (s : Scheduler t)
    (h : consensus.isInfiniteSleep = true) :
    (s.settle consensus).wakeup = .zero ∧
      (s.settle consensus).statuses = s.statuses.map Status.rebased := by
  obtain ⟨earliest⟩ := consensus
  obtain rfl : earliest = none := Option.isNone_iff_eq_none.mp h
  exact ⟨rfl, rfl⟩

/-- **A pass that ends in sleep leaves the scheduler at rest**, if the
members of all groups are met there first. -/
theorem atRest_of_sleep (hcalm : t.Calm) (hfirst : ∀ g, t.MetFirst g) {s asleep : Scheduler t}
    {wakeup : Option Timestamp} (hpass : s.pass = (.sleep wakeup, asleep)) : asleep.AtRest where
  empty := toList_queues_of_sleep hpass
  unannounced := by
    obtain ⟨consensus, visited, -, hqueued, -, -, rfl⟩ := sleep_of_pass hpass
    exact (congrArg SchedulerFlags.eventQueued (flags_settle consensus visited)).trans hqueued
  started := by
    obtain ⟨consensus, visited, -, -, -, -, rfl⟩ := sleep_of_pass hpass
    exact congrArg SchedulerFlags.timeoutWakesSleepers (flags_settle consensus visited)
  guarded := guarded_of_sleep hcalm hpass
  attained w hw := attained_of_sleep hcalm hpass (fun g _ => hfirst g)
    ((scheduled_of_sleep hpass).symm.trans hw)
  rebased hinfinite := by
    obtain ⟨consensus, visited, -, -, -, -, rfl⟩ := sleep_of_pass hpass
    have hconsensus : consensus.isInfiniteSleep = true :=
      (congrArg SchedulerFlags.infiniteSleep (flags_settle consensus visited)).symm.trans hinfinite
    obtain ⟨hwakeup, hstatuses⟩ := settle_of_isInfiniteSleep visited hconsensus
    refine ⟨hwakeup, fun id => ?_⟩
    change ((visited.settle consensus).statuses.get id).rebased =
      (visited.settle consensus).statuses.get id
    rw [hstatuses, Vector.get_mapped]
    rfl

/-- An event that is announced has set the latch, and goes on to have set
it. -/
theorem isSign_unannounced :
    IsSign fun s : Scheduler t => s.flags.eventQueued = true → s.latch.woken = true :=
  isSign_of_raised (fun queued _ woken => queued = true → woken = true) (fun _ _ _ _ _ => rfl)
    (fun _ _ _ _ _ => rfl) fun _ _ => rfl

/-- **Who disturbs a scheduler's rest sets its latch.** -/
theorem AtRest.perform {s : Scheduler t} (h : s.AtRest) {operation : Operation}
    (hproducer : operation.isProducers = true) :
    IsWoken (s.perform operation) ∨ (s.perform operation).AtRest := by
  have hheralds : Heralds IsWoken t.allGroups s := fun g _ hne => absurd (h.empty g) hne
  have hlater := (stable_heralds isSign_woken t.allGroups).toLasting.perform hproducer s hheralds
  have hannounced := isSign_unannounced.toLasting.perform hproducer s fun hqueued =>
    absurd (h.unannounced.symm.trans hqueued) Bool.false_ne_true
  obtain ⟨hinfinite, hstarted, hwakeup, hstatuses⟩ :=
    (lasting_commitment s).perform hproducer s ⟨rfl, rfl, rfl, rfl⟩
  have hscheduled : (s.perform operation).scheduled = s.scheduled := by
    unfold scheduled
    rw [hinfinite, hwakeup]
  by_cases hwoken : IsWoken (s.perform operation)
  · exact .inl hwoken
  · refine .inr ⟨fun g => ?_, ?_, hstarted.trans h.started, ?_, fun w hw => ?_, fun hi => ?_⟩
    · exact by_contra fun hne => hwoken (hlater g (List.mem_finRange g) hne)
    · exact Bool.eq_false_iff.mpr fun hqueued => hwoken (hannounced hqueued)
    · exact (guarded_perform hheralds (.inr h.guarded) hproducer).resolve_left hwoken
    · rw [hstatuses]
      exact h.attained w (hscheduled.symm.trans hw)
    · rw [hwakeup, hstatuses]
      exact h.rebased (hinfinite.symm.trans hi)

/-- The latch and the journal have no part in the rest. -/
theorem AtRest.clearWake {s : Scheduler t} (h : s.AtRest) : s.clearWake.AtRest :=
  ⟨h.empty, h.unannounced, h.started, h.guarded, h.attained, h.rebased⟩

theorem AtRest.note {s : Scheduler t} (h : s.AtRest) (n : Note) : (s.note n).AtRest :=
  ⟨h.empty, h.unannounced, h.started, h.guarded, h.attained, h.rebased⟩

/-- **A scheduler at rest has committed to the earliest wakeup** of its
machines. -/
theorem AtRest.isEarliest {s : Scheduler t} (h : s.AtRest) {w : Timestamp}
    (hw : s.scheduled = some w) : s.IsEarliest w := by
  refine ⟨h.attained w hw, fun id hid v hv => ?_⟩
  obtain ⟨hcommitted, hle, -⟩ := h.guarded id hid v hv
  unfold scheduled at hw
  rw [hcommitted] at hw
  exact Option.some.inj hw ▸ Timestamp.atOrAfter_iff.mpr hle

/-- It has committed to nothing only if no machine has a wakeup. -/
theorem AtRest.scheduled_eq_none {s : Scheduler t} (h : s.AtRest) (hnone : s.scheduled = none)
    {id : Fin t.machineCount} (hid : t.Hosts id) : (s.statuses.get id).scheduled = none := by
  refine Option.eq_none_iff_forall_ne_some.mpr fun w hw => ?_
  have hcommitted := (h.guarded id hid w hw).1
  unfold scheduled at hnone
  rw [hcommitted] at hnone
  cases hnone

/-- What it has committed to has not come. -/
theorem AtRest.after_now {s : Scheduler t} (h : s.AtRest) {w : Timestamp}
    (hw : s.scheduled = some w) : w.after s.now = true := by
  obtain ⟨id, hid, hstatus⟩ := h.attained w hw
  obtain ⟨hcommitted, -, hlater⟩ := h.guarded id hid w hstatus
  unfold scheduled at hw
  rw [hcommitted] at hw
  exact Option.some.inj hw ▸ Timestamp.after_iff.mpr hlater

/-- **What a machine that is alone wants is what was committed to.** -/
theorem AtRest.scheduled_eq {machine : Machine μ} {config : Config} {slots : Nat}
    (halone : t.Alone machine config slots) {s : Scheduler t} (h : s.AtRest)
    (id : Fin t.machineCount) : s.scheduled = (s.statuses.get id).scheduled := by
  obtain ⟨-, only, -, -, hhosts, honly⟩ := halone.exists_member
  obtain rfl := honly id
  cases hscheduled : s.scheduled with
  | none => exact (h.scheduled_eq_none hscheduled hhosts).symm
  | some w =>
    obtain ⟨other, -, hother⟩ := h.attained w hscheduled
    exact (honly other ▸ hother).symm

/-! ## Runs of passes -/

/-- A pass ends in an exit only on request. -/
theorem exitRequested_of_pass {s : Scheduler t} (h : s.pass.1 = .exit) :
    s.flags.exitRequested = true := by
  obtain ⟨hexit, -⟩ | ⟨_, _, -, -, ⟨-, hpass⟩ | ⟨-, -, hpass⟩ | ⟨-, -, hpass⟩⟩ := s.pass_cases
  · exact hexit
  · rw [hpass] at h
    cases h
  · rw [hpass] at h
    cases h
  · rw [hpass] at h
    cases h

/-- **The run of a fit scheduler ends with a pass that ends in sleep.** -/
theorem Fit.sleep_of_runUntilIdle {fine : Ticks → Prop}
    (hmachines : ∀ id, (t.machines.get id).Patient fine t.config.timing) {bound : Nat}
    {s v : Scheduler t} {step : Step} (h : s.Fit) (hrun : s.runUntilIdle bound = some (step, v)) :
    ∃ (u : Scheduler t) (wakeup : Option Timestamp), u.pass = (.sleep wakeup, v) := by
  induction bound generalizing s with
  | zero => cases hrun
  | succ bound ih =>
    rw [Scheduler.runUntilIdle] at hrun
    split at hrun
    · next u hpass =>
      have hfit := h.pass hmachines
      rw [hpass] at hfit
      exact ih hfit hrun
    · next last u hlast hpass =>
      cases hrun
      cases step with
      | again => exact (hlast rfl).elim
      | sleep wakeup => exact ⟨s, wakeup, hpass⟩
      | exit =>
        have := exitRequested_of_pass (congrArg Prod.fst hpass)
        exact absurd (h.exit.symm.trans this) Bool.false_ne_true

/-! ## Lines -/

/-- **How a line leaves the scheduler** of a session in automatic mode, where
`now` is the time that it sets: as it was, as a producer left it who did not
wake it, or as a run of passes left it that began at that time. -/
inductive Left (before : Scheduler t) : Timestamp → Scheduler t → Prop where
  /-- The line had nothing to do with the scheduler. -/
  | spared : Left before before.now before
  /-- It left a message. -/
  | noted (n : Note) : Left before before.now (before.note n)
  /-- It posted or moved the clock, and nothing came of it. -/
  | prompted (operation : Operation) (hproducer : operation.isProducers = true)
    (hasleep : (before.perform operation).latch.woken = false) :
    Left before (before.perform operation).now (before.perform operation)
  /-- The scheduler ran. -/
  | ran {bound : Nat} {now : Timestamp} {s v : Scheduler t} {step : Step} (hfit : s.Fit)
    (hnow : s.now = now) (hrun : s.runUntilIdle bound = some (step, v)) :
    Left before now v.clearWake

/-- **What ran comes to rest.** -/
theorem Fit.atRest_of_runUntilIdle {fine : Ticks → Prop} {slots : Nat}
    (hpatient : t.Patient fine slots) (hfirst : ∀ g, t.MetFirst g) {bound : Nat}
    {s v : Scheduler t} {step : Step} (h : s.Fit) (hrun : s.runUntilIdle bound = some (step, v)) :
    v.AtRest := by
  obtain ⟨u, wakeup, hpass⟩ := h.sleep_of_runUntilIdle hpatient.machine hrun
  exact atRest_of_sleep hpatient.calm hfirst hpass

/-- **A line leaves the scheduler at rest.** -/
theorem AtRest.of_left {fine : Ticks → Prop} {slots : Nat} (hpatient : t.Patient fine slots)
    (hfirst : ∀ g, t.MetFirst g) {s u : Scheduler t} {now : Timestamp} (h : s.AtRest)
    (hleft : Left s now u) : u.AtRest := by
  cases hleft with
  | spared => exact h
  | noted n => exact h.note n
  | prompted _ hproducer hasleep =>
    exact (h.perform hproducer).resolve_left (ne_true_of_eq_false hasleep)
  | ran hfit _ hrun => exact (hfit.atRest_of_runUntilIdle hpatient hfirst hrun).clearWake

end Scheduler

namespace Script

open Scheduler (Left)

variable {fine : Ticks → Prop} {slots bound : Nat}

/-- **How an engine settles**: it has nothing to do, or runs. -/
theorem Engine.Driven.settle_cases {engine next : Engine t} (h : engine.Driven)
    (hsettle : engine.settle bound = some next) :
    (engine.scheduler.latch.woken = false ∧ next = engine) ∨
      engine.scheduler.latch.woken = true ∧
        ∃ step v, engine.scheduler.clearWake.runUntilIdle bound = some (step, v) ∧
          next.scheduler = v.clearWake := by
  obtain @⟨s, -⟩ := h
  unfold Engine.settle at hsettle
  dsimp only at hsettle
  split at hsettle
  · next hwoken =>
    unfold Engine.runAwake at hsettle
    rw [Option.map_map, Option.map_eq_some_iff] at hsettle
    obtain ⟨⟨step, v⟩, hrun, rfl⟩ := hsettle
    exact .inr ⟨hwoken, step, v, hrun, rfl⟩
  · next hasleep => exact .inl ⟨Bool.eq_false_iff.mpr hasleep, (Option.some.inj hsettle).symm⟩

/-- **How an engine starts**: it runs. -/
theorem Engine.Driven.boot_cases {engine next : Engine t} (h : engine.Driven)
    {startup : List Event} (hboot : engine.boot bound startup = some next) :
    ∃ (s v : Scheduler t) (step : Step), s.Fit ∧ s.now = engine.scheduler.now ∧
      s.runUntilIdle bound = some (step, v) ∧ next.scheduler = v.clearWake := by
  obtain ⟨hfit, hnow⟩ := h.queued startup
  obtain @⟨s, -⟩ := h
  obtain ⟨⟨step, v⟩, hrun, rfl⟩ := Option.map_eq_some_iff.mp hboot
  exact ⟨_, v, step, hfit, hnow, hrun, rfl⟩

namespace Session

variable {session : Session t}

/-- The time that a command sets. -/
def clockAfter (session : Session t) (command : Command) : Timestamp :=
  (session.clockAt command).getD session.scheduler.now

/-- The time that a line sets. -/
def clockAfterLine (session : Session t) (lineNumber : Nat) (raw : String) : Timestamp :=
  match parse lineNumber raw with
  | .ok (some line) => session.clockAfter line.command
  | _ => session.scheduler.now

/-- **What follows a command** leaves the scheduler as the command did, or
the scheduler runs. -/
theorem Driven.left_of_conclude {before : Scheduler t} {now : Timestamp} (h : session.Driven)
    {answer : Except ScriptError Unit} {line : Line} {outcome : Except ScriptError Flow × Session t}
    (hnow : session.scheduler.latch.woken = true → session.scheduler.now = now)
    (hleft : session.scheduler.latch.woken = false ∨ answer ≠ .ok () →
      Left before now session.scheduler)
    (hconclude : Session.conclude bound line (answer, session) = some outcome) :
    Left before now outcome.2.scheduler := by
  cases answer with
  | error e =>
    cases hconclude
    exact hleft (.inr nofun)
  | ok =>
    obtain ⟨settled, hsettled, rfl⟩ := Option.map_eq_some_iff.mp hconclude
    obtain ⟨next, hnext, rfl⟩ := Option.map_eq_some_iff.mp hsettled
    unfold Session.scheduler
    rw [engine_check]
    obtain ⟨hasleep, rfl⟩ | ⟨hwoken, step, v, hrun, hscheduler⟩ :=
      Engine.Driven.settle_cases h hnext
    · exact hleft (.inl hasleep)
    · have hclear : session.scheduler.clearWake.Fit :=
        ⟨h.fit.inTable, h.fit.sized, h.fit.exit⟩
      exact hscheduler ▸ .ran hclear (hnow hwoken) hrun

theorem left_of_queue (everywhere forceNew : Bool) (event : Event) (group : UInt8)
    (h : (session.queue everywhere forceNew event group).2.scheduler.latch.woken = false ∨
      (session.queue everywhere forceNew event group).1 ≠ .ok ()) :
    Left session.scheduler (session.queue everywhere forceNew event group).2.scheduler.now
      (session.queue everywhere forceNew event group).2.scheduler := by
  unfold Session.queue at h ⊢
  by_cases heverywhere : everywhere = true
  · rw [if_pos heverywhere, scheduler_update] at h ⊢
    exact .prompted (.broadcast forceNew event) rfl
      (h.resolve_right fun hnot => hnot rfl)
  · rw [if_neg heverywhere] at h ⊢
    by_cases hgroup : group.toNat < t.groupCount
    · rw [if_pos hgroup, scheduler_update] at h ⊢
      exact .prompted (.post group forceNew event) rfl
        (h.resolve_right fun hnot => hnot rfl)
    · rw [if_neg hgroup]
      exact .spared

/-- **How a command leaves the scheduler.** -/
theorem Idle.left_of_execute (hpatient : t.Patient fine slots) (h : session.Idle) {line : Line}
    {outcome : Except ScriptError Flow × Session t}
    (hexecute : session.execute bound line = some outcome) :
    Left session.scheduler (session.clockAfter line.command) outcome.2.scheduler := by
  unfold Session.execute at hexecute
  generalize line.command = command at hexecute ⊢
  cases command with
  | exit =>
    cases hexecute
    exact .spared
  | delay ms =>
    cases hexecute
    exact (scheduler_update _ session).symm ▸ .noted _
  | print text =>
    cases hexecute
    exact .spared
  | wakeup =>
    dsimp only at hexecute
    unfold Session.wakeup at hexecute
    rw [if_pos h.driven.isAutomatic] at hexecute
    cases hexecute
    exact .spared
  | queue everywhere forceNew code data group =>
    obtain ⟨hdriven, hnow, -⟩ := Driven.queue h.driven everywhere forceNew ⟨code, data⟩ group
    refine Driven.left_of_conclude hdriven (fun _ => hnow) (fun hasleep => ?_) hexecute
    have hleft := left_of_queue everywhere forceNew ⟨code, data⟩ group hasleep
    rwa [hnow] at hleft
  | heartbeat time =>
    obtain ⟨hdriven, hnow⟩ := Driven.heartbeat h.driven time
    unfold clockAfter
    rw [hnow]
    refine Driven.left_of_conclude hdriven (fun _ => rfl) ?_ hexecute
    unfold Session.heartbeat
    rw [scheduler_update]
    cases time with
    | some ticks =>
      exact fun hasleep => .prompted (.advance ticks) rfl
        (hasleep.resolve_right fun hnot => hnot rfl)
    | none =>
      exact fun hasleep => .prompted .heartbeat rfl
        (hasleep.resolve_right fun hnot => hnot rfl)
  | status group position =>
    have hsame : (session.status group position).2.scheduler = session.scheduler := by
      unfold Session.status
      split <;> rfl
    refine Driven.left_of_conclude (h.status group position).driven
      (fun _ => congrArg Scheduler.now hsame) (fun _ => ?_) hexecute
    rw [hsame]
    exact .spared
  | reset =>
    obtain ⟨begun, hbegun, hconclude⟩ := Option.bind_eq_some_iff.mp hexecute
    obtain ⟨next, hnext, rfl⟩ := Option.map_eq_some_iff.mp hbegun
    have hremark : (session.remark .debug "Reseting...").Driven := (h.remark _ _).driven
    obtain ⟨hfresh, hzero⟩ := hremark.fit.reset hpatient.init
    obtain ⟨s, v, step, hfit, hnow, hrun, hscheduler⟩ :=
      Engine.Driven.boot_cases (hremark.update hfresh) hnext
    have hbegin := (congrArg Scheduler.now (scheduler_update _ _)).trans hzero
    have hleft : Left session.scheduler .zero next.scheduler :=
      hscheduler ▸ .ran hfit (hnow.trans hbegin) hrun
    have hidle := (h.reset hpatient False.elim).good _ hbegun
    exact Driven.left_of_conclude hidle.driven
      (fun hwoken => absurd (hidle.asleep.symm.trans hwoken) Bool.false_ne_true)
      (fun _ => hleft) hconclude

/-- **How a line leaves the scheduler.** -/
theorem Idle.left_of_executeLine (hpatient : t.Patient fine slots) (h : session.Idle)
    {lineNumber : Nat} {raw : String} {flow : Flow} {next : Session t}
    (hline : session.executeLine bound lineNumber raw = some (flow, next)) :
    Left session.scheduler (session.clockAfterLine lineNumber raw) next.scheduler := by
  unfold Session.executeLine at hline
  unfold clockAfterLine
  split at hline
  · next e hparse =>
    rw [hparse]
    cases hline
    exact .spared
  · next hparse =>
    rw [hparse]
    cases hline
    exact .spared
  · next line hparse =>
    rw [hparse]
    obtain ⟨⟨answer, after⟩, hexecute, hnext⟩ := Option.map_eq_some_iff.mp hline
    have hleft := h.left_of_execute hpatient hexecute
    cases answer with
    | error e | ok flow =>
      cases hnext
      exact hleft

end Session

/-- **Between two lines the scheduler is at rest.** -/
theorem Underway.atRest (hpatient : t.Patient fine slots) (hfirst : ∀ g, t.MetFirst g)
    {startup : Option EventCode} {scheduler : Scheduler t} (hfit : scheduler.Fit)
    {session : Session t} (h : Underway startup scheduler session) : session.scheduler.AtRest := by
  induction h with
  | begun hscript =>
    rw [Session.script, Scheduler.start_eq_self hpatient.init] at hscript
    obtain ⟨engine, hboot, rfl⟩ := Option.map_eq_some_iff.mp hscript
    obtain ⟨s, v, step, hrunning, -, hrun, hscheduler⟩ :=
      Engine.Driven.boot_cases (.auto hfit) hboot
    have hrested := (hrunning.atRest_of_runUntilIdle hpatient hfirst hrun).clearWake
    rwa [← hscheduler] at hrested
  | carriedOn hbefore hline ih =>
    have hidle := hbefore.idle hpatient hfit
    exact ih.of_left hpatient hfirst (hidle.left_of_executeLine hpatient hline)

end Script

namespace Builtin

open Script

/-- **Nothing is left pending.** A script drives one of the built-in
machines in automatic mode, with a queue of any size and any event to
start with. Before its first line and after every line that returned,
also one that failed, the group's queue is empty and the latch is clear;
and the status report shows a queue that is not full, the machine's own
wakeup as the scheduler's, and a time at which that has not come. -/
theorem nothing_left_pending (machine : Builtin) (config : Config) {slots : Nat} (hpos : 0 < slots)
    (hle : slots ≤ maxSlots) (startup : Option EventCode) :
    ∃ (t : Topology Unit) (scheduler : Scheduler t),
      machine.topology config slots = .ok t ∧ Scheduler.build t () = .ok scheduler ∧
        ∀ session, Underway startup scheduler session →
          session.scheduler.pending 0 = .ok [] ∧ session.scheduler.latch.woken = false ∧
            ∃ report, session.scheduler.status 0 0 = .ok report ∧
              report.pending = 0 ∧ report.queueFull = false ∧
              report.infiniteSleep = report.flags.infiniteSleep ∧
              report.wakeup = report.machineWakeup ∧
              ∀ w, report.wakeup = some w → w.after report.now = true := by
  obtain ⟨table, t, htable, htopology, halone⟩ := machine.exists_alone config hpos hle
  obtain ⟨scheduler, hbuild⟩ := halone.exists_build ()
  have hpatient := halone.patient hpos (patient_any htable config.timing) rfl
  have hfit := Scheduler.fit_of_build hbuild
  refine ⟨t, scheduler, htopology, hbuild, fun session hsession => ?_⟩
  have hidle := hsession.idle hpatient hfit
  have hrest := hsession.atRest hpatient halone.metFirst hfit
  obtain ⟨g, id, hgroup, hmember, -, -⟩ := halone.exists_member
  have hempty : (session.scheduler.queues.get g).toList = [] := hrest.empty g
  have hwakeup := hrest.scheduled_eq halone id
  refine ⟨?_, hidle.asleep, ?_⟩
  · unfold Scheduler.pending
    rw [hgroup]
    exact congrArg Except.ok hempty
  · unfold Scheduler.status
    rw [hgroup, hmember]
    refine ⟨_, rfl, ?_, ?_, ?_, hwakeup, fun w hw => hrest.after_now hw⟩
    · exact (EventQueue.length_toList _).symm.trans (congrArg List.length hempty)
    · refine Bool.eq_false_iff.mpr fun hfull => ?_
      rw [EventQueue.full_iff, hempty] at hfull
      exact absurd hfull.symm (Nat.ne_of_gt (EventQueue.capacity_pos _))
    · rw [← Scheduler.isNone_scheduled, hwakeup, Status.isNone_scheduled]

end Builtin

namespace Restless

open Script

/-- Event 1 after ten ticks, and then a line that cannot be read: the
machine is asleep until the next tick, and so is the scheduler. -/
theorem nothing_left_pending_tenTicks :
    0 < 1 ∧ 1 ≤ maxSlots ∧ ∃ (session : Session topology) (report : Report),
      Underway none scheduler session ∧ session.scheduler.pending 0 = .ok [] ∧
        session.scheduler.latch.woken = false ∧ session.scheduler.status 0 0 = .ok report ∧
        report.pending = 0 ∧ report.machineWakeup = some ⟨11, false⟩ ∧
        report.wakeup = some ⟨11, false⟩ ∧ (⟨11, false⟩ : Timestamp).after report.now = true := by
  have hparse : parse 1 "h,10" = .ok (some ⟨1, .heartbeat (some 10), none⟩) := rfl
  have hbegun : Underway none scheduler (waiting ⟨10, false⟩ journal) :=
    .carriedOn (.begun script_scheduler) (executeLine_heartbeat hparse 1 .zero journal)
  obtain ⟨next, hnext, hreport⟩ : ∃ next,
      (waiting ⟨10, false⟩ journal).executeLine 2 2 "q,1" = some (.continue, next) ∧
        next.scheduler.status 0 0 = .ok ⟨false, 0, false, 0, 0, .clear, 1, ⟨10, false⟩,
          some ⟨11, false⟩, some ⟨11, false⟩⟩ :=
    ⟨_, rfl, rfl⟩
  have hunderway : Underway none scheduler (next.complain 3 (.invalidCommand "x")) :=
    .carriedOn (.carriedOn hbegun hnext)
      (show next.executeLine 0 3 "x" = some (.continue, _) from rfl)
  obtain ⟨t, s, htopology, hbuild, hpending⟩ := Builtin.nothing_left_pending .endToEnd
    topology.config (show 0 < 1 by decide) (by decide) none
  cases topology_eq.symm.trans htopology
  cases hbuild
  obtain ⟨hempty, hasleep, report, hstatus, hnone, -, -, hwakeup, hlater⟩ := hpending _ hunderway
  cases hreport.symm.trans hstatus
  exact ⟨by decide, by decide, _, _, hunderway, hempty, hasleep, hstatus, hnone, rfl, hwakeup,
    hlater _ hwakeup⟩

end Restless

end TimedMachines
