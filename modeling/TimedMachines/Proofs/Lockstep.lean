import TimedMachines.Proofs.FreshStart
import TimedMachines.Proofs.Repose

/-!
# Automatic and manual scripts keep pace

A script in automatic mode lets its scheduler run after the lines that set
the latch. In manual mode it runs on the command `wakeup` instead, and a
`wakeup` after every line has it run more often: also after lines that are
in error, only print, or have disturbed nothing. Those passes must leave no
trace, and they do not. A pass over a scheduler at rest finds nothing to
hand out, comes to the consensus that was committed to before, and leaves
nothing but messages in the journal (`AtRest.pass`).

Nothing, that is, before the first wrap. If the clock has wrapped and no
machine has a wakeup then the pass changes the epoch, of which an automatic
scheduler takes no notice until it runs. So this module is about scripts
that do not set the clock back.

Both schedulers then go through the same, but for journals and latches:
they resemble each other, as a scheduler that was reset resembles a fresh
one (`Resembles`). A manual session **keeps pace** with an automatic one if
their schedulers do and all else is equal (`Session.Paces`), and with a
`wakeup` after each line it goes on to (`Paces.executeLine`).
-/

namespace TimedMachines

variable {μ : Type} {t : Topology μ}

/-- Modest handlers do not look at the memory. -/
theorem Act.Modest.overlooks {act : Act μ} (h : act.Modest) (alike : μ → μ → Prop) :
    act.Overlooks alike := by
  induction act with
  | done => trivial
  | delay _ _ ih | delayForever _ ih | veto _ ih | remark _ _ _ ih => exact ih h
  | override _ _ _ | readClock _ _ | post _ _ _ _ _ | ask _ _ _ | consult _ _ | amend _ _ _ =>
    exact h.elim

theorem Topology.Patient.forgetful {fine : Ticks → Prop} {slots : Nat}
    (h : t.Patient fine slots) : t.Forgetful := by
  rintro id handler (hinit | hhandles) view
  · exact nomatch (h.init id).symm.trans hinit
  · exact ((h.machine id).modest handler hhandles view).overlooks _

namespace Scheduler

theorem now_of_build {memory : μ} {s : Scheduler t} (h : build t memory = .ok s) :
    s.now = .zero := by
  obtain ⟨-, rfl⟩ := eq_of_build h
  rfl

/-! ## Idle passes -/

/-- A latch that is clear stays as it is when it is cleared. -/
theorem clearWake_eq_self {s : Scheduler t} (h : s.latch.woken = false) : s.clearWake = s := by
  obtain ⟨flags, wakeup, now, statuses, queues, ⟨woken⟩, memory, journal⟩ := s
  obtain rfl : woken = false := h
  rfl

theorem rebased_zero : Timestamp.zero.rebased = .zero :=
  Timestamp.rebased_eq_self _ rfl

/-- Without an event a group's turn only leaves messages. -/
theorem visitGroup_of_empty (wakesSleepers : Bool) {acc : Consensus × Scheduler t}
    {g : Fin t.groupCount} (h : acc.2.waiting g = []) :
    ∃ journal, (visitGroup wakesSleepers acc g).2 = { acc.2 with journal := journal } := by
  have hmembers (s : Scheduler t) :
      ((t.placed g).foldl (visitMember wakesSleepers none) (.idle, s)).2 = s :=
    List.foldlRecOn (motive := fun own : Consensus × Scheduler t => own.2 = s) _ _ rfl
      fun _ hown _ _ => hown
  obtain ⟨event, rest, hpop, -⟩ | ⟨-, hturn⟩ := visitGroup_cases wakesSleepers acc g
  · exact nomatch hpop.symm.trans ((EventQueue.pop_eq_none_iff _).mpr h)
  · rw [hturn, hmembers]
    exact ⟨_, rfl⟩

/-- **Without events all turns only leave messages.** -/
theorem visitAll_of_empty {s : Scheduler t} (h : ∀ g, s.waiting g = []) :
    ∃ journal, s.visitAll.2 = { s with journal := journal } := by
  refine List.foldlRecOn
    (motive := fun acc : Consensus × Scheduler t =>
      ∃ journal, acc.2 = { s with journal := journal })
    _ _ ⟨s.journal, rfl⟩ fun acc ⟨journal, hacc⟩ g _ => ?_
  obtain ⟨later, hlater⟩ := visitGroup_of_empty s.flags.timeoutWakesSleepers
    (show acc.2.waiting g = [] from hacc ▸ h g)
  rw [hacc] at hlater
  exact ⟨later, hlater⟩

/-- **A scheduler at rest comes to the same consensus** as before. -/
theorem AtRest.earliest_visitAll (hcalm : t.Calm) (hfirst : ∀ g, t.MetFirst g) {s : Scheduler t}
    (h : s.AtRest) : s.inPass.visitAll.1.earliest = s.scheduled := by
  obtain ⟨journal, hvisited⟩ := visitAll_of_empty (s := s.inPass) h.empty
  have hattained := (attained_visitAll (s := s.inPass) hcalm fun g _ => hfirst g).resolve_left
    (by rw [hvisited]; exact Bool.false_ne_true)
  have hcovers {id : Fin t.machineCount} (hid : t.Hosts id) := covers_visitAll hcalm s.inPass hid
  rw [hvisited] at hattained hcovers
  have hscheduled {w : Timestamp} (hw : s.scheduled = some w) :
      ∃ e, s.inPass.visitAll.1.earliest = some e ∧ e.value ≤ w.value := by
    obtain ⟨id, hid, hstatus⟩ := h.attained w hw
    exact hcovers hid w hstatus
  cases hearliest : s.inPass.visitAll.1.earliest with
  | none =>
    refine (Option.eq_none_iff_forall_ne_some.mpr fun w hw => ?_).symm
    obtain ⟨e, he, -⟩ := hscheduled hw
    exact nomatch hearliest.symm.trans he
  | some e =>
    obtain ⟨id, hmember, hstatus⟩ := hattained e hearliest
    obtain ⟨g, -, hid⟩ := List.mem_flatMap.mp hmember
    obtain ⟨hcommitted, hle, -⟩ := h.guarded id ⟨g, hid⟩ e hstatus
    have hs : s.scheduled = some s.wakeup := by
      unfold scheduled
      rw [hcommitted]
      rfl
    obtain ⟨e', he', hle'⟩ := hscheduled hs
    obtain rfl := Option.some.inj (hearliest.symm.trans he')
    rw [hs, Timestamp.value_inj.mp (Nat.le_antisymm hle' hle)]

/-- **Committing again changes nothing** before the wrap. -/
theorem AtRest.settle_eq {s : Scheduler t} (h : s.AtRest) (hnow : s.now.overflow = false)
    {consensus : Consensus} (hconsensus : consensus.earliest = s.scheduled) (journal : Journal) :
    { s.inPass with journal := journal }.settle consensus = { s with journal := journal } := by
  have hunannounced := h.unannounced
  have hstarted := h.started
  have hrebased := h.rebased
  clear h
  obtain ⟨⟨infinite, queued, wakes, exit⟩, wakeup, now, statuses, queues, latch, memory, was⟩ := s
  obtain ⟨earliest⟩ := consensus
  subst hunannounced hstarted hconsensus
  replace hnow : now.overflow = false := hnow
  cases infinite with
  | true =>
    obtain ⟨rfl, hstatuses⟩ := hrebased rfl
    have hstays := Timestamp.rebased_eq_self now hnow
    have hmap : statuses.map Status.rebased = statuses :=
      Vector.ext fun i hi => (Vector.getElem_map ..).trans (hstatuses ⟨i, hi⟩)
    simp only [settle, schedule, epochOver, endStartup, rebase, inPass, scheduled, hstays, hmap,
      Consensus.isInfiniteSleep, Option.isNone_none, Bool.true_or, if_true, Option.getD_none,
      rebased_zero]
  | false =>
    simp only [settle, schedule, epochOver, endStartup, inPass, scheduled, hnow,
      Consensus.isInfiniteSleep, Option.isNone_some, Bool.false_or, Bool.false_and,
      Bool.false_eq_true, if_false, Option.getD_some]

/-- **A pass over a scheduler at rest changes nothing** before the wrap, and
only leaves messages. -/
theorem AtRest.pass (hcalm : t.Calm) (hfirst : ∀ g, t.MetFirst g) {s : Scheduler t}
    (h : s.AtRest) (hexit : s.flags.exitRequested = false) (hnow : s.now.overflow = false) :
    ∃ wakeup journal, s.pass = (.sleep wakeup, { s with journal := journal }) := by
  have hearliest := h.earliest_visitAll hcalm hfirst
  obtain ⟨journal, hjournal⟩ := visitAll_of_empty (s := s.inPass) h.empty
  obtain ⟨hrequested, -⟩ | ⟨consensus, visited, -, hvisit, hcases⟩ := s.pass_cases
  · exact absurd (hexit.symm.trans hrequested) Bool.false_ne_true
  · rw [hvisit] at hearliest hjournal
    obtain rfl : visited = { s.inPass with journal := journal } := hjournal
    obtain ⟨hqueued, -⟩ | ⟨-, hdue, -⟩ | ⟨-, -, hpass⟩ := hcases
    · exact absurd hqueued Bool.false_ne_true
    · unfold isDue at hdue
      rw [hearliest] at hdue
      split at hdue
      · next w hw =>
        have hlater := h.after_now hw
        rw [Timestamp.after_eq_not_atOrAfter, Bool.not_eq_true'] at hlater
        exact absurd (hlater.symm.trans hdue) Bool.false_ne_true
      · cases hdue
    · rw [h.settle_eq hnow hearliest] at hpass
      exact ⟨_, _, hpass⟩

/-- **A run over a scheduler at rest** takes one pass. -/
theorem AtRest.runUntilIdle (hcalm : t.Calm) (hfirst : ∀ g, t.MetFirst g) {s : Scheduler t}
    (h : s.AtRest) (hexit : s.flags.exitRequested = false) (hnow : s.now.overflow = false)
    {bound : Nat} (hbound : 0 < bound) :
    ∃ wakeup journal,
      s.runUntilIdle bound = some (.sleep wakeup, { s with journal := journal }) := by
  obtain ⟨wakeup, journal, hpass⟩ := h.pass hcalm hfirst hexit hnow
  obtain ⟨bound, rfl⟩ := Nat.exists_eq_add_one_of_ne_zero (Nat.ne_of_gt hbound)
  refine ⟨wakeup, journal, ?_⟩
  rw [Scheduler.runUntilIdle, hpass]

/-! ## The clock in a run -/

/-- Handlers that ask for nothing leave the clock alone. -/
theorem keeps_now (now : Timestamp) (start : Scheduler t → Scheduler t) :
    (world start).Keeps (fun _ => False) fun s => s.now = now where
  now _ h := h
  post := (standing_now now).post
  ask _ _ hnone _ := hnone.elim
  amend _ _ h := h
  report _ _ h := h

/-- Before the wrap the epoch does not change the clock. -/
theorem now_settle (consensus : Consensus) {s : Scheduler t} (h : s.now.overflow = false) :
    (s.settle consensus).now = s.now := by
  unfold settle
  dsimp only
  split
  · exact Timestamp.rebased_eq_self s.now h
  · rfl

section Clock

variable {fine : Ticks → Prop}
  (hmachines : ∀ id, (t.machines.get id).Patient fine t.config.timing)

include hmachines

/-- **The clock stands still in all turns** of patient machines. -/
theorem now_visitAll (s : Scheduler t) : s.visitAll.2.now = s.now := by
  refine List.foldlRecOn (motive := fun acc : Consensus × Scheduler t => acc.2.now = s.now) _ _ rfl
    fun acc hacc g _ => ?_
  have hmembers (event : Option Event) (u : Scheduler t) (hu : u.now = s.now) :
      ((t.placed g).foldl (visitMember s.flags.timeoutWakesSleepers event) (.idle, u)).2.now =
        s.now := by
    refine List.foldlRecOn (motive := fun own : Consensus × Scheduler t => own.2.now = s.now)
      _ _ hu fun own hown member _ => ?_
    cases event with
    | none => exact hown
    | some event =>
      exact Machine.deliver_keeps (keeps_now s.now start) (fun _ _ h => h)
        (fun handler hhandles view => ((hmachines member.2).modest handler hhandles view).asks _)
        _ _ _ _ _ hown
  obtain ⟨event, rest, -, hturn⟩ | ⟨-, hturn⟩ := visitGroup_cases s.flags.timeoutWakesSleepers acc g
  · rw [hturn]
    split <;> exact hmembers _ _ hacc
  · rw [hturn]
    exact hmembers _ _ hacc

/-- **The clock stands still in a pass** before the wrap. -/
theorem now_pass {s : Scheduler t} (h : s.now.overflow = false) : s.pass.2.now = s.now := by
  have hnow := now_visitAll hmachines s.inPass
  obtain ⟨-, hpass⟩ | ⟨consensus, visited, -, hvisit, hcases⟩ := s.pass_cases
  · rw [hpass]
    rfl
  · rw [hvisit] at hnow
    replace hnow : visited.now = s.now := hnow
    obtain ⟨-, hpass⟩ | ⟨-, -, hpass⟩ | ⟨-, -, hpass⟩ := hcases
    · rw [hpass]
      exact hnow
    · rw [hpass]
      exact (now_broadcast ..).trans hnow
    · rw [hpass]
      exact (now_settle consensus (hnow ▸ h)).trans hnow

/-- So it does in a run. -/
theorem now_runUntilIdle {bound : Nat} {s v : Scheduler t} {step : Step}
    (h : s.now.overflow = false) (hrun : s.runUntilIdle bound = some (step, v)) :
    v.now = s.now := by
  induction bound generalizing s with
  | zero => cases hrun
  | succ bound ih =>
    have hnow := now_pass hmachines h
    rw [Scheduler.runUntilIdle] at hrun
    split at hrun
    · next u hpass =>
      rw [hpass] at hnow
      exact (ih (hnow ▸ h) hrun).trans hnow
    · next hpass =>
      cases hrun
      rw [hpass] at hnow
      exact hnow

/-- **A line that sets the clock to a time before the wrap** leaves it
there. -/
theorem Left.now_eq {before after : Scheduler t} {now : Timestamp} (hleft : Left before now after)
    (h : now.overflow = false) : after.now = now := by
  cases hleft with
  | spared | noted _ | prompted _ _ _ => rfl
  | ran _ hnow hrun => exact (now_runUntilIdle hmachines (hnow ▸ h) hrun).trans hnow

end Clock

/-! ## Schedulers that keep pace -/

/-- **Runs of schedulers that resemble each other** end alike, if they
do. -/
theorem Resembles.runUntilIdle (hforgetful : t.Forgetful) {past : Pasts} {s u : Scheduler t}
    (h : Resembles past s u) (bound : Nat) :
    Option.Rel (Beside past) (s.runUntilIdle bound) (u.runUntilIdle bound) :=
  runUntilIdle_rel (fun _ _ h => h.pass hforgetful) h bound

/-- **A scheduler keeps pace with another**: it resembles it, whatever they
went through. -/
def Paces (s u : Scheduler t) : Prop :=
  ∃ past, Resembles past s u

namespace Paces

variable {s u : Scheduler t}

theorem refl (s : Scheduler t) : s.Paces s :=
  ⟨⟨s.journal, s.journal, True⟩, rfl, rfl, rfl, rfl, fun _ => rfl, id, fun _ => rfl,
    #[], by simp, by simp⟩

/-- What the second has reported does not matter. -/
theorem forget {journal : Journal} (h : s.Paces { u with journal := journal }) : s.Paces u := by
  obtain ⟨past, h⟩ := h
  exact ⟨⟨s.journal, u.journal, past.settled⟩, h.flags, h.wakeup, h.now, h.statuses, h.contents,
    h.latch, h.settled, #[], by simp, by simp⟩

theorem note (h : s.Paces u) (n : Note) : (s.note n).Paces (u.note n) :=
  h.imp fun _ h => h.report (.note n)

/-- The second may sleep where the first does not. -/
theorem clearOther (h : s.Paces u) : s.Paces u.clearWake := by
  obtain ⟨past, h⟩ := h
  exact ⟨{ past with settled := False }, h.flags, h.wakeup, h.now, h.statuses, h.contents, nofun,
    False.elim, h.journal⟩

theorem clearWake (h : s.Paces u) : s.clearWake.Paces u.clearWake :=
  let ⟨_, h⟩ := h
  ⟨_, h.clearWake⟩

theorem perform (hforgetful : t.Forgetful) (h : s.Paces u) (operation : Operation) :
    (s.perform operation).Paces (u.perform operation) :=
  h.imp fun _ h => h.perform hforgetful operation

theorem runUntilIdle (hforgetful : t.Forgetful) (h : s.Paces u) (bound : Nat) :
    Option.Rel (fun outcome outcome' => outcome.2.Paces outcome'.2)
      (s.runUntilIdle bound) (u.runUntilIdle bound) := by
  obtain ⟨past, h⟩ := h
  exact (h.runUntilIdle hforgetful bound).mono fun _ _ hbeside => ⟨past, hbeside.2⟩

theorem status (hforgetful : t.Forgetful) (h : s.Paces u) (group position : UInt8) :
    s.status group position = u.status group position :=
  let ⟨_, h⟩ := h
  (h.lookAlike hforgetful).report group position

end Paces

end Scheduler

namespace Script

variable {fine : Ticks → Prop} {slots bound : Nat}

/-- **What lines need to find** for automatic and manual mode to agree: the
machines are patient, are met in their groups first, and do not look at the
memory. -/
structure Steerable (fine : Ticks → Prop) (slots : Nat) (t : Topology μ) : Prop where
  patient : t.Patient fine slots
  first : ∀ g, t.MetFirst g
  forgetful : t.Forgetful

namespace Session

/-! ## What does not concern the engine -/

/-- An expectation is compared with what was written, whatever the
engine. -/
theorem exists_check (line : Line) (startup : Option EventCode) (output lastOutput : String)
    (failures : Nat) :
    ∃ output' failures', ∀ engine : Engine t,
      check line ⟨engine, startup, output, lastOutput, failures⟩ =
        ⟨engine, startup, output', lastOutput, failures'⟩ := by
  unfold check produced
  cases line.expected with
  | none => exact ⟨_, _, fun _ => rfl⟩
  | some expected =>
    by_cases hmet : expected = String.ofList (Text.trim lastOutput.toList)
    · simp only [if_pos hmet]
      exact ⟨_, _, fun _ => rfl⟩
    · simp only [if_neg hmet, write]
      exact ⟨_, _, fun _ => rfl⟩

theorem drive_check (f : Engine t → Option (Engine t)) (line : Line) (session : Session t) :
    (session.check line).drive f = (session.drive f).map (check line) := by
  obtain ⟨engine, startup, output, lastOutput, failures⟩ := session
  obtain ⟨output', failures', hcheck⟩ := exists_check line startup output lastOutput failures
  rw [hcheck]
  unfold drive
  rw [Option.map_map]
  exact congrArg (Option.map · (f engine)) (funext fun later => (hcheck later).symm)

/-! ## Automatic sessions at rest -/

/-- **An automatic session at rest** before the wrap. -/
structure Resting (session : Session t) : Prop where
  idle : session.Idle
  rest : session.scheduler.AtRest
  early : session.scheduler.now.overflow = false

/-- **An automatic session that is to settle**: it rests, or its scheduler
is awake. -/
structure Settling (session : Session t) : Prop where
  driven : session.Driven
  resting : session.scheduler.latch.woken = true ∨ session.Resting

theorem Resting.settling {session : Session t} (h : session.Resting) : session.Settling :=
  ⟨h.idle.driven, .inr h⟩

theorem Resting.settle_eq {session : Session t} (h : session.Resting) (bound : Nat) :
    session.settle bound = some session := by
  obtain ⟨engine, startup, output, lastOutput, failures⟩ := session
  obtain ⟨⟨@⟨s, -⟩, hasleep⟩, -, -⟩ := h
  replace hasleep : s.latch.woken = false := hasleep
  unfold Session.settle Session.drive Engine.settle
  dsimp only
  rw [if_neg (ne_true_of_eq_false hasleep)]
  rfl

/-- **Who disturbs its rest leaves it to settle.** -/
theorem Resting.perform {session : Session t} (h : session.Resting) (operation : Operation)
    (hproducer : operation.isProducers = true) (hexit : operation ≠ .requestExit)
    (hnow : (session.scheduler.perform operation).now.overflow = false) :
    (session.update (·.perform operation)).Settling := by
  have hdriven := h.idle.driven.update (f := (·.perform operation))
    (h.idle.driven.fit.perform operation hproducer hexit)
  refine ⟨hdriven, ?_⟩
  rw [scheduler_update]
  by_cases hwoken : (session.scheduler.perform operation).latch.woken = true
  · exact .inl hwoken
  · refine .inr ⟨⟨hdriven, ?_⟩, ?_, ?_⟩
    · have hasleep := Bool.eq_false_iff.mpr hwoken
      rwa [← scheduler_update (·.perform operation)] at hasleep
    · exact (scheduler_update _ session).symm ▸ (h.rest.perform hproducer).resolve_left hwoken
    · exact (scheduler_update _ session).symm ▸ hnow

/-- Queuing leaves it to settle, and at rest if it was an error. -/
theorem Resting.queue {session : Session t} (h : session.Resting) (everywhere forceNew : Bool)
    (event : Event) (group : UInt8) :
    (session.queue everywhere forceNew event group).2.Settling ∧
      ∀ e, (session.queue everywhere forceNew event group).1 = .error e →
        (session.queue everywhere forceNew event group).2.Resting := by
  unfold Session.queue
  split
  · refine ⟨h.perform (.broadcast forceNew event) rfl nofun ?_, nofun⟩
    exact (congrArg Timestamp.overflow (Scheduler.now_broadcast ..)).trans h.early
  · split
    · refine ⟨h.perform (.post group forceNew event) rfl nofun ?_, nofun⟩
      exact (congrArg Timestamp.overflow (Scheduler.post_leaves ..).1).trans h.early
    · exact ⟨h.settling, fun _ _ => h⟩

/-- So do heartbeats before the wrap. -/
theorem Resting.heartbeat {session : Session t} (h : session.Resting) (time : Option Ticks)
    (hearly : (session.clockAfter (.heartbeat time)).overflow = false) :
    (session.heartbeat time).Settling := by
  unfold clockAfter at hearly
  unfold Session.heartbeat
  cases time with
  | some ticks =>
    exact h.perform (.advance ticks) rfl nofun
      ((congrArg Timestamp.overflow (Scheduler.now_advance ..)).trans hearly)
  | none =>
    exact h.perform .heartbeat rfl nofun
      ((congrArg Timestamp.overflow (Scheduler.now_advance ..)).trans hearly)

/-- A status report is only written. -/
theorem Resting.status {session : Session t} (h : session.Resting) (group position : UInt8) :
    (session.status group position).2.Resting := by
  unfold Session.status
  split
  · exact ⟨h.idle, h.rest, h.early⟩
  · exact h

theorem Resting.remark {session : Session t} (h : session.Resting) (severity : Severity)
    (message : String) : (session.remark severity message).Resting where
  idle := h.idle.remark severity message
  rest := (scheduler_update _ session).symm ▸ h.rest.note (.remark severity message)
  early := (congrArg (·.now.overflow) (scheduler_update _ session)).trans h.early

/-- **A line leaves it at rest**, unless it sets the clock to a time past
the wrap. -/
theorem Resting.executeLine (hsteerable : Steerable fine slots t) {session next : Session t}
    (h : session.Resting) {lineNumber : Nat} {raw : String} {flow : Flow}
    (hline : session.executeLine bound lineNumber raw = some (flow, next))
    (hearly : (session.clockAfterLine lineNumber raw).overflow = false) :
    next.Resting ∧ next.scheduler.now = session.clockAfterLine lineNumber raw := by
  have hleft := h.idle.left_of_executeLine hsteerable.patient hline
  have hnow := hleft.now_eq hsteerable.patient.machine hearly
  refine ⟨⟨?_, h.rest.of_left hsteerable.patient hsteerable.first hleft, hnow ▸ hearly⟩, hnow⟩
  exact (h.idle.executeLine hsteerable.patient bound lineNumber raw False.elim).good _ hline

/-- **A start ends at rest**, at a time before the wrap. -/
theorem Driven.resting_boot (hsteerable : Steerable fine slots t) {session next : Session t}
    (h : session.Driven) (hearly : session.scheduler.now.overflow = false)
    (hboot : session.boot bound = some next) :
    next.Resting ∧ next.scheduler.now = session.scheduler.now := by
  have hidle := (h.boot hsteerable.patient (show False → _ from False.elim)).good _ hboot
  obtain ⟨engine, hengine, rfl⟩ := Option.map_eq_some_iff.mp hboot
  obtain ⟨s, v, step, hfit, hbegin, hrun, hscheduler⟩ := Engine.Driven.boot_cases h hengine
  have hrest := (hfit.atRest_of_runUntilIdle hsteerable.patient hsteerable.first hrun).clearWake
  have hnow : engine.scheduler.now = session.scheduler.now := by
    rw [hscheduler]
    refine (Scheduler.now_runUntilIdle hsteerable.patient.machine ?_ hrun).trans hbegin
    rw [hbegin]
    exact hearly
  rw [← hscheduler] at hrest
  exact ⟨⟨hidle, hrest, hnow ▸ hearly⟩, hnow⟩

/-- So does a reset. -/
theorem Resting.reset (hsteerable : Steerable fine slots t) {session next : Session t}
    (h : session.Resting) (hreset : session.reset bound = some next) : next.Resting := by
  have hremark : (session.remark .debug "Reseting...").Driven :=
    (h.idle.remark .debug "Reseting...").driven
  obtain ⟨hfresh, hzero⟩ := hremark.fit.reset hsteerable.patient.init
  refine (Driven.resting_boot hsteerable (hremark.update hfresh) ?_ hreset).1
  rw [scheduler_update, hzero]
  rfl

/-! ## Sessions that keep pace -/

/-- **A manual session keeps pace with an automatic one**: its scheduler
does, and all else is equal. -/
inductive Paces : Session t → Session t → Prop where
  | intro {u s : Scheduler t} (h : u.Paces s) (startup : Option EventCode)
    (output lastOutput : String) (failures : Nat) :
    Paces ⟨.script .manual u, startup, output, lastOutput, failures⟩
      ⟨.script .auto s, startup, output, lastOutput, failures⟩

namespace Paces

variable {manual automatic : Session t}

theorem update (h : Paces manual automatic) {f : Scheduler t → Scheduler t}
    (hf : ∀ u s : Scheduler t, u.Paces s → (f u).Paces (f s)) :
    Paces (manual.update f) (automatic.update f) := by
  obtain ⟨h, startup, output, lastOutput, failures⟩ := h
  exact .intro (hf _ _ h) startup output lastOutput failures

theorem remark (h : Paces manual automatic) (severity : Severity) (message : String) :
    Paces (manual.remark severity message) (automatic.remark severity message) :=
  h.update fun _ _ h => h.note _

theorem write (h : Paces manual automatic) (text : String) :
    Paces (manual.write text) (automatic.write text) := by
  obtain ⟨h, startup, output, lastOutput, failures⟩ := h
  exact .intro h startup _ lastOutput failures

theorem emit (h : Paces manual automatic) (text : String) :
    Paces (manual.emit text) (automatic.emit text) := by
  obtain ⟨h, startup, output, lastOutput, failures⟩ := h
  exact .intro h startup _ text failures

theorem check (h : Paces manual automatic) (line : Line) :
    Paces (manual.check line) (automatic.check line) := by
  obtain ⟨h, startup, output, lastOutput, failures⟩ := h
  obtain ⟨output', failures', hcheck⟩ := exists_check line startup output lastOutput failures
  rw [hcheck, hcheck]
  exact .intro h startup output' lastOutput failures'

theorem queue (hforgetful : t.Forgetful) (h : Paces manual automatic) (everywhere forceNew : Bool)
    (event : Event) (group : UInt8) :
    (manual.queue everywhere forceNew event group).1 =
        (automatic.queue everywhere forceNew event group).1 ∧
      Paces (manual.queue everywhere forceNew event group).2
        (automatic.queue everywhere forceNew event group).2 := by
  unfold Session.queue
  split
  · exact ⟨rfl, h.update fun _ _ h => h.perform hforgetful (.broadcast forceNew event)⟩
  · split
    · exact ⟨rfl, h.update fun _ _ h => h.perform hforgetful (.post group forceNew event)⟩
    · exact ⟨rfl, h⟩

theorem heartbeat (hforgetful : t.Forgetful) (h : Paces manual automatic) (time : Option Ticks) :
    Paces (manual.heartbeat time) (automatic.heartbeat time) := by
  unfold Session.heartbeat
  cases time with
  | some ticks => exact h.update fun _ _ h => h.perform hforgetful (.advance ticks)
  | none => exact h.update fun _ _ h => h.perform hforgetful .heartbeat

theorem status (hforgetful : t.Forgetful) (h : Paces manual automatic) (group position : UInt8) :
    (manual.status group position).1 = (automatic.status group position).1 ∧
      Paces (manual.status group position).2 (automatic.status group position).2 := by
  have hreport : manual.scheduler.status group position =
      automatic.scheduler.status group position := by
    obtain ⟨h⟩ := h
    exact h.status hforgetful group position
  unfold Session.status
  rw [hreport]
  split
  · exact ⟨rfl, h.emit _⟩
  · exact ⟨rfl, h⟩

theorem boot (hforgetful : t.Forgetful) (h : Paces manual automatic) (bound : Nat) :
    Option.Rel Paces (manual.boot bound) (automatic.boot bound) := by
  obtain @⟨u, s, h, startup, output, lastOutput, failures⟩ := h
  have hqueued : ((startupEvents startup).foldl (fun s event => s.broadcast false event) u).Paces
      ((startupEvents startup).foldl (fun s event => s.broadcast false event) s) :=
    List.foldl_rel h fun event _ _ _ h => h.perform hforgetful (.broadcast false event)
  have hboot (mode : WakeMode) (s : Scheduler t) :
      Session.boot bound ⟨.script mode s, startup, output, lastOutput, failures⟩ =
        (((startupEvents startup).foldl (fun s event => s.broadcast false event) s).runUntilIdle
          bound).map fun outcome => ⟨.script mode outcome.2.clearWake, startup, output, lastOutput,
            failures⟩ :=
    Option.map_map ..
  rw [hboot, hboot]
  exact (hqueued.runUntilIdle hforgetful bound).map fun _ _ h =>
    .intro h.clearWake startup output lastOutput failures

theorem reset (hforgetful : t.Forgetful) (h : Paces manual automatic) (bound : Nat) :
    Option.Rel Paces (manual.reset bound) (automatic.reset bound) :=
  ((h.remark _ _).update fun _ _ h => h.perform hforgetful .reset).boot hforgetful bound

end Paces

/-! ## A `wakeup` after each line -/

/-- **Another line that says `wakeup`**, with the number of the one before,
whose outcome stays beside it. -/
def thenWakeup {α : Type} (bound lineNumber : Nat) (after : α × Session t) :
    Option (α × Session t) :=
  (after.2.executeLine bound lineNumber "wakeup").map fun later => (after.1, later.2)

/-- What comes of a line: it may have failed, and is complained about. -/
def judge (lineNumber : Nat) : Except ScriptError Flow × Session t → Flow × Session t
  | (.error e, session) => (.continue, session.complain lineNumber e)
  | (.ok flow, session) => (flow, session)

section Reading

variable {lineNumber : Nat} {raw : String}

theorem executeLine_of_error {e : ScriptError} (h : parse lineNumber raw = .error e)
    (session : Session t) :
    session.executeLine bound lineNumber raw = some (.continue, session.complain lineNumber e) := by
  unfold executeLine
  rw [h]

theorem executeLine_of_none (h : parse lineNumber raw = .ok none) (session : Session t) :
    session.executeLine bound lineNumber raw = some (.continue, session) := by
  unfold executeLine
  rw [h]

theorem executeLine_of_some {line : Line} (h : parse lineNumber raw = .ok (some line))
    (session : Session t) :
    session.executeLine bound lineNumber raw =
      (session.execute bound line).map (judge lineNumber) := by
  unfold executeLine
  rw [h]
  rfl

end Reading

/-- **A session in manual mode.** -/
def IsManual (session : Session t) : Prop :=
  ∃ s, session.engine = .script .manual s

/-- It does what `wakeup` says. -/
theorem IsManual.thenWakeup_eq {α : Type} {after : α × Session t} (h : after.2.IsManual)
    (bound lineNumber : Nat) :
    thenWakeup bound lineNumber after =
      (after.2.drive (Engine.wakeup bound)).map (after.1, ·) := by
  obtain ⟨a, engine, startup, output, lastOutput, failures⟩ := after
  obtain ⟨s, rfl⟩ := h
  have hparse : parse lineNumber "wakeup" = .ok (some ⟨lineNumber, .wakeup, none⟩) := rfl
  unfold thenWakeup Session.executeLine drive
  rw [hparse]
  dsimp only [Session.execute, Engine.wakeup]
  unfold Session.wakeup drive
  rw [if_neg (show ¬ (Engine.script .manual s).isAutomatic = true from Bool.false_ne_true)]
  dsimp only [Engine.wakeup]
  cases s.clearWake.runUntilIdle bound with
  | none | some _ => rfl

theorem IsManual.write {session : Session t} (h : session.IsManual) (text : String) :
    (session.write text).IsManual :=
  h

theorem IsManual.check {session : Session t} (h : session.IsManual) (line : Line) :
    (session.check line).IsManual := by
  unfold IsManual
  rwa [engine_check]

theorem Paces.isManual {manual automatic : Session t} (h : Paces manual automatic) :
    manual.IsManual := by
  obtain ⟨-⟩ := h
  exact ⟨_, rfl⟩

/-- Equal values beside sessions that keep pace. -/
def Abreast {α : Type} (after after' : α × Session t) : Prop :=
  after.1 = after'.1 ∧ Paces after.2 after'.2

namespace Paces

variable {manual automatic : Session t} (hsteerable : Steerable fine slots t) (hbound : 0 < bound)

include hsteerable hbound

/-- **While the automatic session settles, the manual one is woken.** That
changes nothing if the automatic one rests. -/
theorem settle (h : Paces manual automatic) (hsettling : automatic.Settling) :
    Option.Rel Paces (manual.drive (Engine.wakeup bound)) (automatic.settle bound) := by
  obtain @⟨u, s, h, startup, output, lastOutput, failures⟩ := h
  have hruns := h.clearWake.runUntilIdle hsteerable.forgetful bound
  have hmanual : Session.drive (Engine.wakeup bound)
      ⟨.script .manual u, startup, output, lastOutput, failures⟩ =
        (u.clearWake.runUntilIdle bound).map fun outcome =>
          ⟨.script .manual outcome.2, startup, output, lastOutput, failures⟩ := Option.map_map ..
  rw [hmanual]
  obtain hwoken | hresting := hsettling.resting
  · have hautomatic : Session.settle bound
        ⟨.script .auto s, startup, output, lastOutput, failures⟩ =
          (s.clearWake.runUntilIdle bound).map fun outcome =>
            ⟨.script .auto outcome.2.clearWake, startup, output, lastOutput, failures⟩ := by
      unfold Session.settle Session.drive Engine.settle Engine.runAwake
      dsimp only
      rw [if_pos (show s.latch.woken = true from hwoken), Option.map_map, Option.map_map]
      rfl
    rw [hautomatic]
    exact hruns.map fun _ _ h => .intro h.clearOther startup output lastOutput failures
  · have hrest : s.AtRest := hresting.rest
    obtain ⟨wakeup, journal, hrun⟩ := hrest.runUntilIdle hsteerable.patient.calm
      hsteerable.first hresting.idle.driven.fit.exit hresting.early hbound
    rw [Scheduler.clearWake_eq_self (show s.latch.woken = false from hresting.idle.asleep),
      hrun] at hruns
    rw [hresting.settle_eq]
    generalize u.clearWake.runUntilIdle bound = outcome at hruns ⊢
    cases hruns with
    | some h => exact .some (.intro h.forget startup output lastOutput failures)

/-- **Nothing happens to an automatic session at rest** when the manual one
is woken. -/
theorem thenWakeup (h : Paces manual automatic) (hresting : automatic.Resting) {α : Type} (a : α)
    (lineNumber : Nat) :
    Option.Rel Abreast (thenWakeup bound lineNumber (a, manual)) (some (a, automatic)) := by
  have hsettled := h.settle hsteerable hbound hresting.settling
  rw [hresting.settle_eq] at hsettled
  rw [IsManual.thenWakeup_eq h.isManual]
  exact hsettled.map fun _ _ h => ⟨rfl, h⟩

/-- **What follows a command**, in automatic mode and with a `wakeup`
afterwards. -/
theorem conclude {after after' : Except ScriptError Unit × Session t} (h : Abreast after after')
    (hsettling : after'.2.Settling) (hresting : ∀ e, after'.1 = .error e → after'.2.Resting)
    (line : Line) (lineNumber : Nat) :
    Option.Rel Abreast
      (((Session.conclude bound line after).map (judge lineNumber)).bind
        (Session.thenWakeup bound lineNumber))
      ((Session.conclude bound line after').map (judge lineNumber)) := by
  obtain ⟨answer, manual⟩ := after
  obtain ⟨_, automatic⟩ := after'
  obtain ⟨rfl, h⟩ := h
  cases answer with
  | error e =>
    have hcomplained := hresting e rfl
    exact (h.write _).thenWakeup hsteerable hbound
      ⟨hcomplained.idle, hcomplained.rest, hcomplained.early⟩ _ lineNumber
  | ok =>
    have hmanual : (Session.conclude bound line (.ok (), manual)).map (judge lineNumber) =
        some (.continue, manual.check line) := by
      obtain ⟨-⟩ := h
      rfl
    have hautomatic : (Session.conclude bound line (.ok (), automatic)).map (judge lineNumber) =
        (automatic.settle bound).map fun s => (.continue, s.check line) := Option.map_map ..
    rw [hmanual, hautomatic, Option.bind_some, IsManual.thenWakeup_eq (h.isManual.check line),
      drive_check, Option.map_map]
    exact (h.settle hsteerable hbound hsettling).map fun _ _ h => ⟨rfl, h.check line⟩

/-- **A command** in automatic mode, and in manual mode with a `wakeup`
afterwards. -/
theorem execute (h : Paces manual automatic) (hresting : automatic.Resting) {line : Line}
    (hwakeup : line.command ≠ .wakeup)
    (hearly : (automatic.clockAfter line.command).overflow = false) (lineNumber : Nat) :
    Option.Rel Abreast
      (((manual.execute bound line).map (judge lineNumber)).bind
        (Session.thenWakeup bound lineNumber))
      ((automatic.execute bound line).map (judge lineNumber)) := by
  unfold Session.execute
  generalize line.command = command at hwakeup hearly
  cases command with
  | exit => exact h.thenWakeup hsteerable hbound hresting _ lineNumber
  | delay ms =>
    exact (h.remark _ _).thenWakeup hsteerable hbound (hresting.remark _ _) _ lineNumber
  | print text =>
    exact (h.emit text).thenWakeup hsteerable hbound
      ⟨hresting.idle, hresting.rest, hresting.early⟩ _ lineNumber
  | wakeup => exact absurd rfl hwakeup
  | queue everywhere forceNew code data group =>
    obtain ⟨hsettling, herror⟩ := hresting.queue everywhere forceNew ⟨code, data⟩ group
    exact conclude hsteerable hbound
      (h.queue hsteerable.forgetful everywhere forceNew ⟨code, data⟩ group) hsettling herror line
      lineNumber
  | heartbeat time =>
    have habreast : Abreast (Except.ok (ε := ScriptError) (), manual.heartbeat time)
        (.ok (), automatic.heartbeat time) := ⟨rfl, h.heartbeat hsteerable.forgetful time⟩
    exact conclude hsteerable hbound habreast (hresting.heartbeat time hearly) nofun line lineNumber
  | status group position =>
    have hlater := hresting.status group position
    exact conclude hsteerable hbound (h.status hsteerable.forgetful group position)
      hlater.settling (fun _ _ => hlater) line lineNumber
  | reset =>
    dsimp only
    rw [Option.map_bind, Option.map_bind, Option.bind_assoc]
    refine Option.Rel.bind (h.reset hsteerable.forgetful bound) fun later later' hlater hpaces => ?_
    have habreast : Abreast (Except.ok (ε := ScriptError) (), later) (.ok (), later') :=
      ⟨rfl, hpaces⟩
    exact conclude hsteerable hbound habreast (hresting.reset hsteerable hlater).settling nofun line
      lineNumber

/-- **A line** in automatic mode, and in manual mode with a `wakeup`
afterwards. -/
theorem executeLine (h : Paces manual automatic) (hresting : automatic.Resting) {lineNumber : Nat}
    {raw : String}
    (hwakeup : ∀ line, parse lineNumber raw = .ok (some line) → line.command ≠ .wakeup)
    (hearly : (automatic.clockAfterLine lineNumber raw).overflow = false) :
    Option.Rel Abreast
      ((manual.executeLine bound lineNumber raw).bind (Session.thenWakeup bound lineNumber))
      (automatic.executeLine bound lineNumber raw) := by
  unfold clockAfterLine at hearly
  rcases hparse : parse lineNumber raw with e | _ | line
  · rw [executeLine_of_error hparse, executeLine_of_error hparse]
    exact (h.write _).thenWakeup hsteerable hbound
      ⟨hresting.idle, hresting.rest, hresting.early⟩ _ lineNumber
  · rw [executeLine_of_none hparse, executeLine_of_none hparse]
    exact h.thenWakeup hsteerable hbound hresting _ lineNumber
  · rw [executeLine_of_some hparse, executeLine_of_some hparse]
    rw [hparse] at hearly
    exact h.execute hsteerable hbound hresting (hwakeup line hparse) hearly lineNumber

end Paces

/-! ## Scripts -/

/-- **Carrying out numbered lines**, one after the other. A caller who
`heeds` it stops at a line that ends the script. -/
def executeLines (bound : Nat) (heeds : Bool) :
    List (Nat × String) → Session t → Option (Session t)
  | [], session => some session
  | (lineNumber, raw) :: rest, session =>
    (session.executeLine bound lineNumber raw).bind fun (flow, next) =>
      if heeds ∧ flow = .exit then some next else executeLines bound heeds rest next

end Session

/-- The lines with a `wakeup` after each of them, under the same number. -/
def withWakeups (lines : List (Nat × String)) : List (Nat × String) :=
  lines.flatMap fun line => [line, (line.1, "wakeup")]

/-- The counter after a command. -/
def Command.counterAfter (counter : Ticks) : Command → Ticks
  | .heartbeat (some ticks) => ticks
  | .heartbeat none => counter + 1
  | .reset => 0
  | _ => counter

/-- A command does not set the counter back, unless it resets all. -/
def Command.IsOnward (counter : Ticks) (command : Command) : Prop :=
  command = .reset ∨ counter ≤ command.counterAfter counter

/-- **No line that is carried out sets the counter back**, which starts at
some value. -/
def Onward (heeds : Bool) : Ticks → List (Nat × String) → Prop
  | _, [] => True
  | counter, (lineNumber, raw) :: rest =>
    match parse lineNumber raw with
    | .ok (some line) =>
      line.command.IsOnward counter ∧
        (heeds = true ∧ line.command = .exit ∨
          Onward heeds (line.command.counterAfter counter) rest)
    | _ => Onward heeds counter rest

/-- **No line says `wakeup`.** -/
def Unwoken (lines : List (Nat × String)) : Prop :=
  ∀ line ∈ lines, ∀ read, parse line.1 line.2 = .ok (some read) → read.command ≠ .wakeup

namespace Session

/-- The clock follows the counter as long as that is not set back. -/
theorem clockAfter_eq {session : Session t} {counter : Ticks}
    (hnow : session.scheduler.now = ⟨counter, false⟩) {command : Command}
    (honward : command.IsOnward counter) :
    session.clockAfter command = ⟨command.counterAfter counter, false⟩ := by
  have hadvance {ticks : Ticks} (hle : counter ≤ ticks) :
      (⟨counter, false⟩ : Timestamp).advanceTo ticks = ⟨ticks, false⟩ :=
    congrArg (Timestamp.mk ticks) (decide_eq_false (UInt32.not_lt.mpr hle))
  unfold clockAfter
  cases command with
  | heartbeat time =>
    have hle := honward.resolve_left nofun
    cases time with
    | some ticks | none =>
      unfold clockAt
      rw [hnow]
      exact hadvance hle
  | reset => rfl
  | exit | wakeup | delay _ | print _ | queue _ _ _ _ _ | status _ _ => exact hnow

/-- What follows a command does not end the script. -/
theorem ne_exit_of_conclude {line : Line} {answer : Except ScriptError Unit × Session t}
    {outcome : Except ScriptError Flow × Session t}
    (h : Session.conclude bound line answer = some outcome) : outcome.1 ≠ .ok .exit := by
  obtain ⟨answer, session⟩ := answer
  cases answer with
  | error e =>
    cases h
    exact nofun
  | ok =>
    obtain ⟨settled, -, rfl⟩ := Option.map_eq_some_iff.mp h
    exact nofun

/-- The command that ends the script is `exit`. -/
theorem exit_of_execute {session : Session t} {line : Line}
    {outcome : Except ScriptError Flow × Session t}
    (h : session.execute bound line = some outcome) (hexit : outcome.1 = .ok .exit) :
    line.command = .exit := by
  unfold Session.execute at h
  generalize line.command = command at h
  cases command with
  | exit => rfl
  | delay _ | print _ =>
    cases h
    cases hexit
  | wakeup | reset =>
    obtain ⟨answer, -, hconclude⟩ := Option.bind_eq_some_iff.mp h
    exact absurd hexit (ne_exit_of_conclude hconclude)
  | queue _ _ _ _ _ | heartbeat _ | status _ _ => exact absurd hexit (ne_exit_of_conclude h)

/-- **Only `exit` ends a script.** -/
theorem exit_of_executeLine {session next : Session t} {lineNumber : Nat} {raw : String}
    (h : session.executeLine bound lineNumber raw = some (.exit, next)) :
    ∃ line, parse lineNumber raw = .ok (some line) ∧ line.command = .exit := by
  rcases hparse : parse lineNumber raw with e | _ | line
  · rw [executeLine_of_error hparse] at h
    cases h
  · rw [executeLine_of_none hparse] at h
    cases h
  · rw [executeLine_of_some hparse] at h
    obtain ⟨⟨answer, after⟩, hexecute, hjudge⟩ := Option.map_eq_some_iff.mp h
    refine ⟨line, rfl, exit_of_execute hexecute ?_⟩
    cases answer with
    | error e => cases hjudge
    | ok flow =>
      cases hjudge
      rfl

section Lines

variable {heeds : Bool} {lineNumber : Nat} {raw : String} {rest : List (Nat × String)}
  (hgoes : ∀ line, parse lineNumber raw = .ok (some line) →
    ¬ (heeds = true ∧ line.command = .exit))

include hgoes

/-- A line that does not end the script is followed by the rest. -/
theorem executeLines_cons (session : Session t) :
    session.executeLines bound heeds ((lineNumber, raw) :: rest) =
      (session.executeLine bound lineNumber raw).bind fun after =>
        after.2.executeLines bound heeds rest := by
  rw [executeLines]
  cases houtcome : session.executeLine bound lineNumber raw with
  | none => rfl
  | some after =>
    obtain ⟨flow, next⟩ := after
    refine if_neg ?_
    rintro ⟨hheeds, rfl⟩
    obtain ⟨line, hparse, hexit⟩ := exit_of_executeLine houtcome
    exact hgoes line hparse ⟨hheeds, hexit⟩

/-- So the counter goes on from what the line sets it to. -/
theorem onward_of_cons {session : Session t} {counter : Ticks}
    (hnow : session.scheduler.now = ⟨counter, false⟩)
    (h : Onward heeds counter ((lineNumber, raw) :: rest)) :
    ∃ later, session.clockAfterLine lineNumber raw = ⟨later, false⟩ ∧ Onward heeds later rest := by
  unfold Onward at h
  unfold clockAfterLine
  rcases hparse : parse lineNumber raw with e | _ | line
  · rw [hparse] at h
    exact ⟨counter, hnow, h⟩
  · rw [hparse] at h
    exact ⟨counter, hnow, h⟩
  · rw [hparse] at h
    exact ⟨_, clockAfter_eq hnow h.1, h.2.resolve_left (hgoes line hparse)⟩

end Lines

/-- **Lines in automatic mode, and in manual mode** with a `wakeup` after
each of them. -/
theorem Paces.executeLines (hsteerable : Steerable fine slots t) (hbound : 0 < bound) (heeds : Bool)
    {lines : List (Nat × String)} {counter : Ticks} {manual automatic : Session t}
    (h : Paces manual automatic) (hresting : automatic.Resting)
    (hnow : automatic.scheduler.now = ⟨counter, false⟩) (hunwoken : Unwoken lines)
    (honward : Onward heeds counter lines) :
    Option.Rel Paces (manual.executeLines bound heeds (withWakeups lines))
      (automatic.executeLines bound heeds lines) := by
  induction lines generalizing counter manual automatic with
  | nil => exact .some h
  | cons line rest ih =>
    obtain ⟨lineNumber, raw⟩ := line
    by_cases hstops : ∃ line, parse lineNumber raw = .ok (some line) ∧ heeds = true ∧
      line.command = .exit
    · obtain ⟨line, hparse, rfl, hexit⟩ := hstops
      have hends (session : Session t) (rest : List (Nat × String)) :
          session.executeLines bound true ((lineNumber, raw) :: rest) = some session := by
        rw [Session.executeLines, executeLine_of_some hparse, Session.execute, hexit]
        rfl
      exact hends manual _ ▸ hends automatic rest ▸ .some h
    · have hgoes (line : Line) (hparse : parse lineNumber raw = .ok (some line)) :
          ¬ (heeds = true ∧ line.command = .exit) := fun hline => hstops ⟨line, hparse, hline⟩
      obtain ⟨later, hclock, hlater⟩ := onward_of_cons hgoes hnow honward
      have hearly : (automatic.clockAfterLine lineNumber raw).overflow = false := hclock ▸ rfl
      have hline := h.executeLine hsteerable hbound hresting
        (hunwoken (lineNumber, raw) List.mem_cons_self) hearly
      have hwakeup (read : Line) (hparse : parse lineNumber "wakeup" = .ok (some read)) :
          ¬ (heeds = true ∧ read.command = .exit) := by
        rintro ⟨-, hexit⟩
        cases hparse
        cases hexit
      have hmanual : manual.executeLines bound heeds (withWakeups ((lineNumber, raw) :: rest)) =
          ((manual.executeLine bound lineNumber raw).bind
            (Session.thenWakeup bound lineNumber)).bind
            fun after => after.2.executeLines bound heeds (withWakeups rest) := by
        have hlines : withWakeups ((lineNumber, raw) :: rest) =
            (lineNumber, raw) :: (lineNumber, "wakeup") :: withWakeups rest := rfl
        rw [hlines, executeLines_cons hgoes, Option.bind_assoc]
        refine congrArg (Option.bind _) (funext fun after => ?_)
        rw [executeLines_cons hwakeup]
        unfold Session.thenWakeup
        rw [Option.bind_map]
        rfl
      rw [hmanual, executeLines_cons hgoes]
      refine hline.bind fun after after' hafter ⟨_, hpaces⟩ => ?_
      obtain ⟨hresting', hnow'⟩ := hresting.executeLine hsteerable hafter hearly
      exact ih hpaces hresting' (hnow'.trans hclock)
        (fun line hline => hunwoken line (List.mem_cons_of_mem _ hline)) hlater

/-- **A whole script** in automatic mode, and in manual mode with a `wakeup`
after each line. -/
theorem paces_script (hsteerable : Steerable fine slots t) {scheduler : Scheduler t}
    (hfit : scheduler.Fit) (hzero : scheduler.now = .zero) (startup : Option EventCode)
    (bound : Nat) (heeds : Bool) {lines : List (Nat × String)} (hunwoken : Unwoken lines)
    (honward : Onward heeds 0 lines) :
    Option.Rel Paces
      ((Session.script bound .manual startup scheduler).bind
        (·.executeLines bound heeds (withWakeups lines)))
      ((Session.script bound .auto startup scheduler).bind
        (·.executeLines bound heeds lines)) := by
  have hbegun := (Paces.intro (.refl scheduler) startup "" "" 0).boot hsteerable.forgetful bound
  have hdriven : (⟨.script .auto scheduler, startup, "", "", 0⟩ : Session t).Driven :=
    Engine.Driven.auto hfit
  unfold Session.script
  rw [Scheduler.start_eq_self hsteerable.patient.init]
  refine hbegun.bind fun manual automatic hautomatic hpaces => ?_
  have hbound : 0 < bound := Nat.pos_of_ne_zero fun hnone => by
    subst hnone
    cases hautomatic
  have hearly : scheduler.now.overflow = false := hzero ▸ rfl
  obtain ⟨hresting, hnow⟩ := Driven.resting_boot hsteerable hdriven hearly hautomatic
  exact hpaces.executeLines hsteerable hbound heeds hresting (hnow.trans hzero) hunwoken honward

/-- **What is seen of a session**: all that was written, the last report or
printed text, the expectations that were not met, the machines and the
time. -/
structure Appearance (t : Topology μ) where
  /-- The output. -/
  output : String
  /-- The last report or printed text. -/
  lastOutput : String
  /-- The number of expectations that were not met. -/
  failures : Nat
  /-- The status of every machine. -/
  statuses : Vector Status t.machineCount
  /-- The time. -/
  now : Timestamp

/-- What is seen of it. -/
def appearance (session : Session t) : Appearance t :=
  ⟨session.output, session.lastOutput, session.failures, session.scheduler.statuses,
    session.scheduler.now⟩

theorem Paces.appearance_eq {manual automatic : Session t} (h : Paces manual automatic) :
    manual.appearance = automatic.appearance := by
  obtain ⟨⟨past, h⟩, startup, output, lastOutput, failures⟩ := h
  change Appearance.mk output lastOutput failures _ _ = Appearance.mk output lastOutput failures _ _
  exact congr (congrArg _ h.statuses) h.now

end Session

end Script

namespace Builtin

open Script

/-- **Automatic mode agrees with manual mode.** A script drives one of the
built-in machines, with a queue of any size and any event to start with. It
does not say `wakeup`, and never sets the counter back. Then it looks the
same in the end whether its lines are carried out in automatic mode or in
manual mode with a `wakeup` after each of them: the same was written and
failed, and the machine and the clock have come to the same. In particular
it comes to an end in one mode if it does in the other. -/
theorem automatic_like_manual (machine : Builtin) (config : Config) {slots : Nat}
    (hpos : 0 < slots) (hle : slots ≤ maxSlots) (startup : Option EventCode) (bound : Nat)
    (heeds : Bool) {lines : List (Nat × String)} (hunwoken : Unwoken lines)
    (honward : Onward heeds 0 lines) :
    ∃ (t : Topology Unit) (scheduler : Scheduler t),
      machine.topology config slots = .ok t ∧ Scheduler.build t () = .ok scheduler ∧
        ((Session.script bound .auto startup scheduler).bind
            (·.executeLines bound heeds lines)).map Session.appearance =
          ((Session.script bound .manual startup scheduler).bind
            (·.executeLines bound heeds (withWakeups lines))).map Session.appearance := by
  obtain ⟨table, t, htable, htopology, halone⟩ := machine.exists_alone config hpos hle
  obtain ⟨scheduler, hbuild⟩ := halone.exists_build ()
  have hpatient := halone.patient hpos (patient_any htable config.timing) rfl
  have hsteerable : Steerable _ slots t := ⟨hpatient, halone.metFirst, hpatient.forgetful⟩
  have hscripts := Session.paces_script hsteerable (Scheduler.fit_of_build hbuild)
    (Scheduler.now_of_build hbuild) startup bound heeds hunwoken honward
  exact ⟨t, scheduler, htopology, hbuild, (hscripts.map_eq fun _ _ h => h.appearance_eq).symm⟩

end Builtin

namespace Restless

open Script

/-- After ten ticks the machine is set going. Then a text is printed, which
a tick later is not the one that was expected. -/
def lines : List (Nat × String) :=
  [(1, "h,10"), (2, "q,1"), (3, "p,y"), (4, "h,11=x")]

theorem automatic_like_manual_print :
    0 < 1 ∧ 1 ≤ maxSlots ∧ Unwoken lines ∧ Onward true 0 lines ∧
      ((Session.script 2 .manual none scheduler).bind
          (·.executeLines 2 true (withWakeups lines))).map Session.appearance =
        some ⟨"y\nASSERT at line: 4\n\tExpected: x\n\tProduced: y\n", "y", 1,
          #v[⟨1, ⟨12, false⟩, .clear⟩], ⟨11, false⟩⟩ := by
  have hunwoken : Unwoken lines := by
    intro line hline read hread
    simp only [lines, List.mem_cons, List.not_mem_nil, or_false] at hline
    obtain rfl | rfl | rfl | rfl := hline <;> cases hread <;> intro hwakeup <;> cases hwakeup
  have honward : Onward true 0 lines :=
    ⟨.inr (by decide), .inr ⟨.inr (by decide), .inr ⟨.inr (by decide), .inr ⟨.inr (by decide),
      .inr trivial⟩⟩⟩⟩
  obtain ⟨t, s, htopology, hbuild, hagree⟩ := Builtin.automatic_like_manual .endToEnd
    topology.config (show 0 < 1 by decide) (by decide) none 2 true hunwoken honward
  cases topology_eq.symm.trans htopology
  cases hbuild
  have hautomatic : ((Session.script 2 .auto none scheduler).bind
      (·.executeLines 2 true lines)).map Session.appearance =
        some ⟨"y\nASSERT at line: 4\n\tExpected: x\n\tProduced: y\n", "y", 1,
          #v[⟨1, ⟨12, false⟩, .clear⟩], ⟨11, false⟩⟩ := by
    cbv
  exact ⟨by decide, by decide, hunwoken, honward, hagree.symm.trans hautomatic⟩

end Restless

end TimedMachines
