import TimedMachines.Proofs.Patience
import TimedMachines.Script.Session

/-!
# Scripts make progress

The built-in machines are patient, so a scheduler of one of them comes to
rest whenever it runs. A script that drives it therefore never waits for
it in vain: in automatic mode every line returns, whatever the lines
before it were (`executeLine_returns`).

Every line but one kind, that is. Lines can set the clock, also to the
last instant before its second wrap. From there no delay leads on: a
wakeup that would lie behind is moved to this very instant, and so is due
as soon as it is scheduled. A machine that keeps scheduling wakeups then
keeps its scheduler busy forever, and the line that woke it does not
return (`executeLine_diverges`).
-/

namespace TimedMachines

/-! ## The built-in machines -/

/-- A delay is the default or one that was asked for, and only given to
states that handle timeouts. -/
theorem Machine.delayFor_eq_some {μ : Type} {machine : Machine μ} {timing : Timing} {stay : Stay}
    {target : StateId} {delay : Ticks} (h : machine.delayFor timing stay target = some delay) :
    machine.table.handlesTimeout target = true ∧
      (stay = .byDefault ∧ delay = timing.defaultDelay ∨ stay = .ticks delay) := by
  unfold delayFor at h
  split at h
  · next hhandles =>
    cases stay with
    | byDefault => exact ⟨hhandles, .inl ⟨rfl, (Option.some.inj h).symm⟩⟩
    | ticks n => exact ⟨hhandles, .inr (congrArg Stay.ticks (Option.some.inj h))⟩
    | forever => cases h
  · cases h

namespace Builtin

/-- The delays that end later than now wherever the machine gives them: it
has none, or none that are zero. -/
def fine (machine : Builtin) (delay : Ticks) : Prop :=
  machine ≠ .test ∧ 1 ≤ delay

theorem exists_table (machine : Builtin) : ∃ table, machine.table = .ok table := by
  cases machine with
  | test | blink | endToEnd => exact ⟨_, by with_unfolding_all rfl⟩

/-- **The handlers of the built-in machines.** None of them vetoes the
timeout. -/
theorem handler_cases {machine : Builtin} {table : Table (Handler Unit)}
    (h : machine.table = .ok table) {state : StateId} {code : EventCode} {handler : Handler Unit}
    {target : StateId} (hcell : table.get? state code = some ⟨some handler, target⟩) :
    handler = .idle ∨ handler = .rest ∨ (handler = .veto ∧ code ≠ 0) ∨
      ∃ setting ticks, handler = switch setting ticks ∧ 1 ≤ ticks := by
  have hcode : code = 0 ↔ code.toNat = 0 := UInt8.toNat_inj.symm
  rw [ne_eq, hcode]
  cases machine with
  | test =>
    rw [Table.get?_ofRows h] at hcell
    generalize state.toNat = row at hcell
    generalize code.toNat = column at hcell ⊢
    match row, column with
    | 0, 0 | 0, 1 | 1, 1 =>
      cases hcell
      exact .inl rfl
    | 0, 2 | 1, 2 =>
      cases hcell
      exact .inr (.inr (.inl ⟨rfl, by decide⟩))
    | 0, 3 | 1, 3 =>
      cases hcell
      exact .inr (.inl rfl)
    | 1, 0 | 0, _ + 4 | 1, _ + 4 | _ + 2, _ => cases hcell
  | blink =>
    rw [Table.get?_ofRows h] at hcell
    generalize state.toNat = row at hcell
    generalize code.toNat = column at hcell ⊢
    match row, column with
    | 0, 0 | 1, 0 =>
      cases hcell
      exact .inr (.inr (.inr ⟨_, _, rfl, by decide⟩))
    | 0, _ + 1 | 1, _ + 1 | _ + 2, _ => cases hcell
  | endToEnd =>
    rw [Table.get?_ofRows h] at hcell
    generalize state.toNat = row at hcell
    generalize code.toNat = column at hcell ⊢
    match row, column with
    | 0, 0 | 0, 1 | 1, 0 =>
      cases hcell
      exact .inl rfl
    | 1, 1 | 0, _ + 2 | 1, _ + 2 | _ + 2, _ => cases hcell

/-- The timeout leads `test` to a state that does not handle it. -/
theorem test_timeout {table : Table (Handler Unit)} (h : Builtin.test.table = .ok table)
    {state : StateId} {handler : Handler Unit} {target : StateId}
    (hcell : table.get? state 0 = some ⟨some handler, target⟩) :
    table.handlesTimeout target = false := by
  unfold Table.handlesTimeout
  rw [Table.get?_ofRows h] at hcell ⊢
  generalize state.toNat = row at hcell
  match row with
  | 0 =>
    cases hcell
    rfl
  | 1 | _ + 2 => cases hcell

theorem modest {machine : Builtin} {table : Table (Handler Unit)} (h : machine.table = .ok table)
    {handler : Handler Unit} (hhandles : (⟨table, none⟩ : Machine Unit).Handles handler)
    (view : View) : (handler view).Modest := by
  obtain ⟨state, code, target, hcell⟩ := hhandles
  obtain rfl | rfl | ⟨rfl, -⟩ | ⟨setting, ticks, rfl, -⟩ := handler_cases h hcell
  · trivial
  · trivial
  · trivial
  · trivial

/-- **What they wish after a timeout** is no veto, no state of their own
choice, and no delay that is zero. -/
theorem timeout_wishes {machine : Builtin} {table : Table (Handler Unit)}
    (h : machine.table = .ok table) {state : StateId} {handler : Handler Unit} {target : StateId}
    (hcell : table.get? state 0 = some ⟨some handler, target⟩) (view : View) :
    ((handler view).wishes .none).veto = false ∧ ((handler view).wishes .none).target = none ∧
      ∀ n, ((handler view).wishes .none).stay = .ticks n → 1 ≤ n := by
  obtain rfl | rfl | ⟨-, hcode⟩ | ⟨setting, ticks, rfl, hticks⟩ := handler_cases h hcell
  · exact ⟨rfl, rfl, nofun⟩
  · exact ⟨rfl, rfl, nofun⟩
  · exact absurd rfl hcode
  · exact ⟨rfl, rfl, fun n hn => Stay.ticks.inj hn ▸ hticks⟩

/-- **The built-in machines are patient**, unless they stay in a state for
no time by default. -/
theorem patient {machine : Builtin} {table : Table (Handler Unit)} (h : machine.table = .ok table)
    {timing : Timing} (hdelay : 1 ≤ timing.defaultDelay) :
    (⟨table, none⟩ : Machine Unit).Patient machine.fine timing where
  modest _ := modest h
  timeout := by
    intro state handler target hcell view
    obtain ⟨hveto, htarget, hticks⟩ := timeout_wishes h hcell view
    refine ⟨hveto, fun base delay hmove => ?_⟩
    obtain ⟨hhandles, hstay⟩ := Machine.delayFor_eq_some hmove
    rw [htarget] at hhandles
    refine ⟨?_, ?_⟩
    · rintro rfl
      exact Bool.false_ne_true ((test_timeout h hcell).symm.trans hhandles)
    · obtain ⟨-, rfl⟩ | hstay := hstay
      · exact hdelay
      · exact hticks delay hstay

/-- Where any delay will do, they are patient with any default. -/
theorem patient_any {machine : Builtin} {table : Table (Handler Unit)}
    (h : machine.table = .ok table) (timing : Timing) :
    (⟨table, none⟩ : Machine Unit).Patient (fun _ => True) timing where
  modest _ := modest h
  timeout _ _ _ hcell view := ⟨(timeout_wishes h hcell view).1, fun _ _ _ => trivial⟩

end Builtin

/-- **One machine alone in one group**, whose queue has so many slots. -/
structure Topology.Alone {μ : Type} (machine : Machine μ) (config : Config) (slots : Nat)
    (t : Topology μ) : Prop where
  config : t.config = config
  machines : t.machineCount = 1
  machine : ∀ id, t.machines.get id = machine
  groups : t.groupCount = 1
  members : ∀ g, (t.groups.get g).members.length = 1
  capacity : ∀ g, (t.groups.get g).queue.capacity = slots

namespace Topology.Alone

variable {μ : Type} {machine : Machine μ} {config : Config} {slots : Nat} {t : Topology μ}

theorem exists_build (h : t.Alone machine config slots) (memory : μ) :
    ∃ scheduler, Scheduler.build t memory = .ok scheduler :=
  ⟨_, if_neg (h.groups.symm ▸ Nat.one_ne_zero)⟩

/-- A lone machine that is patient makes a patient topology. -/
theorem patient (h : t.Alone machine config slots) {fine : Ticks → Prop} (hpos : 0 < slots)
    (hmachine : machine.Patient fine config.timing) (hinit : machine.init = none) :
    t.Patient fine slots where
  slots_pos := hpos
  machine id := by
    rw [h.machine, h.config]
    exact hmachine
  init id := (congrArg Machine.init (h.machine id)).trans hinit
  capacity g := Nat.le_of_eq (h.capacity g)

end Topology.Alone

namespace Builtin

/-- **The topology of a built-in machine** with a queue of any valid
size has it alone. -/
theorem exists_alone (machine : Builtin) (config : Config) {slots : Nat} (hpos : 0 < slots)
    (hle : slots ≤ maxSlots) :
    ∃ table t, machine.table = .ok table ∧ machine.topology config slots = .ok t ∧
      t.Alone ⟨table, none⟩ config slots := by
  obtain ⟨table, htable⟩ := machine.exists_table
  obtain ⟨queue, hqueue⟩ := EventQueue.exists_create hpos hle
  refine ⟨table, ?_⟩
  unfold topology
  rw [htable]
  dsimp only
  unfold Topology.addGroup
  split
  · split
    · split
      · next hids => cases hids
      · next members hids =>
        split
        · next hcreate => cases hqueue.symm.trans hcreate
        · next queue hcreate =>
          refine ⟨_, rfl, rfl, ⟨rfl, rfl, fun id => ?_, rfl, fun g => ?_, fun g => ?_⟩⟩
          · exact Vector.get_push_alone #v[] _ id
          · refine Eq.trans ?_ (Topology.length_of_resolve hids)
            exact congrArg (fun group : Group 1 => group.members.length)
              (Vector.get_push_alone _ _ g)
          · refine Eq.trans ?_ (EventQueue.toList_of_create hcreate).2
            exact congrArg (fun group : Group 1 => group.queue.capacity)
              (Vector.get_push_alone _ _ g)
    · next h => exact absurd (Nat.le_of_ble_eq_true rfl) h
  · next h => exact absurd (Nat.le_of_ble_eq_true rfl) h

/-- It is patient if the machine is. -/
theorem exists_topology (machine : Builtin) {config : Config}
    (hdelay : 1 ≤ config.timing.defaultDelay) {slots : Nat} (hpos : 0 < slots)
    (hle : slots ≤ maxSlots) :
    ∃ t, machine.topology config slots = .ok t ∧ t.groupCount ≠ 0 ∧
      t.Patient machine.fine slots := by
  obtain ⟨table, t, htable, htopology, halone⟩ := machine.exists_alone config hpos hle
  exact ⟨t, htopology, halone.groups ▸ Nat.one_ne_zero,
    halone.patient hpos (patient htable hdelay) rfl⟩

/-- What the built-in machines ask for ends later than now, except at the
end of time, where `test` asks for nothing. -/
theorem timely_fine {machine : Builtin} {now : Timestamp} (h : machine = .test ∨ now ≠ .latest) :
    Timely machine.fine now :=
  fun _ hfine => Scheduler.lt_value_offset (h.resolve_left hfine.1) hfine.2

end Builtin

/-! ## Outcomes that come if the bound is enough -/

/-- An outcome is good if it comes, and comes if the bound is enough. -/
structure Yields {α : Type} (enough : Prop) (Good : α → Prop) (outcome : Option α) : Prop where
  good : ∀ a, outcome = some a → Good a
  comes : enough → ∃ a, outcome = some a

namespace Yields

variable {α β : Type} {enough : Prop} {Good : α → Prop} {Better : β → Prop}

theorem some {a : α} (h : Good a) : Yields enough Good (.some a) where
  good _ ha := Option.some.inj ha ▸ h
  comes _ := ⟨a, rfl⟩

theorem bind {outcome : Option α} (h : Yields enough Good outcome) {f : α → Option β}
    (hf : ∀ a, Good a → Yields enough Better (f a)) : Yields enough Better (outcome.bind f) where
  good b hb := by
    obtain ⟨a, ha, hfa⟩ := Option.bind_eq_some_iff.mp hb
    exact (hf a (h.good a ha)).good b hfa
  comes henough := by
    obtain ⟨a, ha⟩ := h.comes henough
    rw [ha]
    exact (hf a (h.good a ha)).comes henough

theorem map {outcome : Option α} (h : Yields enough Good outcome) {f : α → β}
    (hf : ∀ a, Good a → Better (f a)) : Yields enough Better (outcome.map f) := by
  rw [Option.map_eq_bind]
  exact h.bind fun a ha => .some (hf a ha)

end Yields

namespace Script

variable {μ : Type} {t : Topology μ} {fine : Ticks → Prop} {slots : Nat} {enough : Prop}

/-! ## Schedulers that a script drives -/

/-- **A fit scheduler comes to rest and stays fit**, if it is given a pass
for each slot and one more. -/
theorem yields_runUntilIdle (hpatient : t.Patient fine slots) {bound : Nat} {s : Scheduler t}
    (h : s.Fit) (henough : enough → slots < bound ∧ Timely fine s.now) :
    Yields enough (fun outcome => outcome.2.Fit) (s.runUntilIdle bound) where
  good _ hrun := h.runUntilIdle hpatient.machine hrun
  comes hyes := by
    obtain ⟨hbound, htimely⟩ := henough hyes
    obtain ⟨_, _, hrun⟩ := Scheduler.sleeps_within_slots hpatient h htimely hbound
    exact ⟨_, hrun⟩

namespace Engine

/-- **An automatic engine** whose scheduler is fit. -/
inductive Driven : Engine t → Prop where
  | auto {s : Scheduler t} (h : s.Fit) : Driven (.script .auto s)

/-- **An automatic engine between two lines**: there is nothing that its
latch asks for. -/
structure Idle (engine : Engine t) : Prop where
  driven : engine.Driven
  asleep : engine.scheduler.latch.woken = false

variable {engine : Engine t} {bound : Nat}

theorem Driven.fit (h : engine.Driven) : engine.scheduler.Fit := by
  obtain ⟨hfit⟩ := h
  exact hfit

theorem Driven.isAutomatic (h : engine.Driven) : engine.isAutomatic = true := by
  obtain ⟨-⟩ := h
  rfl

theorem Driven.update (h : engine.Driven) {f : Scheduler t → Scheduler t}
    (hf : (f engine.scheduler).Fit) : (engine.update f).Driven := by
  obtain ⟨-⟩ := h
  exact .auto hf

theorem scheduler_update (f : Scheduler t → Scheduler t) (engine : Engine t) :
    (engine.update f).scheduler = f engine.scheduler := by
  cases engine with
  | script | threaded => rfl

/-- **An engine does what its latch asks for**, if the time allows it. -/
theorem Driven.settle (hpatient : t.Patient fine slots) (h : engine.Driven)
    (henough : enough → slots < bound ∧
      (engine.scheduler.latch.woken = true → Timely fine engine.scheduler.now)) :
    Yields enough Idle (engine.settle bound) := by
  obtain @⟨s, hfit⟩ := h
  unfold Engine.settle
  dsimp only
  split
  · next hwoken =>
    have hclear : s.clearWake.Fit := ⟨hfit.inTable, hfit.sized, hfit.exit⟩
    have hrun := yields_runUntilIdle hpatient hclear fun hyes =>
      ⟨(henough hyes).1, (henough hyes).2 hwoken⟩
    unfold runAwake
    rw [Option.map_map]
    exact hrun.map fun outcome ⟨hin, hsized, hexit⟩ => ⟨.auto ⟨hin, hsized, hexit⟩, rfl⟩
  · next hasleep => exact .some ⟨.auto hfit, Bool.eq_false_iff.mpr hasleep⟩

/-- The events to start with do not make it unfit. -/
theorem Driven.queued (h : engine.Driven) (startup : List Event) :
    let s := startup.foldl (fun s event => s.broadcast false event) engine.scheduler
    s.Fit ∧ s.now = engine.scheduler.now :=
  List.foldlRecOn (motive := fun v : Scheduler t => v.Fit ∧ v.now = engine.scheduler.now) _ _
    ⟨h.fit, rfl⟩ fun v hv event _ => ⟨hv.1.perform (.broadcast false event) rfl nofun,
      (Scheduler.now_broadcast false event v).trans hv.2⟩

/-- **An engine starts**, if the time allows it. -/
theorem Driven.boot (hpatient : t.Patient fine slots) (h : engine.Driven) (startup : List Event)
    (henough : enough → slots < bound ∧ Timely fine engine.scheduler.now) :
    Yields enough Idle (engine.boot bound startup) := by
  have hqueued := h.queued startup
  obtain @⟨s, -⟩ := h
  have hrun := yields_runUntilIdle hpatient hqueued.1 fun hyes =>
    ⟨(henough hyes).1, hqueued.2 ▸ (henough hyes).2⟩
  unfold Engine.boot
  exact hrun.map fun outcome ⟨hin, hsized, hexit⟩ => ⟨.auto ⟨hin, hsized, hexit⟩, rfl⟩

end Engine

namespace Session

/-- **A session in automatic mode** whose scheduler is fit. -/
def Driven (session : Session t) : Prop :=
  session.engine.Driven

/-- **A session in automatic mode between two lines.** -/
def Idle (session : Session t) : Prop :=
  session.engine.Idle

theorem Driven.fit {session : Session t} (h : session.Driven) : session.scheduler.Fit :=
  Engine.Driven.fit h

theorem Driven.update {session : Session t} (h : session.Driven)
    {f : Scheduler t → Scheduler t} (hf : (f session.scheduler).Fit) : (session.update f).Driven :=
  Engine.Driven.update h hf

variable {session : Session t} {bound : Nat}

theorem scheduler_update (f : Scheduler t → Scheduler t) (session : Session t) :
    (session.update f).scheduler = f session.scheduler :=
  Engine.scheduler_update f session.engine

theorem engine_check (line : Line) (session : Session t) :
    (session.check line).engine = session.engine := by
  unfold check
  split
  · rfl
  · dsimp only
    split
    · rfl
    · rfl

/-- What an engine comes to, its session comes to. -/
theorem yields_drive {f : Engine t → Option (Engine t)} {Good : Engine t → Prop}
    (h : Yields enough Good (f session.engine)) :
    Yields enough (fun next => Good next.engine) (session.drive f) :=
  h.map fun _ hgood => hgood

/-! ## Commands -/

/-- The time at which a command lets the scheduler run, if it does. -/
def clockAt (session : Session t) : Command → Option Timestamp
  | .queue .. => some session.scheduler.now
  | .heartbeat (some ticks) => some (session.scheduler.now.advanceTo ticks)
  | .heartbeat none => some (session.scheduler.now.advanceTo (session.scheduler.now.ticks + 1))
  | .reset => some .zero
  | _ => none

/-- **What follows a command** returns, if the time allows it. -/
theorem Driven.conclude (hpatient : t.Patient fine slots) (h : session.Driven)
    (answer : Except ScriptError Unit) (hidle : ∀ e, answer = .error e → session.Idle) (line : Line)
    (henough : enough → slots < bound ∧
      (session.scheduler.latch.woken = true → Timely fine session.scheduler.now)) :
    Yields enough (fun next => next.2.Idle) (Session.conclude bound line (answer, session)) := by
  cases answer with
  | error e => exact .some (hidle e rfl)
  | ok =>
    refine (yields_drive (h.settle hpatient henough)).map fun next hnext => ?_
    change (next.check line).engine.Idle
    rwa [engine_check]

/-- Nothing follows a command that leaves the session idle. -/
theorem Idle.conclude (hpatient : t.Patient fine slots) (h : session.Idle)
    (answer : Except ScriptError Unit) (line : Line) (hbound : enough → slots < bound) :
    Yields enough (fun next => next.2.Idle) (Session.conclude bound line (answer, session)) :=
  Driven.conclude hpatient h.driven answer (fun _ _ => h) line fun hyes =>
    ⟨hbound hyes, fun hwoken => absurd (h.asleep.symm.trans hwoken) Bool.false_ne_true⟩

/-- Queuing an event does not move the clock, and an event for no group
leaves the session as it is. -/
theorem Driven.queue (h : session.Driven) (everywhere forceNew : Bool) (event : Event)
    (group : UInt8) :
    (session.queue everywhere forceNew event group).2.Driven ∧
      (session.queue everywhere forceNew event group).2.scheduler.now = session.scheduler.now ∧
      ∀ e, (session.queue everywhere forceNew event group).1 = .error e →
        (session.queue everywhere forceNew event group).2 = session := by
  unfold Session.queue
  split
  · refine ⟨h.update (h.fit.perform (.broadcast forceNew event) rfl nofun), ?_, nofun⟩
    exact (congrArg Scheduler.now (scheduler_update _ session)).trans
      (Scheduler.now_broadcast forceNew event _)
  · split
    · refine ⟨h.update (h.fit.perform (.post group forceNew event) rfl nofun), ?_, nofun⟩
      exact (congrArg Scheduler.now (scheduler_update _ session)).trans
        (Scheduler.post_leaves group forceNew event _).1
    · exact ⟨h, rfl, fun _ _ => rfl⟩

/-- A heartbeat moves the clock, and then it is what it is for the
command. -/
theorem Driven.heartbeat (h : session.Driven) (time : Option Ticks) :
    (session.heartbeat time).Driven ∧
      session.clockAt (.heartbeat time) = some (session.heartbeat time).scheduler.now := by
  unfold Session.heartbeat
  rw [scheduler_update]
  cases time with
  | some ticks =>
    exact ⟨h.update (h.fit.perform (.advance ticks) rfl nofun),
      congrArg some (Scheduler.now_advance ticks _).symm⟩
  | none =>
    exact ⟨h.update (h.fit.perform .heartbeat rfl nofun),
      congrArg some (Scheduler.now_advance _ _).symm⟩

/-- A status report is only written. -/
theorem Idle.status (h : session.Idle) (group position : UInt8) :
    (session.status group position).2.Idle := by
  unfold Session.status
  split
  · exact h
  · exact h

/-- A remark only adds to the journal. -/
theorem Idle.remark (h : session.Idle) (severity : Severity) (message : String) :
    (session.remark severity message).Idle where
  driven := h.driven.update ⟨h.driven.fit.inTable, h.driven.fit.sized, h.driven.fit.exit⟩
  asleep := (congrArg (·.latch.woken) (scheduler_update _ session)).trans h.asleep

/-- **A start returns**, if the time allows it. -/
theorem Driven.boot (hpatient : t.Patient fine slots) (h : session.Driven)
    (henough : enough → slots < bound ∧ Timely fine session.scheduler.now) :
    Yields enough Idle (session.boot bound) :=
  yields_drive (Engine.Driven.boot hpatient h _ henough)

/-- **A reset returns**, if the beginning of time allows it. -/
theorem Idle.reset (hpatient : t.Patient fine slots) (h : session.Idle)
    (henough : enough → slots < bound ∧ Timely fine .zero) :
    Yields enough Idle (session.reset bound) := by
  have hremark : (session.remark .debug "Reseting...").Driven := (h.remark _ _).driven
  have hreset := hremark.fit.reset hpatient.init
  refine (hremark.update hreset.1).boot hpatient fun hyes => ?_
  rw [scheduler_update]
  exact ⟨(henough hyes).1, hreset.2 ▸ (henough hyes).2⟩

/-- **Every command returns**, if the time allows it. -/
theorem Idle.execute (hpatient : t.Patient fine slots) (h : session.Idle) (bound : Nat)
    (line : Line) (henough : enough → slots < bound ∧
      ∀ now, session.clockAt line.command = some now → Timely fine now) :
    Yields enough (fun next => next.2.Idle) (session.execute bound line) := by
  unfold Session.execute
  generalize line.command = command at henough ⊢
  cases command with
  | exit => exact .some h
  | delay ms => exact .some (h.remark _ _)
  | print text => exact .some h
  | wakeup =>
    dsimp only
    unfold Session.wakeup
    rw [if_pos h.driven.isAutomatic]
    exact .some h
  | queue everywhere forceNew code data group =>
    obtain ⟨hdriven, hnow, herror⟩ := Driven.queue h.driven everywhere forceNew ⟨code, data⟩ group
    exact hdriven.conclude hpatient _ (fun e he => (herror e he).symm ▸ h) line fun hyes =>
      ⟨(henough hyes).1, fun _ => (henough hyes).2 _ (congrArg some hnow.symm)⟩
  | heartbeat time =>
    obtain ⟨hdriven, hnow⟩ := Driven.heartbeat h.driven time
    exact hdriven.conclude hpatient (.ok ()) nofun line fun hyes =>
      ⟨(henough hyes).1, fun _ => (henough hyes).2 _ hnow⟩
  | status group position =>
    exact (h.status group position).conclude hpatient _ line fun hyes => (henough hyes).1
  | reset =>
    refine (h.reset hpatient fun hyes => ⟨(henough hyes).1, (henough hyes).2 _ rfl⟩).bind
      fun next hnext => ?_
    exact hnext.conclude hpatient _ line fun hyes => (henough hyes).1

/-- **Every line returns**, if the time allows it. -/
theorem Idle.executeLine (hpatient : t.Patient fine slots) (h : session.Idle)
    (bound lineNumber : Nat) (raw : String)
    (henough : enough → slots < bound ∧ ∀ line, parse lineNumber raw = .ok (some line) →
      ∀ now, session.clockAt line.command = some now → Timely fine now) :
    Yields enough (fun next => next.2.Idle) (session.executeLine bound lineNumber raw) := by
  unfold Session.executeLine
  cases hparse : parse lineNumber raw with
  | error e => exact .some h
  | ok read =>
    cases read with
    | none => exact .some h
    | some line =>
      have hexecute := h.execute hpatient bound line fun hyes =>
        ⟨(henough hyes).1, (henough hyes).2 line hparse⟩
      refine hexecute.map ?_
      rintro ⟨_ | _, next⟩ hnext
      · exact hnext
      · exact hnext

/-- **A session begins**, with any event to start with. -/
theorem idle_script (hpatient : t.Patient fine slots) {scheduler : Scheduler t}
    (h : scheduler.Fit) (startup : Option EventCode)
    (henough : enough → slots < bound ∧ Timely fine scheduler.now) :
    Yields enough Idle (Session.script bound .auto startup scheduler) := by
  have hstart := Scheduler.start_eq_self hpatient.init scheduler
  unfold Session.script
  rw [hstart]
  have hbegun : (⟨.script .auto scheduler, startup, "", "", 0⟩ : Session t).Driven :=
    Engine.Driven.auto h
  exact hbegun.boot hpatient henough

end Session

/-- **The sessions of a script** that drives a scheduler in automatic
mode, one line after the other. -/
inductive Underway (startup : Option EventCode) (scheduler : Scheduler t) : Session t → Prop where
  /-- Before the first line. -/
  | begun {bound : Nat} {session : Session t}
    (h : Session.script bound .auto startup scheduler = some session) :
    Underway startup scheduler session
  /-- After one line more. -/
  | carriedOn {bound lineNumber : Nat} {raw : String} {session next : Session t} {flow : Flow}
    (h : Underway startup scheduler session)
    (hline : session.executeLine bound lineNumber raw = some (flow, next)) :
    Underway startup scheduler next

theorem Underway.idle (hpatient : t.Patient fine slots) {startup : Option EventCode}
    {scheduler : Scheduler t} (hfit : scheduler.Fit) {session : Session t}
    (h : Underway startup scheduler session) : session.Idle := by
  induction h with
  | begun hscript => exact (Session.idle_script hpatient hfit startup False.elim).good _ hscript
  | carriedOn _ hline ih => exact (ih.executeLine hpatient _ _ _ False.elim).good _ hline

end Script

/-! ## A machine that never rests -/

namespace Restless

open Script

theorem two_le_maxStates : 2 ≤ maxStates := by
  decide

theorem two_le_maxEvents : 2 ≤ maxEvents := by
  decide

/-- The table of `endToEnd`. -/
def table : Table (Handler Unit) where
  states := 2
  events := 2
  cells := #v[Builtin.on .idle 0, Builtin.on .idle 1, Builtin.on .idle 1, .empty]
  states_pos := Nat.two_pos
  states_le := two_le_maxStates
  events_pos := Nat.two_pos
  events_le := two_le_maxEvents
  target_lt := fun cell hcell _ => by
    obtain ⟨⟨hcell⟩⟩ := hcell
    simp only [List.mem_cons, List.not_mem_nil, or_false] at hcell
    obtain rfl | rfl | rfl | rfl := hcell <;> decide

/-- A queue with a single slot. -/
def queue : EventQueue :=
  (EventQueue.create 1).toOption.get rfl

/-- The machine in the place of the alarm clock, and with this queue. It
stays in every state for one tick. -/
def topology : Topology Unit :=
  { Alarm.topology 0 with
    config := ⟨"OFSM", ⟨1, .beforeHandler⟩, true, 0⟩
    machines := #v[⟨table, none⟩]
    groups := #v[{ (Alarm.topology 0).groups.get Alarm.group with
      queue := queue
      queue_empty := rfl }] }

theorem topology_eq : Builtin.endToEnd.topology topology.config 1 = .ok topology := by
  with_unfolding_all rfl

/-- The scheduler that sleeps until an event comes. -/
def asleep (now : Timestamp) (journal : Journal) : Scheduler topology where
  flags := ⟨true, false, false, false⟩
  wakeup := .zero
  now := now
  statuses := #v[.startup]
  queues := #v[queue]
  latch := .clear
  memory := ()
  journal := journal

/-- The scheduler at the end of time, where the machine is due and a
timeout pending. -/
def busy (journal : Journal) : Scheduler topology where
  flags := ⟨true, true, false, false⟩
  wakeup := .zero
  now := .latest
  statuses := #v[⟨1, .latest, .clear⟩]
  queues := #v[queue.append .timeout]
  latch := ⟨true⟩
  memory := ()
  journal := journal

/-- The timeout is delivered, the machine is due again, and the next
timeout is posted. -/
theorem pass_busy (journal : Journal) :
    (busy journal).pass = (.again, busy (busy journal).pass.2.journal) := by
  cbv

/-- **The machine keeps its scheduler busy**, however many passes it is
given. -/
theorem runUntilIdle_busy (bound : Nat) (journal : Journal) :
    (busy journal).runUntilIdle bound = none := by
  induction bound generalizing journal with
  | zero => rfl
  | succ bound ih =>
    rw [Scheduler.runUntilIdle, pass_busy]
    exact ih _

/-- The scheduler that is woken by event 1. -/
def woken (journal : Journal) : Scheduler topology :=
  ((asleep .latest journal).post 0 false ⟨1, 0⟩).2

theorem pass_woken (journal : Journal) :
    (woken journal).clearWake.pass =
      (.again, busy (woken journal).clearWake.pass.2.journal) := by
  cbv

theorem runUntilIdle_woken (bound : Nat) (journal : Journal) :
    (woken journal).clearWake.runUntilIdle bound = none := by
  cases bound with
  | zero => rfl
  | succ bound =>
    rw [Scheduler.runUntilIdle, pass_woken]
    exact runUntilIdle_busy bound _

/-- The session that waits for its next line. -/
def waiting (now : Timestamp) (journal : Journal) : Session topology :=
  ⟨.script .auto (asleep now journal), none, "", "", 0⟩

/-- The scheduler that has just been put together. -/
def scheduler : Scheduler topology :=
  (Scheduler.build topology ()).toOption.get rfl

/-- The journal of the start. -/
def journal : Journal :=
  (Session.script 1 .auto none scheduler).elim #[] fun session => session.scheduler.journal

theorem script_scheduler :
    Session.script 1 .auto none scheduler = some (waiting .zero journal) := by
  cbv

/-- While the scheduler sleeps, a heartbeat only sets the clock. -/
theorem executeLine_heartbeat {lineNumber : Nat} {raw : String} {ticks : Ticks}
    (h : parse lineNumber raw = .ok (some ⟨lineNumber, .heartbeat (some ticks), none⟩))
    (bound : Nat) (now : Timestamp) (journal : Journal) :
    (waiting now journal).executeLine bound lineNumber raw =
      some (.continue, waiting (now.advanceTo ticks) journal) := by
  unfold Session.executeLine
  rw [h]
  rfl

/-- **Event 1 at the end of time** is never dealt with. -/
theorem executeLine_queue {bound lineNumber : Nat} {raw : String}
    (h : parse lineNumber raw = .ok (some ⟨lineNumber, .queue false false 1 0 0, none⟩))
    (journal : Journal) : (waiting .latest journal).executeLine bound lineNumber raw = none := by
  have hsettle : (Engine.script .auto (woken journal)).settle bound = none := by
    change (Option.map _ (Option.map _ ((woken journal).clearWake.runUntilIdle bound))) = none
    rw [runUntilIdle_woken]
    rfl
  unfold Session.executeLine
  rw [h]
  change Option.map _ (Option.map _ (Option.map _
    ((Engine.script .auto (woken journal)).settle bound))) = none
  rw [hsettle]
  rfl

end Restless

namespace Builtin

open Script

/-- **Lines return.** A script that drives one of the built-in machines in
automatic mode, with a queue of any size and a default delay of one tick
or more, begins; and whatever its lines so far were, the next one returns,
unless it lets the scheduler run at the end of time. The machine `test`
does not mind even that. -/
theorem executeLine_returns (machine : Builtin) {config : Config}
    (hdelay : 1 ≤ config.timing.defaultDelay) {slots : Nat} (hpos : 0 < slots)
    (hle : slots ≤ maxSlots) (startup : Option EventCode) :
    ∃ (t : Topology Unit) (scheduler : Scheduler t),
      machine.topology config slots = .ok t ∧ Scheduler.build t () = .ok scheduler ∧
        (∀ bound, slots < bound →
          ∃ session, Session.script bound .auto startup scheduler = some session) ∧
        ∀ session, Underway startup scheduler session → ∀ lineNumber raw,
          (machine = .test ∨ ∀ line, parse lineNumber raw = .ok (some line) →
            session.clockAt line.command ≠ some .latest) →
          ∀ bound, slots < bound →
            ∃ flow next, session.executeLine bound lineNumber raw = some (flow, next) := by
  obtain ⟨t, htopology, hgroups, hpatient⟩ := machine.exists_topology hdelay hpos hle
  obtain ⟨scheduler, hbuild⟩ : ∃ scheduler, Scheduler.build t () = .ok scheduler :=
    ⟨_, if_neg hgroups⟩
  have hfit := Scheduler.fit_of_build hbuild
  have hzero : scheduler.now = .zero := by
    rw [Scheduler.build, if_neg hgroups] at hbuild
    exact Except.ok.inj hbuild ▸ rfl
  refine ⟨t, scheduler, htopology, hbuild, fun bound hbound => ?_,
    fun session hsession lineNumber raw hclock bound hbound => ?_⟩
  · exact (Session.idle_script hpatient hfit startup id).comes
      ⟨hbound, timely_fine (.inr (hzero ▸ nofun))⟩
  · have hline := (hsession.idle hpatient hfit).executeLine hpatient bound lineNumber raw id
    obtain ⟨⟨flow, next⟩, hnext⟩ := hline.comes ⟨hbound, fun line hparse now hnow =>
      timely_fine (hclock.imp_right fun hnot hlatest => hnot line hparse (hlatest ▸ hnow))⟩
    exact ⟨flow, next, hnext⟩

end Builtin

namespace Restless

open Script

/-- Event 1 after ten ticks is dealt with. -/
theorem executeLine_returns_tenTicks :
    1 ≤ topology.config.timing.defaultDelay ∧ 0 < 1 ∧ 1 ≤ maxSlots ∧
      Underway none scheduler (waiting ⟨10, false⟩ journal) ∧
      (∀ line, parse 2 "q,1" = .ok (some line) →
        (waiting ⟨10, false⟩ journal).clockAt line.command ≠ some .latest) ∧
      ∃ flow next, (waiting ⟨10, false⟩ journal).executeLine 2 2 "q,1" = some (flow, next) := by
  have hdelay : 1 ≤ topology.config.timing.defaultDelay := by decide
  have hparse : parse 1 "h,10" = .ok (some ⟨1, .heartbeat (some 10), none⟩) := rfl
  have hunderway : Underway none scheduler (waiting ⟨10, false⟩ journal) :=
    .carriedOn (.begun script_scheduler) (executeLine_heartbeat hparse 1 .zero journal)
  have hclock : ∀ line, parse 2 "q,1" = .ok (some line) →
      (waiting ⟨10, false⟩ journal).clockAt line.command ≠ some .latest := by
    rintro line ⟨⟩
    decide
  obtain ⟨t, s, htopology, hbuild, -, hreturns⟩ :=
    Builtin.executeLine_returns .endToEnd hdelay (show 0 < 1 by decide) (by decide) none
  cases topology_eq.symm.trans htopology
  cases hbuild
  exact ⟨hdelay, by decide, by decide, hunderway, hclock,
    hreturns _ hunderway 2 "q,1" (.inr hclock) 2 (by decide)⟩

/-- **A script that does not end.** Three heartbeats take the clock to the
end of time while the scheduler sleeps, and then it is woken. -/
theorem executeLine_diverges :
    ∃ (t : Topology Unit) (scheduler : Scheduler t) (s₀ s₁ s₂ s₃ : Session t),
      1 ≤ t.config.timing.defaultDelay ∧
        Builtin.endToEnd.topology t.config 1 = .ok t ∧ Scheduler.build t () = .ok scheduler ∧
        Session.script 1 .auto none scheduler = some s₀ ∧
        s₀.executeLine 1 1 "h,10" = some (.continue, s₁) ∧
        s₁.executeLine 1 2 "h,5" = some (.continue, s₂) ∧
        s₂.executeLine 1 3 "h,4294967295" = some (.continue, s₃) ∧
        ∀ bound, s₃.executeLine bound 4 "q,1" = none := by
  have hten : parse 1 "h,10" = .ok (some ⟨1, .heartbeat (some 10), none⟩) := by cbv
  have hfive : parse 2 "h,5" = .ok (some ⟨2, .heartbeat (some 5), none⟩) := by cbv
  have hmax : parse 3 "h,4294967295" = .ok (some ⟨3, .heartbeat (some 4294967295), none⟩) := by
    cbv
  have hqueue : parse 4 "q,1" = .ok (some ⟨4, .queue false false 1 0 0, none⟩) := by cbv
  have hlatest : ((Timestamp.zero.advanceTo 10).advanceTo 5).advanceTo 4294967295 = .latest := by
    decide
  refine ⟨topology, scheduler, waiting .zero journal, waiting _ journal, waiting _ journal,
    waiting .latest journal, by decide, topology_eq, rfl, script_scheduler,
    executeLine_heartbeat hten .., executeLine_heartbeat hfive .., ?_,
    fun _ => executeLine_queue hqueue _⟩
  rw [← hlatest]
  exact executeLine_heartbeat hmax ..

end Restless

end TimedMachines
