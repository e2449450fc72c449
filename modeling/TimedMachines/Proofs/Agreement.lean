import TimedMachines.Proofs.Tracked

/-!
# The traced scheduler is the scheduler

`Tracked Traced t` carries more than `Scheduler t`, true times and a log,
and looks at neither. So with both left out it is in the same state after
the same operations (`agrees_performAll`). Its log has one entry, in the
same order, for every message and record of the journal that a handler is
called or that a machine takes a step; that is part of the agreement.

The proof goes along the definitions, one lemma for each function, and
for handlers uses that both schedulers are worlds that agree on single
actions.
-/

namespace TimedMachines

variable {μ : Type} {t : Topology μ}

/-- A status without the true time. -/
def StatusOn.stamped (status : StatusOn Traced) : Status :=
  ⟨status.state, status.wakeup.stamp, status.flags⟩

/-- Whether the log of a traced scheduler has the entry too. -/
def Entry.isTraced : Entry → Bool
  | .note (.preparing _) | .note (.processing ..) | .record (.transition _) => true
  | _ => false

/-- The entry of the journal that goes with one of the log. -/
def Happening.entry? {machines : Nat} : Happening Traced machines → Option Entry
  | .preparing _ view => some (.note (.preparing view.place))
  | .processing _ view _ _ => some (.note (.processing view.place view.state view.event))
  | .moved _ _ move => some (.record (.transition move))
  | _ => none

/-- The step that a pass of the scheduler ends with. -/
def StepOn.stamped : StepOn Traced → Step
  | .again => .again
  | .sleep wakeup => .sleep (wakeup.map Traced.stamp)
  | .exit => .exit

namespace Tracked

/-- The scheduler without true times and log, but with a journal. -/
def erase (u : Tracked Traced t) (journal : Journal) : Scheduler t where
  flags := u.flags
  wakeup := u.wakeup.stamp
  now := u.now.stamp
  statuses := u.statuses.map StatusOn.stamped
  queues := u.queues
  latch := u.latch
  memory := u.memory
  journal := journal

/-- The journal and the log tell the same. -/
def Tells {machines : Nat} (journal : Journal) (log : List (Happening Traced machines)) : Prop :=
  journal.toList.filter Entry.isTraced = (log.filterMap Happening.entry?).reverse

/-- **A scheduler agrees with a traced one** if it is what remains of it
without true times and log. -/
inductive Agrees : Scheduler t → Tracked Traced t → Prop where
  /-- The journal must fit the log. -/
  | intro (u : Tracked Traced t) (journal : Journal) (h : Tells journal u.log) :
    Agrees (u.erase journal) u

/-! ## Elementary changes -/

namespace Agrees

variable {s : Scheduler t} {u : Tracked Traced t}

/-- What the log does not record can be reported. -/
theorem report (h : Agrees s u) {entry : Entry} (hentry : entry.isTraced = false) :
    Agrees (s.report entry) u := by
  obtain ⟨u, journal, h⟩ := h
  refine .intro u (journal.push entry) ?_
  unfold Tells at *
  simp [h, hentry]

/-- What the journal does not record can be logged. -/
theorem add (h : Agrees s u) {happening : Happening Traced t.machineCount}
    (hentry : happening.entry? = none) :
    Agrees s (u.add happening) := by
  obtain ⟨u, journal, h⟩ := h
  refine .intro (u.add happening) journal ?_
  unfold Tells at *
  rw [h, Tracked.add, List.filterMap_cons, hentry]

/-- What both record is recorded in both. -/
theorem report_add (h : Agrees s u) {entry : Entry} {happening : Happening Traced t.machineCount}
    (hentry : happening.entry? = some entry) (htraced : entry.isTraced = true) :
    Agrees (s.report entry) (u.add happening) := by
  obtain ⟨u, journal, h⟩ := h
  refine .intro (u.add happening) (journal.push entry) ?_
  unfold Tells at *
  simp [h, htraced, Tracked.add, hentry]

theorem status_eq (h : Agrees s u) (id : Fin t.machineCount) :
    s.statuses.get id = (u.statuses.get id).stamped := by
  obtain ⟨u, journal, h⟩ := h
  exact Vector.get_mapped ..

theorem now_eq (h : Agrees s u) : s.now = u.now.stamp := by
  obtain ⟨u, journal, h⟩ := h
  rfl

theorem wakeup_eq (h : Agrees s u) : s.wakeup = u.wakeup.stamp := by
  obtain ⟨u, journal, h⟩ := h
  rfl

theorem flags_eq (h : Agrees s u) : s.flags = u.flags := by
  obtain ⟨u, journal, h⟩ := h
  rfl

theorem queues_eq (h : Agrees s u) : s.queues = u.queues := by
  obtain ⟨u, journal, h⟩ := h
  rfl

/-- A machine's status can be replaced in both. -/
theorem write (h : Agrees s u) (id : Fin t.machineCount) {status : Status}
    {traced : StatusOn Traced} (hstatus : status = traced.stamped) :
    Agrees ((Scheduler.slot id).write status s) (u.write id traced) := by
  obtain ⟨u, journal, h⟩ := h
  have : (Scheduler.slot id).write status (u.erase journal) =
      (u.write id traced).erase journal := by
    simp only [Scheduler.slot, erase, Tracked.write, hstatus, Vector.map_put]
  exact this ▸ .intro (u.write id traced) journal h

theorem wake (h : Agrees s u) : Agrees s.wake u.wake := by
  obtain ⟨u, journal, h⟩ := h
  exact .intro u.wake journal h

theorem setQueue (h : Agrees s u) (g : Fin t.groupCount) (queue : EventQueue) :
    Agrees { s with queues := s.queues.put g queue } { u with queues := u.queues.put g queue } := by
  obtain ⟨u, journal, h⟩ := h
  exact .intro { u with queues := u.queues.put g queue } journal h

theorem markQueued (h : Agrees s u) : Agrees s.markQueued u.markQueued := by
  obtain ⟨u, journal, h⟩ := h
  exact .intro u.markQueued journal h

theorem requestExit (h : Agrees s u) : Agrees s.requestExit u.requestExit := by
  obtain ⟨u, journal, h⟩ := h
  exact .intro u.requestExit journal h

theorem amend (h : Agrees s u) (change : μ → μ) :
    Agrees { s with memory := change s.memory } { u with memory := change u.memory } := by
  obtain ⟨u, journal, h⟩ := h
  exact .intro { u with memory := change u.memory } journal h

theorem rewind (h : Agrees s u) : Agrees s.rewind u.rewind := by
  obtain ⟨u, journal, h⟩ := h
  have : (u.erase journal).rewind = u.rewind.erase journal := by
    simp only [Scheduler.rewind, erase, Tracked.rewind, Tracked.add, Vector.map_replicate]
    rfl
  rw [this]
  exact .intro u.rewind journal h

theorem rebase (h : Agrees s u) : Agrees s.rebase u.rebase := by
  obtain ⟨u, journal, h⟩ := h
  have : (u.erase journal).rebase = u.rebase.erase journal := by
    simp only [Scheduler.rebase, erase, Tracked.rebase, Vector.map_map]
    rfl
  exact this ▸ .intro u.rebase journal h

/-! ## Producers -/

theorem post (h : Agrees s u) (group : UInt8) (forceNew : Bool) (event : Event) :
    (s.post group forceNew event).1 = (u.post group forceNew event).1 ∧
      Agrees (s.post group forceNew event).2 (u.post group forceNew event).2 := by
  unfold Scheduler.post Tracked.post
  cases t.group? group with
  | error e => exact ⟨rfl, h.report rfl⟩
  | ok g =>
    dsimp only
    rw [show s.queues.get g = u.queues.get g by rw [h.queues_eq]]
    rcases (u.queues.get g).push forceNew event with ⟨answer, queue⟩
    have hset := h.setQueue g queue
    cases answer with
    | error e => exact ⟨rfl, hset.wake.report rfl⟩
    | ok outcome =>
      cases outcome with
      | appended => exact ⟨rfl, hset.markQueued.wake.report rfl⟩
      | coalesced =>
        refine ⟨rfl, Agrees.report ?_ rfl⟩
        split
        · exact hset.wake
        · exact hset

theorem broadcast (h : Agrees s u) (forceNew : Bool) (event : Event) :
    Agrees (s.broadcast forceNew event) (u.broadcast forceNew event) :=
  List.foldl_rel h fun g _ _ _ h => ((h.report rfl).post (t.groupId g) forceNew event).2

theorem fireTimeout (h : Agrees s u) : Agrees s.fireTimeout (u.broadcast false .timeout) :=
  (h.report rfl).broadcast _ _

theorem advance (h : Agrees s u) (ticks : Ticks) : Agrees (s.advance ticks) (u.advance ticks) := by
  obtain ⟨u, journal, h⟩ := h
  have hset : Agrees { u.erase journal with now := u.now.stamp.advanceTo ticks }
      (u.setClock ticks) :=
    (Agrees.intro { u with now := Clock.advanceTo u.now ticks } journal h).add rfl
  exact ite_rel (fun _ => ite_rel (fun _ => hset.wake) fun _ => hset)
    fun _ => ite_rel (fun _ => hset.fireTimeout) fun _ => hset

end Agrees

/-! ## Handlers -/

variable {start : Scheduler t → Scheduler t} {tracedStart : Tracked Traced t → Tracked Traced t}

/-- The two are worlds that agree on single actions. -/
theorem simulates_world (hstart : ∀ s u, Agrees s u → Agrees (start s) (tracedStart u)) :
    (Scheduler.world start).Simulates (world tracedStart) (fun _ => True) Eq Eq (fun _ => False)
      Agrees where
  now s u h := ⟨h.now_eq, h⟩
  post group forceNew event s u h := h.post group forceNew event
  ask request s u _ h := by
    cases request with
    | advance ticks => exact .inr (h.advance ticks)
    | heartbeat =>
      simp only [Scheduler.world, world, Scheduler.heartbeat, heartbeat, h.now_eq]
      exact .inr (h.advance _)
    | broadcast forceNew event => exact .inr (h.broadcast forceNew event)
    | exit => exact .inr h.requestExit
    | reset => exact .inr (hstart _ _ (h.report rfl).rewind)
    | start => exact .inr (hstart s u h)
  consult s u h := by
    obtain ⟨u, journal, h⟩ := h
    rfl
  amend change s u h := h.amend change
  remark _ _ s u h := h.report rfl

/-- So their handlers run alike. -/
theorem agrees_run (hstart : ∀ s u, Agrees s u → Agrees (start s) (tracedStart u))
    (knows : StateId → Bool) (act : Act μ) (wishes : Wishes) {s : Scheduler t}
    {u : Tracked Traced t} (h : Agrees s u) :
    (act.run (Scheduler.world start) knows wishes s).1 =
        (act.run (world tracedStart) knows wishes u).1 ∧
      Agrees (act.run (Scheduler.world start) knows wishes s).2
        (act.run (world tracedStart) knows wishes u).2 :=
  (Act.run_simulates (simulates_world hstart) (World.keeps_false _ _) knows act act.asks_any
    act.blind_eq act.overlooks_eq wishes s u h).resolve_left id

/-! ## Startup -/

theorem stamped_prepared (before : StatusOn Traced) (wishes : Wishes) (now : Traced) :
    (before.prepared wishes now).stamped =
      Machine.prepared before.stamped wishes (wishes.stay.delay?.map now.stamp.offset) := by
  obtain ⟨veto, stay, target⟩ := wishes
  cases stay <;> rfl

theorem agrees_prepare (hstart : ∀ s u, Agrees s u → Agrees (start s) (tracedStart u))
    {s : Scheduler t} {u : Tracked Traced t} (h : Agrees s u) (id : Fin t.machineCount)
    (place : Coords) :
    Agrees ((t.machines.get id).prepare (Scheduler.world start) (Scheduler.slot id) place s)
      (prepare (world tracedStart) id place u) := by
  unfold Machine.prepare prepare
  cases (t.machines.get id).init with
  | none => exact h
  | some init =>
    have hbefore : (Scheduler.slot id).read (s.report (.note (.preparing place))) =
        (u.statuses.get id).stamped := h.status_eq id
    have hlogged : Agrees (s.report (.note (.preparing place)))
        (u.add (.preparing id (initView place (u.statuses.get id)))) := h.report_add rfl rfl
    obtain ⟨hwishes, hrun⟩ := agrees_run hstart (t.machines.get id).table.hasState
      (init (initView place (u.statuses.get id))) .none hlogged
    have hview : (⟨place, (u.statuses.get id).stamped.state, .timeout, infiniteTicks⟩ : View) =
        initView place (u.statuses.get id) := rfl
    dsimp only
    rw [show (Scheduler.world start).report = Scheduler.report from rfl, hbefore, hview]
    revert hwishes hrun
    rcases Act.run (Scheduler.world start) _ _ _ _ with ⟨wishes, s'⟩
    rcases Act.run (world tracedStart) _ _ _ _ with ⟨_, u'⟩
    rintro rfl hrun
    dsimp only
    refine ite_rel (fun _ => hrun) fun _ => ?_
    obtain ⟨veto, stay, target⟩ := wishes
    refine Agrees.add ?_ rfl
    cases stay with
    | byDefault => exact hrun.write id rfl
    | ticks delay =>
      refine hrun.write id ?_
      rw [stamped_prepared, ← hrun.now_eq]
      rfl
    | forever => exact hrun.write id rfl

theorem agrees_prepareAll (hstart : ∀ s u, Agrees s u → Agrees (start s) (tracedStart u))
    {s : Scheduler t} {u : Tracked Traced t} (h : Agrees s u) :
    Agrees (Scheduler.prepareAll (Scheduler.world start) s) (prepareAll (world tracedStart) u) :=
  List.foldl_rel h fun _ _ _ _ h =>
    List.foldl_rel h fun member _ _ _ h => agrees_prepare hstart h member.2 member.1

/-- **Starts agree**, however deep they nest. -/
theorem agrees_start {s : Scheduler t} {u : Tracked Traced t} (h : Agrees s u) :
    Agrees s.start u.start := by
  have hwithin (depth : Nat) : ∀ (s : Scheduler t) (u : Tracked Traced t), Agrees s u →
      Agrees (s.startWithin depth) (u.startWithin depth) := by
    induction depth with
    | zero => exact fun s u h => agrees_prepareAll (fun _ _ h => h) h
    | succ depth ih => exact fun s u h => agrees_prepareAll ih h
  exact hwithin _ s u h

/-! ## Deliveries -/

theorem stamped_moved (base : Traced) (move : Move) (h : move.base = base.stamp) :
    (StatusOn.moved base move).stamped = move.status := by
  unfold StatusOn.moved Move.status StatusOn.stamped
  rw [h]
  cases move.delay <;> rfl

theorem view_eq (place : Coords) (event : Event) (before : StatusOn Traced) (now : Traced) :
    view place event before now =
      ⟨place, before.state, event, before.stamped.left now.stamp⟩ := by
  unfold view StatusOn.left StatusOn.scheduled Status.left StatusOn.stamped
  cases before.flags.infiniteSleep with
  | true => rfl
  | false =>
    simp only [Bool.false_eq_true, if_false, Option.map_some, Option.getD_some, Clock.span,
      UInt32.ofNat_toNat]

theorem isAsleep_stamped (before : StatusOn Traced) (now : Traced) (wakesSleepers : Bool) :
    before.stamped.isAsleep now.stamp wakesSleepers = before.isAsleep now wakesSleepers := by
  unfold Status.isAsleep StatusOn.isAsleep
  rw [Timestamp.after_eq_not_atOrAfter]
  rfl

theorem agrees_call {s : Scheduler t} {u : Tracked Traced t} (h : Agrees s u)
    (id : Fin t.machineCount) (before : StatusOn Traced) (view : View) :
    Agrees (((Scheduler.slot id).write before.stamped.suspended s).report
        (.note (.processing view.place view.state view.event))) (u.call id before view) := by
  have hsuspended : Agrees ((Scheduler.slot id).write before.stamped.suspended s)
      (u.write id before.suspended) := h.write id rfl
  have hlogged : Agrees _ ((u.write id before.suspended).add
      (.processing id view u.now (before.left u.now))) := hsuspended.report_add rfl rfl
  unfold call
  cases t.config.timing.delayBase with
  | beforeHandler => exact hlogged.add rfl
  | afterHandler => exact hlogged

theorem agrees_handle {s : Scheduler t} {u : Tracked Traced t} (h : Agrees s u)
    (id : Fin t.machineCount) (handler : Handler μ) (target : StateId) (before : StatusOn Traced)
    (view : View) :
    Agrees ((t.machines.get id).handle (Scheduler.world Scheduler.start) (Scheduler.slot id)
        t.config.timing handler target before.stamped u.now.stamp view s)
      (u.handle id handler target before view) := by
  unfold Machine.handle handle
  obtain ⟨hwishes, hrun⟩ := agrees_run (fun _ _ h => agrees_start h)
    (t.machines.get id).table.hasState (handler view) .none (agrees_call h id before view)
  dsimp only
  rw [show (Scheduler.world Scheduler.start).report = Scheduler.report (t := t) from rfl]
  revert hwishes hrun
  rcases Act.run (Scheduler.world Scheduler.start) _ _ _ _ with ⟨wishes, s'⟩
  rcases Act.run (world Tracked.start) _ _ _ _ with ⟨_, u'⟩
  rintro rfl hrun
  dsimp only
  have hvetoed : Agrees ((Scheduler.slot id).write before.stamped.restored s')
      (u'.write id before.restored) := hrun.write id rfl
  refine ite_rel (fun _ => hvetoed.report rfl) fun _ => ?_
  unfold base
  cases t.config.timing.delayBase with
  | beforeHandler =>
    refine Agrees.report_add (hrun.write id ?_) rfl rfl
    exact (stamped_moved u.now _ rfl).symm
  | afterHandler =>
    -- the clock is read again, and the base of the delay is that time
    have hbased : Agrees s' (u'.add (.based id u'.now)) := hrun.add rfl
    have hnow : (Scheduler.world Scheduler.start).now s' = (u'.now.stamp, s') :=
      congrArg (·, s') hrun.now_eq
    dsimp only
    rw [hnow]
    refine Agrees.report_add (hbased.write id ?_) rfl rfl
    exact (stamped_moved u'.now _ rfl).symm

theorem agrees_deliver {s : Scheduler t} {u : Tracked Traced t} (h : Agrees s u)
    (id : Fin t.machineCount) (wakesSleepers : Bool) (place : Coords) (event : Event) :
    Agrees ((t.machines.get id).deliver (Scheduler.world Scheduler.start) (Scheduler.slot id)
        t.config.timing wakesSleepers place event s)
      (u.deliver id wakesSleepers place event) := by
  unfold Machine.deliver deliver
  refine ite_rel (fun _ => ?_) fun _ => h.report rfl
  have hbefore : (Scheduler.slot id).read s = (u.statuses.get id).stamped := h.status_eq id
  have hnow : (Scheduler.world Scheduler.start).now s = (u.now.stamp, s) :=
    congrArg (·, s) h.now_eq
  rw [hnow]
  dsimp only
  rw [hbefore, show (u.statuses.get id).stamped.state = (u.statuses.get id).state from rfl]
  cases (t.machines.get id).table.get? (u.statuses.get id).state event.code with
  | none => exact h.report rfl
  | some cell =>
    obtain ⟨_ | handler, target⟩ := cell
    · have hforever : Agrees ((Scheduler.slot id).write (u.statuses.get id).stamped.sleepForever s)
          (u.write id (u.statuses.get id).sleepForever) := h.write id rfl
      exact Agrees.report (ite_rel (fun _ => hforever) fun _ => h) rfl
    · dsimp only
      rw [isAsleep_stamped]
      refine ite_rel (fun _ => ?_) fun _ => ?_
      · refine Agrees.report (Agrees.report h ?_) rfl
        split <;> rfl
      · rw [view_eq]
        exact agrees_handle h id handler target _ _

/-! ## Passes -/

theorem scheduled_stamped (status : StatusOn Traced) :
    status.stamped.scheduled = status.scheduled.map Traced.stamp := by
  unfold Status.scheduled StatusOn.scheduled StatusOn.stamped
  split <;> rfl

/-- A consensus is the earliest traced time without the true time. -/
def Meets (consensus : Consensus) (earliest : Option Traced) : Prop :=
  consensus.earliest = earliest.map Traced.stamp

theorem meets_sooner {consensus : Consensus} {earliest other : Option Traced}
    (h : Meets consensus earliest) :
    Meets (consensus.consider (other.map Traced.stamp)) (Clock.sooner earliest other) := by
  unfold Meets Consensus.consider at *
  rw [h]
  cases earliest with
  | none => rfl
  | some a =>
    cases other with
    | none => rfl
    | some b =>
      simp only [Option.map_some, Clock.sooner, Timestamp.earlier]
      exact (apply_ite Traced.stamp (b.stamp.atOrAfter a.stamp = true) a b ▸ rfl)

/-- What the turns of members and groups have so far, with and without
true times. -/
def AgreesSoFar (acc : Consensus × Scheduler t) (traced : Option Traced × Tracked Traced t) :
    Prop :=
  Meets acc.1 traced.1 ∧ Agrees acc.2 traced.2

theorem agrees_visitMember (wakesSleepers : Bool) (event : Option Event)
    {acc : Consensus × Scheduler t} {traced : Option Traced × Tracked Traced t}
    (h : AgreesSoFar acc traced) (member : Coords × Fin t.machineCount) :
    AgreesSoFar (Scheduler.visitMember wakesSleepers event acc member)
      (visitMember wakesSleepers event traced member) := by
  obtain ⟨consensus, s⟩ := acc
  obtain ⟨earliest, u⟩ := traced
  obtain ⟨place, id⟩ := member
  obtain ⟨hmeets, h⟩ := h
  have hinsert {s' : Scheduler t} {u' : Tracked Traced t} (h' : Agrees s' u') :
      AgreesSoFar (consensus.insert ((Scheduler.slot id).read s'), s')
        (Clock.sooner earliest (u'.statuses.get id).scheduled, u') := by
    refine ⟨?_, h'⟩
    have : Meets (consensus.consider ((u'.statuses.get id).scheduled.map Traced.stamp)) _ :=
      meets_sooner hmeets
    rwa [← scheduled_stamped, ← h'.status_eq] at this
  cases event with
  | none => exact hinsert h
  | some event => exact hinsert (agrees_deliver h id wakesSleepers place event)

theorem agrees_visitGroup (wakesSleepers : Bool) {acc : Consensus × Scheduler t}
    {traced : Option Traced × Tracked Traced t} (h : AgreesSoFar acc traced)
    (g : Fin t.groupCount) :
    AgreesSoFar (Scheduler.visitGroup wakesSleepers acc g) (visitGroup wakesSleepers traced g) := by
  obtain ⟨consensus, s⟩ := acc
  obtain ⟨earliest, u⟩ := traced
  obtain ⟨hmeets, h⟩ := h
  have hnoted : Agrees (s.note (.visiting (t.groupId g))) u := h.report rfl
  -- the members' turns, whatever was popped
  have hmembers {s' : Scheduler t} {u' : Tracked Traced t} (event : Option Event) (more : Bool)
      (h' : Agrees s' u') :
      let own := (t.placed g).foldl (Scheduler.visitMember wakesSleepers event) (.idle, s')
      let traced := (t.placed g).foldl (visitMember wakesSleepers event) (none, u')
      AgreesSoFar (consensus.merge own.1, if more then own.2.markQueued else own.2)
        (Clock.sooner earliest traced.1, if more then traced.2.markQueued else traced.2) := by
    intro own traced
    have hfold : AgreesSoFar own traced :=
      List.foldl_rel ⟨rfl, h'⟩ fun member _ _ _ h => agrees_visitMember wakesSleepers event h member
    refine ⟨?_, ite_rel (fun _ => hfold.2.markQueued) fun _ => hfold.2⟩
    have : Meets (consensus.consider (traced.1.map Traced.stamp)) _ := meets_sooner hmeets
    rwa [← hfold.1] at this
  unfold Scheduler.visitGroup visitGroup popFrom
  dsimp only
  have hqueue : (s.note (.visiting (t.groupId g))).queues.get g = u.queues.get g := by
    rw [hnoted.queues_eq]
  rw [hqueue]
  cases (u.queues.get g).pop with
  | none => exact hmembers none false (hnoted.report rfl)
  | some popped => exact hmembers (some popped.1) (!popped.2.isEmpty) (hnoted.setQueue g popped.2)

theorem agrees_visitAll {s : Scheduler t} {u : Tracked Traced t} (h : Agrees s u) :
    AgreesSoFar s.visitAll u.visitAll := by
  unfold Scheduler.visitAll visitAll
  rw [h.flags_eq]
  exact List.foldl_rel ⟨rfl, h⟩ fun g _ _ _ h => agrees_visitGroup _ h g

theorem agrees_settle {s : Scheduler t} {u : Tracked Traced t} (h : Agrees s u)
    {consensus : Consensus} {earliest : Option Traced} (hmeets : Meets consensus earliest) :
    Agrees (s.settle consensus) (u.settle earliest) := by
  obtain ⟨_⟩ := consensus
  cases hmeets
  have hscheduled : Agrees (s.schedule ⟨earliest.map Traced.stamp⟩).endStartup
      (u.schedule earliest) := by
    obtain ⟨u, journal, h⟩ := h
    cases earliest with
    | none => exact .intro (u.schedule none) journal h
    | some wakeup => exact .intro (u.schedule (some wakeup)) journal h
  unfold Scheduler.settle settle
  dsimp only
  rw [apply_ite Scheduler.endStartup]
  obtain ⟨u, journal, h⟩ := h
  cases earliest with
  | none => exact ite_rel (fun _ => hscheduled.rebase) fun _ => hscheduled
  | some wakeup => exact ite_rel (fun _ => hscheduled.rebase) fun _ => hscheduled

/-- What a pass ends with, with and without true times. -/
def AgreesAtEnd (ending : Step × Scheduler t) (traced : StepOn Traced × Tracked Traced t) : Prop :=
  ending.1 = traced.1.stamped ∧ Agrees ending.2 traced.2

theorem agrees_commit {s : Scheduler t} {u : Tracked Traced t} (h : Agrees s u)
    {consensus : Consensus} {earliest : Option Traced} (hmeets : Meets consensus earliest) :
    AgreesAtEnd (s.commit consensus) (u.commit earliest) := by
  have hdue : s.isDue consensus = u.isDue earliest := by
    unfold Scheduler.isDue isDue
    rw [hmeets, h.now_eq]
    cases earliest <;> rfl
  have hsettle := agrees_settle h hmeets
  have hscheduled : (s.settle consensus).scheduled =
      (u.settle earliest).scheduled.map Traced.stamp := by
    unfold Scheduler.scheduled scheduled
    rw [hsettle.flags_eq, hsettle.wakeup_eq]
    split <;> rfl
  unfold Scheduler.commit commit
  rw [hdue]
  refine ite_rel (fun _ => ⟨rfl, h.fireTimeout⟩) fun _ => ⟨?_, ?_⟩
  · exact congrArg Step.sleep hscheduled
  · exact (hsettle.report rfl).report rfl

/-- **Passes agree**: they end with the same step in the same state. -/
theorem agrees_pass {s : Scheduler t} {u : Tracked Traced t} (h : Agrees s u) :
    AgreesAtEnd s.pass u.pass := by
  have hstart : Agrees s.inPass u.inPass := by
    obtain ⟨u, journal, h⟩ := h
    exact .intro u.inPass journal h
  obtain ⟨hmeets, hvisited⟩ := agrees_visitAll hstart
  unfold Scheduler.pass pass
  dsimp only
  rw [hstart.flags_eq]
  refine ite_rel (fun _ => ⟨rfl, hstart.report rfl⟩) fun _ => ?_
  rw [hvisited.flags_eq]
  exact ite_rel (fun _ => ⟨rfl, hvisited.report rfl⟩) fun _ => agrees_commit hvisited hmeets

/-! ## Runs -/

theorem agrees_perform {s : Scheduler t} {u : Tracked Traced t} (h : Agrees s u)
    (operation : Operation) :
    Agrees (s.perform operation) (u.perform operation) := by
  cases operation with
  | start => exact agrees_start h
  | reset => exact agrees_start (h.report rfl).rewind
  | post group forceNew event => exact (h.post group forceNew event).2
  | broadcast forceNew event => exact h.broadcast forceNew event
  | advance ticks => exact h.advance ticks
  | heartbeat =>
    simp only [Scheduler.perform, perform, Scheduler.heartbeat, heartbeat, h.now_eq]
    exact h.advance _
  | requestExit => exact h.requestExit
  | wake => exact h.wake
  | takeWake =>
    obtain ⟨u, journal, h⟩ := h
    exact .intro { u with latch := .clear } journal h
  | pass => exact (agrees_pass h).2

/-- **A scheduler agrees with its traced twin**, whatever is done to
both. -/
theorem agrees_performAll {memory : μ} {s : Scheduler t} (h : Scheduler.build t memory = .ok s)
    (operations : List Operation) :
    Agrees (s.performAll operations) ((initial t memory).performAll operations) := by
  have hbuilt : Agrees s (initial t memory) := by
    obtain ⟨-, rfl⟩ := Scheduler.eq_of_build h
    have hjournal : Tells #[.note (.assembled t.config.name t.groupCount t.machineCount)]
        (initial (τ := Traced) t memory).log := rfl
    have herased := Agrees.intro (initial t memory) _ hjournal
    simp only [erase, initial, Vector.map_replicate] at herased
    exact herased
  exact List.foldl_rel hbuilt fun operation _ _ _ h => agrees_perform h operation

end Tracked

end TimedMachines
