import TimedMachines.Proofs.Operation

/-!
# A scheduler and its chronicle

What a scheduler did cannot be read off the state that it is in: a queue
does not know what passed through it, and a machine not who woke it.
`Chronicled t` is a scheduler for `t` that keeps a **chronicle** beside
its state. Every push on a queue and every event taken from one is an
incident in it, every delivery to a member, every return to startup, and
whatever handlers do to the world around them; and with each incident
stands the state it led to.

Keeping a chronicle changes nothing else (`scheduler_performAll`,
`scheduler_passes`): handlers run in a world that keeps more than theirs,
which they cannot tell. So what the chronicle says of a run is said of
the run of the scheduler itself.

`Chronicled.Kept` has the changes that can happen between two deliveries,
`Chronicled.Passing` those of a pass, and `Chronicled.Lasting` all there
are.
-/

namespace TimedMachines

variable {μ : Type} {t : Topology μ}

/-- **What can happen to a scheduler** that is worth remembering. -/
inductive Incident (t : Topology μ) where
  /-- A handler posted an event to a group. -/
  | posted (group : UInt8) (forceNew : Bool) (event : Event)
  /-- A handler asked something of the scheduler. -/
  | asked (request : Request)
  /-- A machine or its handler reported something. -/
  | reported (entry : Entry)
  /-- An event was pushed on a group's queue, with an answer. -/
  | pushed (g : Fin t.groupCount) (event : Event) (answer : Except Error Enqueued)
  /-- The scheduler went back to startup. -/
  | rewound
  /-- A group had its turn in a pass, for which it took an event from its
  queue if there was one. -/
  | turn (g : Fin t.groupCount) (event : Option Event)
  /-- An event was handed to a machine at one of its places. -/
  | handed (place : Coords) (id : Fin t.machineCount) (event : Event)

namespace Incident

/-- Whether an incident is a handler's or a machine's doing, which by
itself leaves the queues as they are. -/
def isQuiet : Incident t → Bool
  | .posted .. | .asked _ | .reported _ => true
  | _ => false

/-- Whether an incident is a step of a pass. -/
def isDelivery : Incident t → Bool
  | .turn .. | .handed .. => true
  | _ => false

theorem isDelivery_of_isQuiet {incident : Incident t} (h : incident.isQuiet = true) :
    incident.isDelivery = false := by
  cases incident with
  | posted _ _ _ | asked _ | reported _ => rfl
  | pushed _ _ _ | rewound | turn _ _ | handed _ _ _ => cases h

end Incident

/-- **An incident and the state it led to.** -/
structure Moment (t : Topology μ) where
  /-- What happened. -/
  incident : Incident t
  /-- The scheduler then. -/
  scheduler : Scheduler t

/-- **A scheduler with a chronicle**, the newest moment first. -/
structure Chronicled (t : Topology μ) where
  /-- The scheduler. -/
  scheduler : Scheduler t
  /-- What happened so far. -/
  chronicle : List (Moment t)

namespace Chronicled

/-- A scheduler whose chronicle begins. -/
def of (s : Scheduler t) : Chronicled t :=
  ⟨s, []⟩

/-- Changes the scheduler. -/
def update (f : Scheduler t → Scheduler t) (u : Chronicled t) : Chronicled t :=
  { u with scheduler := f u.scheduler }

/-- Adds what just happened to the chronicle. -/
def add (incident : Incident t) (u : Chronicled t) : Chronicled t :=
  { u with chronicle := ⟨incident, u.scheduler⟩ :: u.chronicle }

/-! ## Producers -/

/-- Posts an event to a group, whose queue is pushed on if there is such a
group. -/
def post (group : UInt8) (forceNew : Bool) (event : Event) (u : Chronicled t) :
    Except Error Enqueued × Chronicled t :=
  let (answer, s) := u.scheduler.post group forceNew event
  match t.group? group with
  | .error _ => (answer, u.update fun _ => s)
  | .ok g => (answer, (u.update fun _ => s).add (.pushed g event answer))

/-- Posts an event to one of all groups. -/
def postNext (forceNew : Bool) (event : Event) (u : Chronicled t) (g : Fin t.groupCount) :
    Chronicled t :=
  ((u.update (Scheduler.note (.queuing (t.groupId g)))).post (t.groupId g) forceNew event).2

/-- Posts an event to every group. -/
def broadcast (forceNew : Bool) (event : Event) (u : Chronicled t) : Chronicled t :=
  t.allGroups.foldl (postNext forceNew event) u

/-- Posts the timeout of a wakeup that has been reached. -/
def fireTimeout (u : Chronicled t) : Chronicled t :=
  (u.update (Scheduler.note .wakeupReached)).broadcast false .timeout

/-- Sets the clock. -/
def advance (ticks : Ticks) (u : Chronicled t) : Chronicled t :=
  let u := u.update fun s => { s with now := s.now.advanceTo ticks }
  if u.scheduler.flags.infiniteSleep then
    if u.scheduler.flags.eventQueued then u.update Scheduler.wake else u
  else if u.scheduler.now.atOrAfter u.scheduler.wakeup then
    u.fireTimeout
  else
    u

/-- Advances the clock by one tick. -/
def heartbeat (u : Chronicled t) : Chronicled t :=
  u.advance (u.scheduler.now.ticks + 1)

/-! ## Startup -/

/-- Goes back to startup. -/
def rewind (u : Chronicled t) : Chronicled t :=
  (u.update Scheduler.rewind).add .rewound

/-- Goes back to startup and then runs `start`. -/
def resetWith (start : Chronicled t → Chronicled t) (u : Chronicled t) : Chronicled t :=
  start (u.update (Scheduler.note .resetting)).rewind

/-- Carries out a request. -/
def comply (start : Chronicled t → Chronicled t) (u : Chronicled t) : Request → Chronicled t
  | .advance ticks => u.advance ticks
  | .heartbeat => u.heartbeat
  | .broadcast forceNew event => u.broadcast forceNew event
  | .exit => u.update Scheduler.requestExit
  | .reset => u.resetWith start
  | .start => start u

/-- How the scheduler carries out the actions of its handlers, each of
which is an incident of its own. -/
def world (start : Chronicled t → Chronicled t) : World (Chronicled t) μ where
  now u := (u.scheduler.now, u)
  post group forceNew event u := (u.add (.posted group forceNew event)).post group forceNew event
  ask request u := (u.add (.asked request)).comply start request
  consult u := u.scheduler.memory
  amend change u := u.update fun s => { s with memory := change s.memory }
  report entry u := (u.update (Scheduler.report entry)).add (.reported entry)

/-- Where the scheduler keeps the status of a machine. -/
def slot (id : Fin t.machineCount) : Slot (Chronicled t) where
  read u := (Scheduler.slot id).read u.scheduler
  write status u := u.update ((Scheduler.slot id).write status)

/-- Runs the initialization handlers of all members of a group. -/
def prepareGroup (w : World (Chronicled t) μ) (u : Chronicled t) (g : Fin t.groupCount) :
    Chronicled t :=
  (t.placed g).foldl (fun u (place, id) => (t.machines.get id).prepare w (slot id) place u) u

/-- Runs the initialization handlers of all members of all groups. -/
def prepareAll (w : World (Chronicled t) μ) (u : Chronicled t) : Chronicled t :=
  t.allGroups.foldl (prepareGroup w) u

/-- Starts, with at most `depth` starts nested within. -/
def startWithin : Nat → Chronicled t → Chronicled t
  | 0 => prepareAll (world id)
  | depth + 1 => prepareAll (world (startWithin depth))

/-- Starts: every initialization handler runs. -/
def start (u : Chronicled t) : Chronicled t :=
  u.startWithin t.config.nesting

/-- Goes back to startup and starts. -/
def reset (u : Chronicled t) : Chronicled t :=
  u.resetWith start

/-! ## Passes -/

/-- Hands an event to a member. -/
def hand (wakesSleepers : Bool) (event : Event) (member : Coords × Fin t.machineCount)
    (u : Chronicled t) : Chronicled t :=
  (t.machines.get member.2).deliver (world start) (slot member.2) t.config.timing wakesSleepers
    member.1 event (u.add (.handed member.1 member.2 event))

/-- Gives the event, if there is one, to a member, and asks it for its
wakeup. -/
def visitMember (wakesSleepers : Bool) (event : Option Event) (acc : Consensus × Chronicled t)
    (member : Coords × Fin t.machineCount) : Consensus × Chronicled t :=
  let u :=
    match event with
    | some event => hand wakesSleepers event member acc.2
    | none => acc.2
  (acc.1.insert ((slot member.2).read u), u)

/-- Begins a group's turn: its oldest event, whether it keeps more, and
the scheduler without that event. -/
def turn (g : Fin t.groupCount) (u : Chronicled t) : Option Event × Bool × Chronicled t :=
  let u := u.update (Scheduler.note (.visiting (t.groupId g)))
  match (u.scheduler.queues.get g).pop with
  | some (event, rest) =>
    (some event, !rest.isEmpty,
      (u.update fun s => { s with queues := s.queues.put g rest }).add (.turn g (some event)))
  | none =>
    (none, false,
      (u.update (Scheduler.note (.nothingPending (t.groupId g)))).add (.turn g none))

/-- A group's turn. -/
def visitGroup (wakesSleepers : Bool) (acc : Consensus × Chronicled t) (g : Fin t.groupCount) :
    Consensus × Chronicled t :=
  let (event, more, u) := acc.2.turn g
  let (own, u) := (t.placed g).foldl (visitMember wakesSleepers event) (.idle, u)
  (acc.1.merge own, if more then u.update Scheduler.markQueued else u)

/-- All groups' turns. -/
def visitAll (u : Chronicled t) : Consensus × Chronicled t :=
  t.allGroups.foldl (visitGroup u.scheduler.flags.timeoutWakesSleepers) (.idle, u)

/-- Sleep or timeout. -/
def commit (consensus : Consensus) (u : Chronicled t) : Step × Chronicled t :=
  if u.scheduler.isDue consensus then
    (.again, u.fireTimeout)
  else
    ((u.scheduler.commit consensus).1, u.update fun s => (s.commit consensus).2)

/-- One pass. -/
def pass (u : Chronicled t) : Step × Chronicled t :=
  let u := u.update Scheduler.inPass
  if u.scheduler.flags.exitRequested then
    (.exit, u.update (Scheduler.note .exiting))
  else
    let (consensus, u) := u.visitAll
    if u.scheduler.flags.eventQueued then
      (.again, u.update (Scheduler.note .backlog))
    else
      u.commit consensus

/-- At most `bound` passes, up to the first that is the last for now. -/
def passes : Nat → Chronicled t → List Step × Chronicled t
  | 0, u => ([], u)
  | bound + 1, u =>
    match u.pass with
    | (.again, u) =>
      let (steps, u) := passes bound u
      (.again :: steps, u)
    | (step, u) => ([step], u)

/-- The scheduler after an operation. -/
def perform (u : Chronicled t) : Operation → Chronicled t
  | .start => u.start
  | .reset => u.reset
  | .post group forceNew event => (u.post group forceNew event).2
  | .broadcast forceNew event => u.broadcast forceNew event
  | .advance ticks => u.advance ticks
  | .heartbeat => u.heartbeat
  | .requestExit => u.update Scheduler.requestExit
  | .wake => u.update Scheduler.wake
  | .takeWake => u.update Scheduler.clearWake
  | .pass => u.pass.2

/-- The scheduler after some operations. -/
def performAll (u : Chronicled t) (operations : List Operation) : Chronicled t :=
  operations.foldl perform u

/-! ## The chronicle changes nothing -/

/-- The scheduler beside an outcome. -/
def forget {α : Type} (outcome : α × Chronicled t) : α × Scheduler t :=
  (outcome.1, outcome.2.scheduler)

@[simp] theorem scheduler_of (s : Scheduler t) : (of s).scheduler = s := rfl

@[simp] theorem scheduler_update (f : Scheduler t → Scheduler t) (u : Chronicled t) :
    (u.update f).scheduler = f u.scheduler := rfl

@[simp] theorem scheduler_add (incident : Incident t) (u : Chronicled t) :
    (u.add incident).scheduler = u.scheduler := rfl

theorem scheduler_post (group : UInt8) (forceNew : Bool) (event : Event) (u : Chronicled t) :
    u.scheduler.post group forceNew event = forget (u.post group forceNew event) := by
  unfold post
  cases t.group? group with
  | error e => rfl
  | ok g => rfl

theorem scheduler_broadcast (forceNew : Bool) (event : Event) (u : Chronicled t) :
    (u.broadcast forceNew event).scheduler = u.scheduler.broadcast forceNew event := by
  refine (List.foldl_hom scheduler fun u g => ?_).symm
  exact congrArg Prod.snd (scheduler_post _ forceNew event (u.update _))

theorem scheduler_fireTimeout (u : Chronicled t) :
    u.fireTimeout.scheduler = u.scheduler.fireTimeout :=
  scheduler_broadcast _ _ _

theorem scheduler_advance (ticks : Ticks) (u : Chronicled t) :
    (u.advance ticks).scheduler = u.scheduler.advance ticks := by
  unfold advance Scheduler.advance
  dsimp only
  rw [apply_ite scheduler, apply_ite scheduler, apply_ite scheduler, scheduler_fireTimeout]
  rfl

/-- **The world of a chronicle keeps more** than that of its scheduler. -/
theorem extends_world {start : Chronicled t → Chronicled t} {start' : Scheduler t → Scheduler t}
    (hstart : ∀ u, (start u).scheduler = start' u.scheduler) :
    (world start).Extends (Scheduler.world start') scheduler where
  now _ := rfl
  post group forceNew event u := scheduler_post group forceNew event (u.add _)
  ask request u := by
    cases request with
    | advance ticks => exact (scheduler_advance ticks (u.add _)).symm
    | heartbeat => exact (scheduler_advance _ (u.add _)).symm
    | broadcast forceNew event => exact (scheduler_broadcast forceNew event (u.add _)).symm
    | exit => rfl
    | reset => exact (hstart ((u.add _).update _).rewind).symm
    | start => exact (hstart (u.add _)).symm
  consult _ := rfl
  amend _ _ := rfl
  report _ _ := rfl

theorem extends_slot (id : Fin t.machineCount) :
    (slot id).Extends (Scheduler.slot id) scheduler where
  read _ := rfl
  write _ _ := rfl

theorem scheduler_prepareAll {w : World (Chronicled t) μ} {v : World (Scheduler t) μ}
    (hw : w.Extends v scheduler) (u : Chronicled t) :
    (prepareAll w u).scheduler = Scheduler.prepareAll v u.scheduler := by
  have hgroup (u : Chronicled t) (g : Fin t.groupCount) :
      (t.placed g).foldl (fun s (place, id) =>
        (t.machines.get id).prepare v (Scheduler.slot id) place s) u.scheduler =
        (prepareGroup w u g).scheduler :=
    List.foldl_hom scheduler fun u member =>
      Machine.prepare_extends hw (extends_slot member.2) _ member.1 u
  exact (@List.foldl_hom _ _ _ scheduler _ _ _ u hgroup).symm

theorem scheduler_start (u : Chronicled t) : u.start.scheduler = u.scheduler.start := by
  have hwithin (depth : Nat) :
      ∀ u : Chronicled t, (u.startWithin depth).scheduler = u.scheduler.startWithin depth := by
    induction depth with
    | zero => exact scheduler_prepareAll (extends_world fun _ => rfl)
    | succ depth ih => exact scheduler_prepareAll (extends_world ih)
  exact hwithin _ u

theorem scheduler_hand (wakesSleepers : Bool) (event : Event)
    (member : Coords × Fin t.machineCount) (u : Chronicled t) :
    (hand wakesSleepers event member u).scheduler =
      (t.machines.get member.2).deliver (Scheduler.world Scheduler.start) (Scheduler.slot member.2)
        t.config.timing wakesSleepers member.1 event u.scheduler :=
  (Machine.deliver_extends (extends_world scheduler_start) (extends_slot member.2) _ _ _ _ _
    (u.add _)).symm

theorem forget_visitMember (wakesSleepers : Bool) (event : Option Event)
    (acc : Consensus × Chronicled t) (member : Coords × Fin t.machineCount) :
    Scheduler.visitMember wakesSleepers event (forget acc) member =
      forget (visitMember wakesSleepers event acc member) := by
  cases event with
  | none => rfl
  | some event =>
    simp only [Scheduler.visitMember, forget, visitMember, slot, scheduler_hand]

theorem forget_visitGroup (wakesSleepers : Bool) (acc : Consensus × Chronicled t)
    (g : Fin t.groupCount) :
    Scheduler.visitGroup wakesSleepers (forget acc) g =
      forget (visitGroup wakesSleepers acc g) := by
  have hturn (event : Option Event) (more : Bool) (u : Chronicled t) :
      let own := (t.placed g).foldl (visitMember wakesSleepers event) (.idle, u)
      let own' := (t.placed g).foldl (Scheduler.visitMember wakesSleepers event)
        (.idle, u.scheduler)
      (acc.1.merge own'.1, if more then own'.2.markQueued else own'.2) =
        forget (acc.1.merge own.1, if more then own.2.update Scheduler.markQueued else own.2) := by
    have hown : (t.placed g).foldl (Scheduler.visitMember wakesSleepers event)
        (.idle, u.scheduler) = forget ((t.placed g).foldl (visitMember wakesSleepers event)
          (.idle, u)) :=
      @List.foldl_hom _ _ _ forget _ _ _ (Consensus.idle, u)
        (forget_visitMember wakesSleepers event)
    rw [hown]
    cases more <;> rfl
  unfold Scheduler.visitGroup visitGroup turn
  dsimp only [forget, scheduler_update]
  cases ((acc.2.scheduler.note (.visiting (t.groupId g))).queues.get g).pop with
  | none =>
    exact hturn none false (((acc.2.update (Scheduler.note (.visiting (t.groupId g)))).update
      (Scheduler.note (.nothingPending (t.groupId g)))).add (.turn g none))
  | some popped =>
    obtain ⟨event, rest⟩ := popped
    exact hturn (some event) (!rest.isEmpty)
      (((acc.2.update (Scheduler.note (.visiting (t.groupId g)))).update fun s =>
        { s with queues := s.queues.put g rest }).add (.turn g (some event)))

theorem forget_visitAll (u : Chronicled t) :
    u.scheduler.visitAll = forget u.visitAll :=
  @List.foldl_hom _ _ _ forget _ _ _ (Consensus.idle, u)
    (forget_visitGroup u.scheduler.flags.timeoutWakesSleepers)

theorem forget_commit (consensus : Consensus) (u : Chronicled t) :
    u.scheduler.commit consensus = forget (u.commit consensus) := by
  unfold commit
  rw [apply_ite forget]
  split
  · next hdue => simp only [Scheduler.commit, hdue, if_true, forget, scheduler_fireTimeout]
  · rfl

/-- **A pass is the same with a chronicle**: it ends alike and in the same
state. -/
theorem scheduler_pass (u : Chronicled t) : u.scheduler.pass = forget u.pass := by
  have hvisit : u.scheduler.inPass.visitAll = forget (u.update Scheduler.inPass).visitAll :=
    forget_visitAll (u.update Scheduler.inPass)
  unfold Scheduler.pass pass
  dsimp only
  rw [hvisit, apply_ite forget, apply_ite forget, ← forget_commit]
  rfl

theorem scheduler_passes (bound : Nat) (u : Chronicled t) :
    u.scheduler.passes bound = forget (u.passes bound) := by
  induction bound generalizing u with
  | zero => rfl
  | succ bound ih =>
    unfold Scheduler.passes passes
    rw [scheduler_pass]
    obtain ⟨step, v⟩ := u.pass
    cases step with
    | again =>
      simp only [forget, ih]
    | sleep _ | exit => rfl

theorem scheduler_perform (u : Chronicled t) (operation : Operation) :
    (u.perform operation).scheduler = u.scheduler.perform operation := by
  cases operation with
  | start => exact scheduler_start u
  | reset => exact scheduler_start _
  | post group forceNew event =>
    exact (congrArg Prod.snd (scheduler_post group forceNew event u)).symm
  | broadcast forceNew event => exact scheduler_broadcast forceNew event u
  | advance ticks => exact scheduler_advance ticks u
  | heartbeat => exact scheduler_advance _ u
  | pass => exact (congrArg Prod.snd (scheduler_pass u)).symm
  | requestExit | wake | takeWake => rfl

/-- **A run is the same with a chronicle.** -/
theorem scheduler_performAll (u : Chronicled t) (operations : List Operation) :
    (u.performAll operations).scheduler = u.scheduler.performAll operations :=
  (List.foldl_hom scheduler fun u operation => (scheduler_perform u operation).symm).symm

/-! ## What the elementary changes keep -/

/-- **Kept by producers** that only post: by changes that leave the queues
and the request to exit alone, and by pushes. -/
structure Standing (P : Chronicled t → Prop) : Prop where
  update : ∀ (f : Scheduler t → Scheduler t) (u : Chronicled t),
    (f u.scheduler).queues = u.scheduler.queues →
    (f u.scheduler).flags.exitRequested = u.scheduler.flags.exitRequested → P u → P (u.update f)
  post : ∀ group forceNew event u, P u → P (u.post group forceNew event).2

/-- **Kept between deliveries**: also by what handlers do, and by returns
to startup. -/
structure Kept (P : Chronicled t → Prop) : Prop extends Standing P where
  quiet : ∀ (incident : Incident t) (u : Chronicled t), incident.isQuiet = true → P u →
    P (u.add incident)
  exit : ∀ u : Chronicled t, P u → P ((u.add (.asked .exit)).update Scheduler.requestExit)
  rewind : ∀ u : Chronicled t, P u → P u.rewind

/-- **Kept by passes**: also when a group's turn begins, and when an event
is handed to a machine. -/
structure Passing (P : Chronicled t → Prop) : Prop extends Standing P where
  turn : ∀ g (u : Chronicled t), P u → P (u.turn g).2.2
  hand : ∀ wakesSleepers event member (u : Chronicled t), P u →
    P (hand wakesSleepers event member u)

/-- **Kept by everything**, whatever the machines do with an event. -/
structure Lasting (P : Chronicled t → Prop) : Prop extends Kept P where
  requestExit : ∀ u : Chronicled t, P u → P (u.update Scheduler.requestExit)
  turn : ∀ g (u : Chronicled t), P u → P (u.turn g).2.2
  handed : ∀ place id event (u : Chronicled t), P u → P (u.add (.handed place id event))

namespace Standing

variable {P : Chronicled t → Prop}

theorem broadcast (hP : Standing P) (forceNew : Bool) (event : Event) (u : Chronicled t)
    (h : P u) :
    P (u.broadcast forceNew event) :=
  List.foldlRecOn _ _ h fun u h _ _ => hP.post _ _ _ _ (hP.update _ u rfl rfl h)

theorem fireTimeout (hP : Standing P) (u : Chronicled t) (h : P u) : P u.fireTimeout :=
  hP.broadcast _ _ _ (hP.update _ u rfl rfl h)

theorem advance (hP : Standing P) (ticks : Ticks) (u : Chronicled t) (h : P u) :
    P (u.advance ticks) := by
  have hnow := hP.update (fun s => { s with now := s.now.advanceTo ticks }) u rfl rfl h
  unfold Chronicled.advance
  dsimp only
  split
  · split
    · exact hP.update _ _ rfl rfl hnow
    · exact hnow
  · split
    · exact hP.fireTimeout _ hnow
    · exact hnow

end Standing

/-- **What handlers keep** if what they mean by a start does, and a change
of a machine's status too, starts keep, however deep they nest. -/
theorem start_keeps {P : Chronicled t → Prop}
    (hworld : ∀ start : Chronicled t → Chronicled t, (∀ u, P u → P (start u)) →
      (world start).Keeps (fun _ => True) P)
    (hwrite : ∀ id status (u : Chronicled t), P u → P ((slot id).write status u))
    (u : Chronicled t) (h : P u) :
    P u.start := by
  have hprepare {w : World (Chronicled t) μ} (hw : w.Keeps (fun _ => True) P) (u : Chronicled t)
      (h : P u) : P (prepareAll w u) :=
    List.foldlRecOn _ _ h fun _ h _ _ => List.foldlRecOn _ _ h fun u h member _ =>
      Machine.prepare_keeps hw (hwrite member.2) (fun _ _ _ => Act.asks_any _) _ u h
  have hwithin (depth : Nat) : ∀ u : Chronicled t, P u → P (u.startWithin depth) := by
    induction depth with
    | zero => exact hprepare (hworld _ fun _ h => h)
    | succ depth ih => exact hprepare (hworld _ ih)
  exact hwithin _ u h

namespace Kept

variable {P : Chronicled t → Prop}

/-- All handlers keep it, if what they mean by a start does. -/
theorem keeps_world (hP : Kept P) {start : Chronicled t → Chronicled t}
    (hstart : ∀ u, P u → P (start u)) :
    (Chronicled.world start).Keeps (fun _ => True) P where
  now _ h := h
  post group forceNew event u h := hP.post _ _ _ _ (hP.quiet _ u rfl h)
  ask request u _ h := by
    have hasked := hP.quiet (.asked request) u rfl h
    cases request with
    | advance ticks => exact hP.advance ticks _ hasked
    | heartbeat => exact hP.advance _ _ hasked
    | broadcast forceNew event => exact hP.broadcast forceNew event _ hasked
    | exit => exact hP.exit u h
    | reset => exact hstart _ (hP.rewind _ (hP.update _ _ rfl rfl hasked))
    | start => exact hstart _ hasked
  amend change u h := hP.update (fun s => { s with memory := change s.memory }) u rfl rfl h
  report entry u h := hP.quiet _ _ rfl (hP.update (Scheduler.report entry) u rfl rfl h)

theorem write (hP : Kept P) (id : Fin t.machineCount) (status : Status) (u : Chronicled t)
    (h : P u) :
    P ((slot id).write status u) :=
  hP.update _ u rfl rfl h

/-- Starts keep it. -/
theorem start (hP : Kept P) (u : Chronicled t) (h : P u) : P u.start :=
  start_keeps (fun _ => hP.keeps_world) hP.write u h

/-- **What machines do with an event keeps it.** -/
theorem deliver (hP : Kept P) (id : Fin t.machineCount) (wakesSleepers : Bool) (place : Coords)
    (event : Event) (u : Chronicled t) (h : P u) :
    P ((t.machines.get id).deliver (Chronicled.world Chronicled.start) (slot id) t.config.timing
      wakesSleepers place event u) :=
  Machine.deliver_keeps (hP.keeps_world hP.start) (hP.write id) (fun _ _ _ => Act.asks_any _)
    _ _ _ _ u h

/-- Of chronicles alone, what no incident but a delivery ends is kept. -/
theorem of_chronicle {P : List (Moment t) → Prop}
    (hP : ∀ (m : Moment t) older, m.incident.isDelivery = false → P older → P (m :: older)) :
    Kept fun u : Chronicled t => P u.chronicle where
  update _ _ _ _ h := h
  post group forceNew event u h := by
    unfold Chronicled.post
    cases t.group? group with
    | error e => exact h
    | ok g => exact hP _ _ rfl h
  quiet _ _ hquiet h := hP _ _ (Incident.isDelivery_of_isQuiet hquiet) h
  exit _ h := hP _ _ rfl h
  rewind _ h := hP _ _ rfl h

end Kept

/-- Committing to a wakeup that is not due leaves the queues alone, and a
request to exit too. -/
theorem queues_commit {consensus : Consensus} {s : Scheduler t} (h : s.isDue consensus = false) :
    (s.commit consensus).2.queues = s.queues ∧
      (s.commit consensus).2.flags.exitRequested = s.flags.exitRequested := by
  unfold Scheduler.commit Scheduler.settle
  rw [if_neg (ne_true_of_eq_false h)]
  dsimp only
  split <;> exact ⟨rfl, rfl⟩

namespace Passing

variable {P : Chronicled t → Prop}

theorem visitGroup (hP : Passing P) (wakesSleepers : Bool) (acc : Consensus × Chronicled t)
    (g : Fin t.groupCount) (h : P acc.2) :
    P (visitGroup wakesSleepers acc g).2 := by
  have hmembers (event : Option Event) (u : Chronicled t) (hu : P u) :
      P ((t.placed g).foldl (visitMember wakesSleepers event) (.idle, u)).2 := by
    refine List.foldlRecOn (motive := fun acc : Consensus × Chronicled t => P acc.2) _ _ hu
      fun acc hacc member _ => ?_
    cases event with
    | none => exact hacc
    | some event => exact hP.hand _ _ _ _ hacc
  unfold Chronicled.visitGroup
  dsimp only
  split
  · exact hP.update _ _ rfl rfl (hmembers _ _ (hP.turn g _ h))
  · exact hmembers _ _ (hP.turn g _ h)

theorem visitAll (hP : Passing P) (u : Chronicled t) (h : P u) : P u.visitAll.2 :=
  List.foldlRecOn (motive := fun acc : Consensus × Chronicled t => P acc.2) _ _ h
    fun acc hacc g _ => hP.visitGroup _ acc g hacc

theorem commit (hP : Passing P) (consensus : Consensus) (u : Chronicled t) (h : P u) :
    P (u.commit consensus).2 := by
  unfold Chronicled.commit
  split
  · exact hP.fireTimeout u h
  · next hdue =>
    obtain ⟨hqueues, hexit⟩ := queues_commit (Bool.eq_false_iff.mpr hdue)
    exact hP.update (fun s => (s.commit consensus).2) u hqueues hexit h

theorem pass (hP : Passing P) (u : Chronicled t) (h : P u) : P u.pass.2 := by
  have hbegun := hP.update Scheduler.inPass u rfl rfl h
  have hvisited := hP.visitAll _ hbegun
  unfold Chronicled.pass
  dsimp only
  split
  · exact hP.update _ _ rfl rfl hbegun
  · split
    · exact hP.update _ _ rfl rfl hvisited
    · exact hP.commit _ _ hvisited

/-- **Any number of passes keeps it.** -/
theorem passes (hP : Passing P) (bound : Nat) (u : Chronicled t) (h : P u) :
    P (u.passes bound).2 := by
  induction bound generalizing u with
  | zero => exact h
  | succ bound ih =>
    have hpass := hP.pass u h
    unfold Chronicled.passes
    split
    · next v heq =>
      rw [heq] at hpass
      exact ih v hpass
    · next step v _ heq =>
      rw [heq] at hpass
      exact hpass

end Passing

namespace Lasting

variable {P : Chronicled t → Prop}

theorem passing (hP : Lasting P) : Passing P where
  toStanding := hP.toStanding
  turn := hP.turn
  hand _ _ _ u h := hP.deliver _ _ _ _ _ (hP.handed _ _ _ u h)

theorem perform (hP : Lasting P) (operation : Operation) (u : Chronicled t) (h : P u) :
    P (u.perform operation) := by
  cases operation with
  | start => exact hP.start u h
  | reset => exact hP.start _ (hP.rewind _ (hP.update _ u rfl rfl h))
  | post group forceNew event => exact hP.post group forceNew event u h
  | broadcast forceNew event => exact hP.broadcast forceNew event u h
  | advance ticks => exact hP.advance ticks u h
  | heartbeat => exact hP.advance _ u h
  | requestExit => exact hP.requestExit u h
  | wake | takeWake => exact hP.update _ u rfl rfl h
  | pass => exact hP.passing.pass u h

/-- **Runs keep it.** -/
theorem performAll (hP : Lasting P) (operations : List Operation) (u : Chronicled t) (h : P u) :
    P (u.performAll operations) :=
  List.foldlRecOn _ _ h fun u h operation _ => hP.perform operation u h

/-- Of chronicles alone, what no incident ends lasts. -/
theorem of_chronicle {P : List (Moment t) → Prop}
    (hP : ∀ (m : Moment t) older, P older → P (m :: older)) :
    Lasting fun u : Chronicled t => P u.chronicle where
  toKept := Kept.of_chronicle fun m older _ => hP m older
  requestExit _ h := h
  turn g u h := by
    unfold Chronicled.turn
    dsimp only
    split <;> exact hP _ _ h
  handed _ _ _ _ h := hP _ _ h

end Lasting

end Chronicled

end TimedMachines
