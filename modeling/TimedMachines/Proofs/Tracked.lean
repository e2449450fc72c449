import TimedMachines.Proofs.Clock
import TimedMachines.Proofs.Operation

/-!
# A scheduler on any clock, with a log

`Tracked τ t` is the scheduler of the topology `t` once more, over any
clock and with a log of what matters about time: when the clock was set,
which handlers were called and what they were shown, and how machines
came by their wakeups. Apart from the two it does what `Scheduler t`
does, and on the clock of traced timestamps it goes through the very same
states (`TimedMachines.Proofs.Agreement`).

With it two questions can be put that are not about states: whether it
makes a difference that the counter wraps – the same scheduler runs on
the unbounded clock as well – and how much time has truly passed when a
timeout is delivered.
-/

namespace TimedMachines

variable {τ μ : Type} {t : Topology μ}

/-- **What the log records.** -/
inductive Happening (τ : Type) (machines : Nat) where
  /-- The clock was set, which showed `now` until then. -/
  | set (now : τ) (ticks : Ticks)
  /-- The scheduler went back to startup. -/
  | rewound
  /-- An initialization handler was called. -/
  | preparing (id : Fin machines) (view : View)
  /-- An initialization set a machine's status, its delay – if it has one –
  counting from `base`. -/
  | prepared (id : Fin machines) (base : τ) (delay : Option Ticks)
  /-- A handler was called, with that much time left until the wakeup. -/
  | processing (id : Fin machines) (view : View) (now : τ) (left : Option Nat)
  /-- The time was read from which the machine's next delay counts. -/
  | based (id : Fin machines) (base : τ)
  /-- A machine took a step, its delay – if it has one – counting from
  `base`. -/
  | moved (id : Fin machines) (base : τ) (move : Move)
deriving DecidableEq, Repr

/-- Whether an entry of the log is from a delivery to the machine. -/
def Happening.IsDelivery {machines : Nat} (id : Fin machines) : Happening τ machines → Prop
  | .processing k _ _ _ | .based k _ | .moved k _ _ => k = id
  | _ => False

/-- What a pass ended with, on any clock. -/
inductive StepOn (τ : Type) where
  /-- Work is left for another pass. -/
  | again
  /-- Nothing to do before the wakeup, `none` meaning until an event. -/
  | sleep (wakeup : Option τ)
  /-- A request to exit was seen. -/
  | exit
deriving DecidableEq, Repr

/-- **A scheduler on a clock**, with its log, the newest entry first. -/
structure Tracked (τ : Type) {μ : Type} (t : Topology μ) where
  /-- The flags. -/
  flags : SchedulerFlags
  /-- The wakeup committed to; without meaning in infinite sleep. -/
  wakeup : τ
  /-- The time. -/
  now : τ
  /-- The status of every machine. -/
  statuses : Vector (StatusOn τ) t.machineCount
  /-- The queue of every group. -/
  queues : Vector EventQueue t.groupCount
  /-- The latch that ends the scheduler's sleep. -/
  latch : Latch
  /-- The memory that handlers share. -/
  memory : μ
  /-- What happened so far. -/
  log : List (Happening τ t.machineCount)

namespace Tracked

variable [Clock τ]

/-- A scheduler that was just put together. -/
def initial (t : Topology μ) (memory : μ) : Tracked τ t where
  flags := .startup
  wakeup := Clock.zero
  now := Clock.zero
  statuses := Vector.replicate t.machineCount .startup
  queues := t.groups.map (·.queue)
  latch := .clear
  memory := memory
  log := []

/-- Adds to the log. -/
def add (happening : Happening τ t.machineCount) (u : Tracked τ t) : Tracked τ t :=
  { u with log := happening :: u.log }

/-- Replaces a machine's status. -/
def write (id : Fin t.machineCount) (status : StatusOn τ) (u : Tracked τ t) : Tracked τ t :=
  { u with statuses := u.statuses.put id status }

/-- Sets the latch. -/
def wake (u : Tracked τ t) : Tracked τ t :=
  { u with latch := u.latch.wake }

/-- Notes that an event took a slot. -/
def markQueued (u : Tracked τ t) : Tracked τ t :=
  { u with flags := { u.flags with eventQueued := true } }

/-- The wakeup committed before the last sleep, `none` in infinite
sleep. -/
def scheduled (u : Tracked τ t) : Option τ :=
  if u.flags.infiniteSleep then none else some u.wakeup

/-! ## Producers -/

/-- Posts an event to a group. -/
def post (group : UInt8) (forceNew : Bool) (event : Event) (u : Tracked τ t) :
    Except Error Enqueued × Tracked τ t :=
  match t.group? group with
  | .error e => (.error e, u)
  | .ok g =>
    let (answer, queue) := (u.queues.get g).push forceNew event
    let u := { u with queues := u.queues.put g queue }
    match answer with
    | .ok .appended => (answer, u.markQueued.wake)
    | .ok .coalesced => (answer, if t.config.wakeOnCoalesce then u.wake else u)
    | .error _ => (answer, u.wake)

/-- Posts an event to every group. -/
def broadcast (forceNew : Bool) (event : Event) (u : Tracked τ t) : Tracked τ t :=
  t.allGroups.foldl (fun u g => (u.post (t.groupId g) forceNew event).2) u

/-- Moves the clock on. -/
def setClock (ticks : Ticks) (u : Tracked τ t) : Tracked τ t :=
  { u with now := Clock.advanceTo u.now ticks }.add (.set u.now ticks)

/-- What the clock gives rise to when it has been set: a timeout for every
group if a committed wakeup is reached. -/
def ring (u : Tracked τ t) : Tracked τ t :=
  if u.flags.infiniteSleep then
    if u.flags.eventQueued then u.wake else u
  else if Clock.atOrAfter u.now u.wakeup then
    u.broadcast false .timeout
  else
    u

/-- Sets the clock. -/
def advance (ticks : Ticks) (u : Tracked τ t) : Tracked τ t :=
  (u.setClock ticks).ring

/-- Advances the clock by one tick. -/
def heartbeat (u : Tracked τ t) : Tracked τ t :=
  u.advance ((Clock.shown u.now).ticks + 1)

/-- Asks the scheduler to stop at its next pass. -/
def requestExit (u : Tracked τ t) : Tracked τ t :=
  { u with flags := { u.flags with exitRequested := true } }.wake

/-! ## Startup -/

/-- The scheduler with flags, clock, queues and machines as at startup. -/
def rewind (u : Tracked τ t) : Tracked τ t :=
  { u with
    flags := .startup
    wakeup := Clock.zero
    now := Clock.zero
    statuses := Vector.replicate t.machineCount .startup
    queues := u.queues.map EventQueue.clear }.add .rewound

/-- How the scheduler carries out the actions of its handlers. -/
def world (start : Tracked τ t → Tracked τ t) : World (Tracked τ t) μ where
  now u := (Clock.shown u.now, u)
  post := post
  ask request u :=
    match request with
    | .advance ticks => u.advance ticks
    | .heartbeat => u.heartbeat
    | .broadcast forceNew event => u.broadcast forceNew event
    | .exit => u.requestExit
    | .reset => start u.rewind
    | .start => start u
  consult u := u.memory
  amend change u := { u with memory := change u.memory }
  report _ u := u

/-- What an initialization handler is shown. -/
def initView (place : Coords) (status : StatusOn τ) : View :=
  ⟨place, status.state, .timeout, infiniteTicks⟩

/-- Runs the initialization handler of a machine. -/
def prepare (w : World (Tracked τ t) μ) (id : Fin t.machineCount) (place : Coords)
    (u : Tracked τ t) : Tracked τ t :=
  match (t.machines.get id).init with
  | none => u
  | some init =>
    let before := u.statuses.get id
    let view := initView place before
    let (wishes, u) :=
      (init view).run w (t.machines.get id).table.hasState .none (u.add (.preparing id view))
    if wishes.veto then
      u
    else
      (u.write id (before.prepared wishes u.now)).add (.prepared id u.now wishes.stay.delay?)

/-- Runs the initialization handlers of all members of all groups. -/
def prepareAll (w : World (Tracked τ t) μ) (u : Tracked τ t) : Tracked τ t :=
  t.allGroups.foldl (fun u g =>
    (t.placed g).foldl (fun u (place, id) => prepare w id place u) u) u

/-- Starts, with at most `depth` starts nested within. -/
def startWithin : Nat → Tracked τ t → Tracked τ t
  | 0 => prepareAll (world id)
  | depth + 1 => prepareAll (world (startWithin depth))

/-- Starts: every initialization handler runs. -/
def start (u : Tracked τ t) : Tracked τ t :=
  u.startWithin t.config.nesting

/-! ## Deliveries -/

/-- What a handler is shown. -/
def view (place : Coords) (event : Event) (before : StatusOn τ) (now : τ) : View :=
  ⟨place, before.state, event, ((before.left now).map UInt32.ofNat).getD infiniteTicks⟩

/-- The scheduler when a handler is called: the machine is suspended, and
unless delays count from the end of the handler they count from now. -/
def call (id : Fin t.machineCount) (before : StatusOn τ) (view : View) (u : Tracked τ t) :
    Tracked τ t :=
  let u := (u.write id before.suspended).add (.processing id view u.now (before.left u.now))
  match t.config.timing.delayBase with
  | .beforeHandler => u.add (.based id u.now)
  | .afterHandler => u

/-- The time from which the delay of a step counts that a handler has
made, and the scheduler then. -/
def base (id : Fin t.machineCount) (now : τ) (u : Tracked τ t) : τ × Tracked τ t :=
  match t.config.timing.delayBase with
  | .beforeHandler => (now, u)
  | .afterHandler => (u.now, u.add (.based id u.now))

/-- Runs the handler of an event that reached the machine, and takes the
step or restores the machine. -/
def handle (id : Fin t.machineCount) (handler : Handler μ) (target : StateId)
    (before : StatusOn τ) (view : View) (u : Tracked τ t) : Tracked τ t :=
  let now := u.now
  let (wishes, u) :=
    (handler view).run (world start) (t.machines.get id).table.hasState .none
      (u.call id before view)
  if wishes.veto then
    u.write id before.restored
  else
    let (base, u) := u.base id now
    let move := (t.machines.get id).move t.config.timing view target wishes (Clock.shown base)
    (u.write id (.moved base move)).add (.moved id base move)

/-- Delivers an event to a machine. -/
def deliver (id : Fin t.machineCount) (wakesSleepers : Bool) (place : Coords) (event : Event)
    (u : Tracked τ t) : Tracked τ t :=
  if (t.machines.get id).table.hasEvent event.code then
    let before := u.statuses.get id
    match (t.machines.get id).table.get? before.state event.code with
    | none => u
    | some ⟨none, _⟩ => if event.isTimeout then u.write id before.sleepForever else u
    | some ⟨some handler, target⟩ =>
      if event.isTimeout && before.isAsleep u.now wakesSleepers then
        u
      else
        u.handle id handler target before (view place event before u.now)
  else
    u

/-! ## Passes -/

/-- Gives the event, if there is one, to a member, and asks it for its
wakeup. -/
def visitMember (wakesSleepers : Bool) (event : Option Event) (acc : Option τ × Tracked τ t)
    (member : Coords × Fin t.machineCount) : Option τ × Tracked τ t :=
  let (earliest, u) := acc
  let (place, id) := member
  let u :=
    match event with
    | some event => u.deliver id wakesSleepers place event
    | none => u
  (Clock.sooner earliest (u.statuses.get id).scheduled, u)

/-- The group's oldest event, whether it keeps more, and the scheduler
without that event. -/
def popFrom (g : Fin t.groupCount) (u : Tracked τ t) : Option Event × Bool × Tracked τ t :=
  match (u.queues.get g).pop with
  | some (event, rest) => (some event, !rest.isEmpty, { u with queues := u.queues.put g rest })
  | none => (none, false, u)

/-- A group's turn. -/
def visitGroup (wakesSleepers : Bool) (acc : Option τ × Tracked τ t) (g : Fin t.groupCount) :
    Option τ × Tracked τ t :=
  let (earliest, u) := acc
  let (event, more, u) := u.popFrom g
  let (own, u) := (t.placed g).foldl (visitMember wakesSleepers event) (none, u)
  (Clock.sooner earliest own, if more then u.markQueued else u)

/-- All groups' turns. -/
def visitAll (u : Tracked τ t) : Option τ × Tracked τ t :=
  t.allGroups.foldl (visitGroup u.flags.timeoutWakesSleepers) (none, u)

/-- The scheduler in a pass. -/
def inPass (u : Tracked τ t) : Tracked τ t :=
  { u with flags := { u.flags with infiniteSleep := true, eventQueued := false } }

/-- The scheduler in the next epoch. -/
def rebase (u : Tracked τ t) : Tracked τ t :=
  { u with
    now := Clock.rebased u.now
    wakeup := Clock.rebased u.wakeup
    statuses := u.statuses.map StatusOn.rebased }

/-- Commits to the earliest wakeup. -/
def schedule (earliest : Option τ) (u : Tracked τ t) : Tracked τ t :=
  { u with
    flags := { u.flags with infiniteSleep := earliest.isNone, timeoutWakesSleepers := false }
    wakeup := earliest.getD Clock.zero }

/-- Whether the epoch is over. -/
def epochOver (u : Tracked τ t) : Bool :=
  u.flags.infiniteSleep || ((Clock.shown u.now).overflow && (Clock.shown u.wakeup).overflow)

/-- The scheduler that sleeps until the earliest wakeup. -/
def settle (earliest : Option τ) (u : Tracked τ t) : Tracked τ t :=
  let u := u.schedule earliest
  if u.epochOver then u.rebase else u

/-- Whether the earliest wakeup has been reached. -/
def isDue (earliest : Option τ) (u : Tracked τ t) : Bool :=
  match earliest with
  | some wakeup => Clock.atOrAfter u.now wakeup
  | none => false

/-- Sleep or timeout. -/
def commit (earliest : Option τ) (u : Tracked τ t) : StepOn τ × Tracked τ t :=
  if u.isDue earliest then
    (.again, u.broadcast false .timeout)
  else
    (.sleep (u.settle earliest).scheduled, u.settle earliest)

/-- One pass. -/
def pass (u : Tracked τ t) : StepOn τ × Tracked τ t :=
  let u := u.inPass
  if u.flags.exitRequested then
    (.exit, u)
  else
    let (earliest, u) := u.visitAll
    if u.flags.eventQueued then (.again, u) else u.commit earliest

/-- The scheduler after an operation. -/
def perform (u : Tracked τ t) : Operation → Tracked τ t
  | .start => u.start
  | .reset => u.rewind.start
  | .post group forceNew event => (u.post group forceNew event).2
  | .broadcast forceNew event => u.broadcast forceNew event
  | .advance ticks => u.advance ticks
  | .heartbeat => u.heartbeat
  | .requestExit => u.requestExit
  | .wake => u.wake
  | .takeWake => { u with latch := .clear }
  | .pass => u.pass.2

/-- The scheduler after some operations, the first of the list first. -/
def performAll (u : Tracked τ t) (operations : List Operation) : Tracked τ t :=
  operations.foldl perform u

/-! ## What the elementary changes keep -/

/-- **The same time and the same machines**: what queues, latch and memory
have no part in. -/
structure Alike (u v : Tracked τ t) : Prop where
  now : v.now = u.now
  wakeup : v.wakeup = u.wakeup
  statuses : v.statuses = u.statuses
  log : v.log = u.log
  infiniteSleep : v.flags.infiniteSleep = u.flags.infiniteSleep
  timeoutWakesSleepers : v.flags.timeoutWakesSleepers = u.flags.timeoutWakesSleepers

omit [Clock τ] in
theorem alike_post (group : UInt8) (forceNew : Bool) (event : Event) (u : Tracked τ t) :
    u.Alike (u.post group forceNew event).2 := by
  unfold post
  split
  · exact ⟨rfl, rfl, rfl, rfl, rfl, rfl⟩
  · dsimp only
    split
    · exact ⟨rfl, rfl, rfl, rfl, rfl, rfl⟩
    · dsimp only
      split
      · exact ⟨rfl, rfl, rfl, rfl, rfl, rfl⟩
      · exact ⟨rfl, rfl, rfl, rfl, rfl, rfl⟩
    · exact ⟨rfl, rfl, rfl, rfl, rfl, rfl⟩

omit [Clock τ] in
theorem Alike.trans {u v w : Tracked τ t} (h : u.Alike v) (h' : v.Alike w) : u.Alike w :=
  ⟨h'.now.trans h.now, h'.wakeup.trans h.wakeup, h'.statuses.trans h.statuses, h'.log.trans h.log,
    h'.infiniteSleep.trans h.infiniteSleep,
    h'.timeoutWakesSleepers.trans h.timeoutWakesSleepers⟩

omit [Clock τ] in
theorem alike_broadcast (forceNew : Bool) (event : Event) (u : Tracked τ t) :
    u.Alike (u.broadcast forceNew event) :=
  List.foldlRecOn (motive := u.Alike) _ _ ⟨rfl, rfl, rfl, rfl, rfl, rfl⟩
    fun _ h _ _ => h.trans (alike_post ..)

theorem alike_ring (u : Tracked τ t) : u.Alike u.ring := by
  unfold ring
  split
  · split
    · exact ⟨rfl, rfl, rfl, rfl, rfl, rfl⟩
    · exact ⟨rfl, rfl, rfl, rfl, rfl, rfl⟩
  · split
    · exact alike_broadcast false .timeout u
    · exact ⟨rfl, rfl, rfl, rfl, rfl, rfl⟩

/-- **Kept by producers**, and by every handler that does not restart the
machines: a property of time and machines that survives the clock. -/
structure Lasting (P : Tracked τ t → Prop) : Prop where
  frame : ∀ u v, Alike u v → P u → P v
  setClock : ∀ ticks u, P u → P (u.setClock ticks)

/-- **Kept by every handler**: also by a return to startup and by
initializations. -/
structure Stable (P : Tracked τ t → Prop) : Prop extends Lasting P where
  rewind : ∀ u, P u → P u.rewind
  preparing : ∀ (id : Fin t.machineCount) view u, P u → P (u.add (.preparing id view))
  prepared : ∀ (id : Fin t.machineCount) status base delay u,
    P u → P ((u.write id status).add (.prepared id base delay))

namespace Lasting

variable {P : Tracked τ t → Prop}

theorem post (hP : Lasting P) (group : UInt8) (forceNew : Bool) (event : Event) (u : Tracked τ t)
    (h : P u) :
    P (u.post group forceNew event).2 :=
  hP.frame _ _ (u.alike_post group forceNew event) h

theorem wake (hP : Lasting P) (u : Tracked τ t) (h : P u) : P u.wake :=
  hP.frame u u.wake ⟨rfl, rfl, rfl, rfl, rfl, rfl⟩ h

theorem requestExit (hP : Lasting P) (u : Tracked τ t) (h : P u) : P u.requestExit :=
  hP.frame u u.requestExit ⟨rfl, rfl, rfl, rfl, rfl, rfl⟩ h

theorem broadcast (hP : Lasting P) (forceNew : Bool) (event : Event) (u : Tracked τ t) (h : P u) :
    P (u.broadcast forceNew event) :=
  hP.frame _ _ (u.alike_broadcast forceNew event) h

theorem advance (hP : Lasting P) (ticks : Ticks) (u : Tracked τ t) (h : P u) :
    P (u.advance ticks) :=
  hP.frame _ _ (alike_ring _) (hP.setClock ticks u h)

/-- Handlers that do not restart the machines keep it. -/
theorem world (hP : Lasting P) (start : Tracked τ t → Tracked τ t) :
    (world start).Keeps (fun request => request.restarts = false) P where
  now _ h := h
  post := hP.post
  ask request u hcalm h := by
    cases request with
    | advance ticks => exact hP.advance ticks u h
    | heartbeat => exact hP.advance _ u h
    | broadcast forceNew event => exact hP.broadcast forceNew event u h
    | exit => exact hP.requestExit u h
    | reset | start => cases hcalm
  amend change u h := hP.frame u _ ⟨rfl, rfl, rfl, rfl, rfl, rfl⟩ h
  report _ _ h := h

end Lasting

/-- What a world keeps, an initialization in it keeps. -/
theorem prepare_keeps {w : World (Tracked τ t) μ} {allowed : Request → Prop}
    {P : Tracked τ t → Prop} (hw : w.Keeps allowed P)
    (hpreparing : ∀ (id : Fin t.machineCount) view u, P u → P (u.add (.preparing id view)))
    (hprepared : ∀ (id : Fin t.machineCount) status base delay u,
      P u → P ((u.write id status).add (.prepared id base delay)))
    (id : Fin t.machineCount)
    (hasks : ∀ init, (t.machines.get id).init = some init → ∀ view, (init view).Asks allowed)
    (place : Coords) (u : Tracked τ t) (h : P u) :
    P (prepare w id place u) := by
  unfold prepare
  cases hinit : (t.machines.get id).init with
  | none => exact h
  | some init =>
    have hrun := Act.run_keeps hw (t.machines.get id).table.hasState _
      (hasks init hinit (initView place (u.statuses.get id))) .none _
      (hpreparing id (initView place (u.statuses.get id)) u h)
    dsimp only
    split
    · exact hrun
    · exact hprepared _ _ _ _ _ hrun

/-- What a world keeps, and the changes and entries of a delivery to a
machine, such a delivery keeps. -/
theorem deliver_keeps {allowed : Request → Prop} {P : Tracked τ t → Prop}
    (hw : (world start).Keeps allowed P) {id : Fin t.machineCount}
    (hwrite : ∀ status u, P u → P (u.write id status))
    (hadd : ∀ happening u, happening.IsDelivery id → P u → P (u.add happening))
    (hasks : ∀ handler, (t.machines.get id).Handles handler → ∀ view, (handler view).Asks allowed)
    (wakesSleepers : Bool) (place : Coords) (event : Event) (u : Tracked τ t) (h : P u) :
    P (u.deliver id wakesSleepers place event) := by
  have hcall (before : StatusOn τ) (view : View) : P (u.call id before view) := by
    have hlogged := hadd (.processing id view u.now (before.left u.now)) _ rfl
      (hwrite before.suspended u h)
    unfold call
    cases t.config.timing.delayBase with
    | beforeHandler => exact hadd _ _ rfl hlogged
    | afterHandler => exact hlogged
  unfold deliver
  split
  · dsimp only
    split
    · exact h
    · split
      · exact hwrite _ u h
      · exact h
    · next handler target hcell =>
      split
      · exact h
      · -- the handler runs between the entries for its call and for the step
        have hrun := Act.run_keeps hw (t.machines.get id).table.hasState _
          (hasks handler ⟨_, _, target, hcell⟩ (view place event (u.statuses.get id) u.now)) .none _
          (hcall (u.statuses.get id) (view place event (u.statuses.get id) u.now))
        unfold handle
        dsimp only
        split
        · exact hwrite _ _ hrun
        · refine hadd _ _ rfl (hwrite _ _ ?_)
          unfold base
          split
          · exact hrun
          · exact hadd _ _ rfl hrun
  · exact h

namespace Stable

variable {P : Tracked τ t → Prop}

/-- All handlers keep it, if what they mean by a start does. -/
theorem keeps_world (hP : Stable P) {start : Tracked τ t → Tracked τ t}
    (hstart : ∀ u, P u → P (start u)) :
    (Tracked.world start).Keeps (fun _ => True) P where
  now _ h := h
  post := hP.post
  ask request u _ h := by
    cases hrequest : request.restarts with
    | false => exact (hP.toLasting.world start).ask request u hrequest h
    | true =>
      cases request with
      | start => exact hstart u h
      | reset => exact hstart _ (hP.rewind u h)
      | advance _ | heartbeat | broadcast _ _ | exit => cases hrequest
  amend change u h := hP.frame u _ ⟨rfl, rfl, rfl, rfl, rfl, rfl⟩ h
  report _ _ h := h

/-- **Starts keep it**, however deep they nest. -/
theorem start (hP : Stable P) (u : Tracked τ t) (h : P u) :
    P u.start := by
  have hall {start : Tracked τ t → Tracked τ t} (hstart : ∀ u, P u → P (start u))
      (u : Tracked τ t) (h : P u) : P (prepareAll (Tracked.world start) u) :=
    List.foldlRecOn _ _ h fun _ h _ _ =>
      List.foldlRecOn _ _ h fun u h member _ =>
        prepare_keeps (hP.keeps_world hstart) hP.preparing hP.prepared member.2
          (fun _ _ _ => Act.asks_any _) member.1 u h
  have hwithin (depth : Nat) : ∀ u : Tracked τ t, P u → P (u.startWithin depth) := by
    induction depth with
    | zero => exact hall fun _ h => h
    | succ depth ih => exact hall ih
  exact hwithin _ u h

/-- All handlers keep it. -/
theorem world (hP : Stable P) : (Tracked.world Tracked.start).Keeps (fun _ => True) P :=
  hP.keeps_world hP.start

end Stable

end Tracked

end TimedMachines
