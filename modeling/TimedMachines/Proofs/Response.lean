import TimedMachines.Proofs.Interlude
import TimedMachines.Proofs.States

/-!
# What a machine does with an event

A machine that is given an event has no use for it, sleeps on, or calls a
handler, after which it takes a step or is restored. `Chronicled.Response`
says what each of these does to the machine and what is told of it, once
for all: a handler's run is an interlude, and what the machine does at
the end of it overrides what was done to it meanwhile.

So a property of runs needs three proofs to hold for good: that it
survives interludes, responses, and the scheduler's going to sleep
(`Chronicled.Enduring`).
-/

namespace TimedMachines

variable {μ : Type} {t : Topology μ}

/-- The machine that stands at some coordinates. -/
def Topology.at? (t : Topology μ) (place : Coords) : Option (Fin t.machineCount) :=
  (t.member? place.group place.position).toOption

theorem Topology.at?_placed {g : Fin t.groupCount} {member : Coords × Fin t.machineCount}
    (h : member ∈ t.placed g) : t.at? member.1 = some member.2 :=
  congrArg Except.toOption (t.member?_placed h)

/-- Whether the machine has a handler for the event in a state. -/
def Machine.answers (machine : Machine μ) (state : StateId) (event : Event) : Bool :=
  ((machine.table.get? state event.code).bind Cell.handler).isSome

/-- **What running a handler ends with**, for a machine that was `before`:
its status then, and the record of how it came to that. -/
inductive Ending (place : Coords) (event : Event) (before : Status) : Status → Record → Prop where
  /-- The handler vetoed the step. -/
  | vetoed : Ending place event before before.restored (.vetoed place before.state event)
  /-- The machine took a step. -/
  | moved (move : Move) (hplace : move.place = place) (hsource : move.source = before.state)
      (hevent : move.event = event) : Ending place event before move.status (.transition move)

theorem Ending.place?_eq {place : Coords} {event : Event} {before status : Status} {r : Record}
    (h : Ending place event before status r) : r.place? = some place := by
  cases h with
  | vetoed => rfl
  | moved move hplace _ _ => exact congrArg some hplace

namespace Chronicled

/-- The status of a machine. -/
def status (id : Fin t.machineCount) (u : Chronicled t) : Status :=
  u.scheduler.statuses.get id

/-- Replaces the status of a machine. -/
def set (id : Fin t.machineCount) (status : Status) (u : Chronicled t) : Chronicled t :=
  (slot id).write status u

/-- A machine reports something. -/
def tell (entry : Entry) (u : Chronicled t) : Chronicled t :=
  (u.update (Scheduler.report entry)).add (.reported entry)

/-- A machine's handler is about to run. -/
def call (place : Coords) (id : Fin t.machineCount) (event : Event) (u : Chronicled t) :
    Chronicled t :=
  (u.set id (u.status id).suspended).tell (.note (.processing place (u.status id).state event))

theorem set_status (id : Fin t.machineCount) (u : Chronicled t) : u.set id (u.status id) = u := by
  unfold set slot Scheduler.slot update status
  dsimp only
  rw [Vector.put_get]

@[simp] theorem status_set_self (id : Fin t.machineCount) (status : Status) (u : Chronicled t) :
    (u.set id status).status id = status :=
  Vector.get_put_self ..

theorem status_set_of_ne {id other : Fin t.machineCount} (h : other ≠ id) (status : Status)
    (u : Chronicled t) : (u.set id status).status other = u.status other :=
  Vector.get_put_of_ne _ _ h

/-- **A machine runs the handler** that it has for an event: once, from
where the call is announced, and nothing else happens meanwhile. -/
def Runs (place : Coords) (id : Fin t.machineCount) (event : Event) (u v : Chronicled t) : Prop :=
  ∃ handler target,
    (t.machines.get id).table.get? (u.status id).state event.code = some ⟨some handler, target⟩ ∧
      v = ((handler ⟨place, (u.status id).state, event,
        (u.status id).left u.scheduler.now⟩).run (world start) (t.machines.get id).table.hasState
          .none (u.call place id event)).2

namespace Runs

variable {place : Coords} {id : Fin t.machineCount} {event : Event} {u v : Chronicled t}

theorem answers (h : Runs place id event u v) :
    (t.machines.get id).answers (u.status id).state event = true := by
  obtain ⟨handler, target, hcell, -⟩ := h
  unfold Machine.answers
  rw [hcell]
  rfl

/-- What a handler does in its run is an interlude. -/
theorem interlude (h : Runs place id event u v) : Interlude (u.call place id event) v := by
  obtain ⟨handler, target, -, rfl⟩ := h
  exact (Interlude.refl _).run _ _ _

end Runs

/-- **What a machine does with an event** that it is given. -/
inductive Response (wakesSleepers : Bool) (place : Coords) (id : Fin t.machineCount)
    (event : Event) (u : Chronicled t) : Chronicled t → Prop where
  /-- The table has no cell for it. -/
  | ignored {note : Note} (hnote : note = .unexpectedEvent place event.code ∨
        note = .missingRow place (u.status id).state) :
      Response wakesSleepers place id event u (u.tell (.note note))
  /-- The cell has no handler, and a timeout sends the machine to sleep. -/
  | unhandled :
      Response wakesSleepers place id event u
        ((u.set id (if event.isTimeout then (u.status id).sleepForever else u.status id)).tell
          (.record (.suppressed place (u.status id).state event .noHandler)))
  /-- It is a timeout, and the machine sleeps on. -/
  | asleep {note : Note}
      (hnote : note = .soundAsleep place ∨ ∃ left, note = .asleep place left)
      (htimeout : event.isTimeout = true)
      (hasleep : (u.status id).isAsleep u.scheduler.now wakesSleepers = true) :
      Response wakesSleepers place id event u ((u.tell (.note note)).tell
        (.record (.suppressed place (u.status id).state event .asleep)))
  /-- A handler runs. -/
  | handled {v : Chronicled t} {status : Status} {r : Record}
      (hruns : Runs place id event u v)
      (hawake : event.isTimeout = true →
        (u.status id).isAsleep u.scheduler.now wakesSleepers = false)
      (hending : Ending place event (u.status id) status r) :
      Response wakesSleepers place id event u ((v.set id status).tell (.record r))

/-- The part of a delivery that runs a handler. -/
theorem response_handle {wakesSleepers : Bool} {place : Coords} {id : Fin t.machineCount}
    {event : Event} {u : Chronicled t} {handler : Handler μ} {target : StateId}
    (hcell : (t.machines.get id).table.get? (u.status id).state event.code =
      some ⟨some handler, target⟩)
    (hawake : event.isTimeout = true →
      (u.status id).isAsleep u.scheduler.now wakesSleepers = false) :
    Response wakesSleepers place id event u
      ((t.machines.get id).handle (world start) (slot id) t.config.timing handler target
        (u.status id) u.scheduler.now
        ⟨place, (u.status id).state, event, (u.status id).left u.scheduler.now⟩ u) := by
  have hruns : Runs place id event u _ := ⟨handler, target, hcell, rfl⟩
  obtain ⟨-, hhandle⟩ | ⟨-, hhandle⟩ := Machine.handle_cases (world start) (slot id)
    (t.machines.get id) t.config.timing handler target (u.status id) u.scheduler.now
    ⟨place, (u.status id).state, event, (u.status id).left u.scheduler.now⟩ u
  · rw [hhandle]
    exact .handled hruns hawake .vetoed
  · -- reading the clock changes nothing
    have hbase (now : Timestamp) (v : Chronicled t) :
        (t.config.timing.base (world start) now v).2 = v := by
      unfold Timing.base
      cases t.config.timing.delayBase <;> rfl
    rw [hhandle, hbase]
    exact .handled hruns hawake (.moved _ rfl rfl rfl)

/-- **A machine that is handed an event responds to it.** -/
theorem response_hand (wakesSleepers : Bool) (event : Event)
    (member : Coords × Fin t.machineCount) (u : Chronicled t) :
    Response wakesSleepers member.1 member.2 event (u.add (.handed member.1 member.2 event))
      (hand wakesSleepers event member u) := by
  unfold hand
  generalize u.add (.handed member.1 member.2 event) = u
  by_cases hevent : (t.machines.get member.2).table.hasEvent event.code = true
  · cases hcell : (t.machines.get member.2).table.get? (u.status member.2).state event.code with
    | none =>
      unfold Machine.deliver
      rw [if_pos hevent]
      dsimp only
      split
      · exact .ignored (.inr rfl)
      · next heq => exact nomatch hcell.symm.trans heq
      · next heq => exact nomatch hcell.symm.trans heq
    | some cell =>
      obtain ⟨-, hdeliver⟩ | ⟨note, hnote, htimeout, hasleep, -, hdeliver⟩ |
          ⟨handler, hhandler, hawake, hdeliver⟩ :=
        Machine.deliver_cases (world start) (slot member.2) (t.machines.get member.2)
          t.config.timing wakesSleepers member.1 hevent (s := u) hcell
      · have hunhandled : Response wakesSleepers member.1 member.2 event u _ := .unhandled
        rw [hdeliver]
        cases htimeout : event.isTimeout with
        | true => rwa [htimeout, if_pos rfl] at hunhandled
        | false =>
          rwa [htimeout, if_neg Bool.false_ne_true, set_status] at hunhandled
      · rw [hdeliver]
        exact .asleep hnote htimeout hasleep
      · obtain ⟨_, target⟩ := cell
        cases hhandler
        rw [hdeliver]
        exact response_handle hcell hawake
  · unfold Machine.deliver
    rw [if_neg hevent]
    exact .ignored (.inl rfl)

/-! ## Properties of runs -/

/-- Whether timeouts reach machines in infinite sleep is as given, unless
the machines were restarted. -/
def Wakes (wakesSleepers : Bool) (u : Chronicled t) : Prop :=
  Uninterrupted u.chronicle → u.scheduler.flags.timeoutWakesSleepers = wakesSleepers

namespace Wakes

variable {wakesSleepers : Bool} {u v : Chronicled t}

theorem add (h : Wakes wakesSleepers u) (incident : Incident t) :
    Wakes wakesSleepers (u.add incident) :=
  fun hcalm => h (uninterrupted_cons.mp hcalm).2

theorem tell (h : Wakes wakesSleepers u) (entry : Entry) : Wakes wakesSleepers (u.tell entry) :=
  add (u := u.update (Scheduler.report entry)) h _

theorem set (h : Wakes wakesSleepers u) (id : Fin t.machineCount) (status : Status) :
    Wakes wakesSleepers (u.set id status) :=
  h

theorem interlude (h : Wakes wakesSleepers u) (hinterlude : Interlude u v) :
    Wakes wakesSleepers v := by
  obtain ⟨recent, hrecent, -, -, hunmoved⟩ := hinterlude
  intro hcalm
  rw [hrecent, uninterrupted_append] at hcalm
  exact (hunmoved hcalm.1).wakes.trans (h hcalm.2)

/-- **A pass decides once** whether timeouts reach sleepers. -/
theorem response (h : Wakes wakesSleepers u) {delivered : Bool} {place : Coords}
    {id : Fin t.machineCount} {event : Event} (hresponse : Response delivered place id event u v) :
    Wakes wakesSleepers v := by
  cases hresponse with
  | ignored => exact h.tell _
  | unhandled => exact (h.set id _).tell _
  | asleep => exact (h.tell _).tell _
  | handled hruns _ _ => exact (((h.set id _).tell _).interlude hruns.interlude |>.set id _).tell _

end Wakes

/-- **Kept by runs** in which the machines are not restarted: by
interludes, by what machines do with the events that they are handed at
their places, and when the scheduler goes to sleep. -/
structure Enduring (P : Chronicled t → Prop) : Prop where
  interlude : ∀ {u v : Chronicled t}, Interlude u v → P u → P v
  respond : ∀ {wakesSleepers : Bool} {event : Event} {g : Fin t.groupCount}
    {member : Coords × Fin t.machineCount} {u v : Chronicled t}, member ∈ t.placed g →
    Wakes wakesSleepers u → Response wakesSleepers member.1 member.2 event
      (u.add (.handed member.1 member.2 event)) v → P u → P v
  settle : ∀ (consensus : Consensus) {u : Chronicled t}, P u →
    P (u.update (Scheduler.settle consensus))

namespace Enduring

variable {P : Chronicled t → Prop}

theorem detached (hP : Enduring P) : Detached P where
  update _ u hf h := hP.interlude ((Interlude.refl u).update hf) h
  add _ u hincident h := hP.interlude ((Interlude.refl u).add hincident) h

/-- What the members of a group do with an event keeps it. -/
theorem visitMembers (hP : Enduring P) {wakesSleepers : Bool} {u : Chronicled t}
    (hwakes : Wakes wakesSleepers u) (h : P u) (event : Option Event) (g : Fin t.groupCount) :
    let own := (t.placed g).foldl (visitMember wakesSleepers event) (.idle, u)
    Wakes wakesSleepers own.2 ∧ P own.2 := by
  refine List.foldlRecOn
    (motive := fun acc : Consensus × Chronicled t => Wakes wakesSleepers acc.2 ∧ P acc.2)
    _ _ ⟨hwakes, h⟩ fun acc hacc member hmember => ?_
  cases event with
  | none => exact hacc
  | some event =>
    have hresponse := response_hand wakesSleepers event member acc.2
    exact ⟨(hacc.1.add _).response hresponse, hP.respond hmember hacc.1 hresponse hacc.2⟩

theorem visitGroup (hP : Enduring P) {wakesSleepers : Bool} {acc : Consensus × Chronicled t}
    (hwakes : Wakes wakesSleepers acc.2) (h : P acc.2) (g : Fin t.groupCount) :
    Wakes wakesSleepers (visitGroup wakesSleepers acc g).2 ∧
      P (visitGroup wakesSleepers acc g).2 := by
  have hturn := hP.visitMembers (hwakes.interlude ((Interlude.detached _).turn g _ (.refl _)))
    (hP.detached.turn g acc.2 h) (acc.2.turn g).1 g
  unfold Chronicled.visitGroup
  dsimp only at hturn ⊢
  split
  · exact ⟨hturn.1, hP.detached.update _ _ ⟨rfl, rfl, rfl⟩ hturn.2⟩
  · exact hturn

theorem visitAll (hP : Enduring P) {u : Chronicled t} (h : P u) : P u.visitAll.2 :=
  (List.foldlRecOn (motive := fun acc : Consensus × Chronicled t =>
      Wakes u.scheduler.flags.timeoutWakesSleepers acc.2 ∧ P acc.2) _ _ ⟨fun _ => rfl, h⟩
    fun _ hacc g _ => hP.visitGroup hacc.1 hacc.2 g).2

theorem commit (hP : Enduring P) (consensus : Consensus) {u : Chronicled t} (h : P u) :
    P (u.commit consensus).2 := by
  unfold Chronicled.commit
  split
  · exact hP.detached.fireTimeout u h
  · next hdue =>
    exact hP.detached.update (fun _ => (u.scheduler.commit consensus).2)
      (u.update (Scheduler.settle consensus))
      (Scheduler.unmoved_commit (Bool.eq_false_iff.mpr hdue)) (hP.settle consensus h)

/-- **Passes keep it.** -/
theorem pass (hP : Enduring P) {u : Chronicled t} (h : P u) : P u.pass.2 := by
  have hbegun := hP.detached.update Scheduler.inPass u ⟨rfl, rfl, rfl⟩ h
  unfold Chronicled.pass
  dsimp only
  split
  · exact hP.detached.report rfl hbegun
  · split
    · exact hP.detached.report rfl (hP.visitAll hbegun)
    · exact hP.commit _ (hP.visitAll hbegun)

/-- **Runs keep it.** -/
theorem performAll (hP : Enduring P) {operations : List Operation}
    (hcalm : ∀ operation ∈ operations, operation.restarts = false) {u : Chronicled t} (h : P u) :
    P (u.performAll operations) := by
  refine List.foldlRecOn _ _ h fun u h operation hmem => ?_
  by_cases hpass : operation = .pass
  · exact hpass ▸ hP.pass h
  · exact hP.detached.perform (hcalm operation hmem) hpass u h

end Enduring

end Chronicled

end TimedMachines
