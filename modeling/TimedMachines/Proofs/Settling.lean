import Mathlib
import TimedMachines.Proofs.Alarm
import TimedMachines.Proofs.Chronicle
import TimedMachines.Proofs.States

/-!
# Passes come to an end

A pass may call for another one: events are left in a queue, or a wakeup
is due and becomes a timeout for every group. So whether passes come to
an end depends on what handlers do, and this module shows that they do if
handlers are **patient**: they post nothing, leave the clock alone and do
not reset the scheduler, they veto no timeout, and the delays after
timeouts end later than now (`Incident.Patient`).

The measure is the length of the longest queue. While handlers are
patient a pass takes one event from every queue and adds none, so that
after as many passes nothing is left; then either the scheduler sleeps or
each queue is given one timeout, and one pass more is needed. That one is
the last. A machine that is given a timeout is at **rest** right after
it – in infinite sleep, asleep until later, or just gone to a state that
lasts until later – and that is when it joins the consensus; what
later deliveries of the pass do to a machine that stands in several
groups does not matter any more. So no wakeup of the consensus is due.

Nothing here depends on how the machines came to be what they are, except
that each must be in a state of its table: a machine in no state of its
table would be woken forever.
-/

namespace TimedMachines

variable {μ : Type} {t : Topology μ}

/-! ## Patience -/

/-- **It is not too late for delays**: those that are fine end later than
now. -/
def Timely (fine : Ticks → Prop) (now : Timestamp) : Prop :=
  ∀ delay, fine delay → now.value < (now.offset delay).value

/-- **What patient handlers do**, where `fine` are the delays that end
later than now. They may ask the scheduler to exit, and run the
initialization handlers again. -/
def Incident.Patient (fine : Ticks → Prop) : Incident t → Prop
  | .posted .. => False
  | .asked request => request = .exit ∨ request = .start
  | .reported (.record (.vetoed _ _ event)) => event.isTimeout = false
  | .reported (.record (.transition move)) =>
    move.event.isTimeout = true → ∀ delay ∈ move.delay, fine delay
  | _ => True

instance (fine : Ticks → Prop) [DecidablePred fine] (incident : Incident t) :
    Decidable (incident.Patient fine) :=
  match incident with
  | .posted .. => inferInstanceAs (Decidable False)
  | .asked request => inferInstanceAs (Decidable (request = .exit ∨ request = .start))
  | .reported (.record (.vetoed _ _ event)) =>
    inferInstanceAs (Decidable (event.isTimeout = false))
  | .reported (.record (.transition move)) =>
    inferInstanceAs (Decidable (move.event.isTimeout = true → ∀ delay ∈ move.delay, fine delay))
  | .reported (.record (.suppressed ..)) | .reported (.record (.enqueued ..))
  | .reported (.record (.dropped ..)) | .reported (.record (.sleep _)) | .reported (.note _)
  | .pushed .. | .rewound | .turn .. | .handed .. => inferInstanceAs (Decidable True)

/-- A handler was not patient. -/
def Strayed (fine : Ticks → Prop) (chronicle : List (Moment t)) : Prop :=
  ∃ m ∈ chronicle, ¬ m.incident.Patient fine

/-- A handler asked the scheduler to exit. -/
def ExitAsked (chronicle : List (Moment t)) : Prop :=
  ∃ m ∈ chronicle, m.incident = .asked .exit

theorem Strayed.cons {fine : Ticks → Prop} {chronicle : List (Moment t)}
    (h : Strayed fine chronicle) (m : Moment t) : Strayed fine (m :: chronicle) :=
  let ⟨k, hk, hstrayed⟩ := h
  ⟨k, List.mem_cons_of_mem m hk, hstrayed⟩

theorem ExitAsked.cons {chronicle : List (Moment t)} (h : ExitAsked chronicle) (m : Moment t) :
    ExitAsked (m :: chronicle) :=
  let ⟨k, hk, hasked⟩ := h
  ⟨k, List.mem_cons_of_mem m hk, hasked⟩

namespace Chronicled

/-- Who has strayed has strayed for good. -/
theorem lasting_strayed (fine : Ticks → Prop) :
    Lasting fun u : Chronicled t => Strayed fine u.chronicle :=
  Lasting.of_chronicle (P := Strayed fine) fun m _ h => h.cons m

theorem lasting_exitAsked : Lasting fun u : Chronicled t => ExitAsked u.chronicle :=
  Lasting.of_chronicle (P := ExitAsked) fun m _ h => h.cons m

/-- An incident that shows that a handler is not patient. -/
theorem strayed_add {fine : Ticks → Prop} (incident : Incident t)
    (h : ¬ incident.Patient fine) (u : Chronicled t) : Strayed fine (u.add incident).chronicle :=
  ⟨_, List.mem_cons_self, h⟩

/-- **A request to exit is a handler's.** There is none unless one asked
for it. -/
def Explained (u : Chronicled t) : Prop :=
  u.scheduler.flags.exitRequested = true → ExitAsked u.chronicle

theorem kept_explained : Kept (Explained (t := t)) where
  update _ _ _ hexit h hrequested := h (hexit.symm.trans hrequested)
  post group forceNew event u h hrequested := by
    have hleft := (u.scheduler.post_leaves group forceNew event).2
    rw [scheduler_post] at hleft
    exact lasting_exitAsked.post group forceNew event u (h (hleft.symm.trans hrequested))
  quiet _ _ _ h hrequested := (h hrequested).cons _
  exit _ _ _ := ⟨_, List.mem_cons_self, rfl⟩
  rewind _ _ hrequested := absurd hrequested Bool.false_ne_true

theorem passing_explained : Passing (Explained (t := t)) where
  toStanding := kept_explained.toStanding
  turn g u h := by
    unfold Chronicled.turn
    dsimp only
    split
    · exact fun hrequested => (h hrequested).cons _
    · exact fun hrequested => (h hrequested).cons _
  hand _ _ _ _ h := kept_explained.deliver _ _ _ _ _ fun hrequested => (h hrequested).cons _

/-! ## What patient handlers leave alone -/

/-- **Clock and queues are still those of `s`.** -/
structure Undisturbed (s : Scheduler t) (u : Chronicled t) : Prop where
  now : u.scheduler.now = s.now
  queues : u.scheduler.queues = s.queues
  queued : u.scheduler.flags.eventQueued = s.flags.eventQueued

variable {fine : Ticks → Prop} {s : Scheduler t}

theorem Undisturbed.add {u : Chronicled t} (h : Undisturbed s u) (incident : Incident t) :
    Undisturbed s (u.add incident) :=
  ⟨h.now, h.queues, h.queued⟩

theorem Undisturbed.write {u : Chronicled t} (h : Undisturbed s u) (id : Fin t.machineCount)
    (status : Status) : Undisturbed s ((slot id).write status u) :=
  ⟨h.now, h.queues, h.queued⟩

theorem Undisturbed.report {u : Chronicled t} (h : Undisturbed s u)
    (start : Chronicled t → Chronicled t) (entry : Entry) :
    Undisturbed s ((world start).report entry u) :=
  ⟨h.now, h.queues, h.queued⟩

/-- **A handler strays or disturbs nothing.** -/
theorem keeps_undisturbed (fine : Ticks → Prop) (s : Scheduler t)
    {start : Chronicled t → Chronicled t}
    (hstart : ∀ u, Strayed fine u.chronicle ∨ Undisturbed s u →
      Strayed fine (start u).chronicle ∨ Undisturbed s (start u)) :
    (world start).Keeps (fun _ => True)
      fun u => Strayed fine u.chronicle ∨ Undisturbed s u where
  now _ h := h
  post group forceNew event u _ :=
    .inl ((lasting_strayed fine).post _ _ _ _
      (strayed_add (.posted group forceNew event) (fun h => h) u))
  ask request u _ h := by
    have hlasting := lasting_strayed (t := t) fine
    have hstrayed (v : Chronicled t) (hv : Strayed fine v.chronicle) :
        Strayed fine (v.comply start request).chronicle ∨
          Undisturbed s (v.comply start request) := by
      cases request with
      | advance ticks => exact .inl (hlasting.advance ticks v hv)
      | heartbeat => exact .inl (hlasting.advance _ v hv)
      | broadcast forceNew event => exact .inl (hlasting.broadcast forceNew event v hv)
      | exit => exact .inl hv
      | reset => exact hstart _ (.inl (hlasting.rewind _ hv))
      | start => exact hstart v (.inl hv)
    obtain h | h := h
    · exact hstrayed _ (h.cons _)
    · have hasked := h.add (.asked request)
      cases request with
      | exit => exact .inr ⟨h.now, h.queues, h.queued⟩
      | start => exact hstart _ (.inr hasked)
      | advance _ | heartbeat | broadcast _ _ | reset =>
        exact hstrayed _ (strayed_add _ (by simp [Incident.Patient]) u)
  amend _ _ h := h.imp_right fun h => ⟨h.now, h.queues, h.queued⟩
  report entry _ h := h.imp (fun h => h.cons _) fun h => h.report start entry

theorem start_undisturbed (fine : Ticks → Prop) (s : Scheduler t) (u : Chronicled t)
    (h : Strayed fine u.chronicle ∨ Undisturbed s u) :
    Strayed fine u.start.chronicle ∨ Undisturbed s u.start :=
  start_keeps (fun _ => keeps_undisturbed fine s)
    (fun id status _ h => h.imp_right fun h => h.write id status) u h

/-- The world of a delivery. -/
theorem world_undisturbed (fine : Ticks → Prop) (s : Scheduler t) :
    (world start).Keeps (fun _ => True)
      fun u => Strayed fine u.chronicle ∨ Undisturbed s u :=
  keeps_undisturbed fine s (start_undisturbed fine s)

end Chronicled

/-! ## Rest -/

/-- The machine has no wakeup, or one later than now. -/
def Status.Rests (now : Timestamp) (status : Status) : Prop :=
  ∀ wakeup, status.scheduled = some wakeup → now.value < wakeup.value

/-- The consensus has no wakeup, or one later than now. -/
def Consensus.Rests (now : Timestamp) (c : Consensus) : Prop :=
  ∀ wakeup, c.earliest = some wakeup → now.value < wakeup.value

theorem Consensus.Rests.consider {now : Timestamp} {c : Consensus} (h : c.Rests now)
    {other : Option Timestamp} (hother : ∀ wakeup, other = some wakeup → now.value < wakeup.value) :
    (c.consider other).Rests now := by
  unfold Consensus.consider
  cases hc : c.earliest with
  | none => exact hother
  | some a =>
    have ha := h a hc
    cases other with
    | none =>
      rintro wakeup ⟨⟩
      exact ha
    | some b =>
      have hb := hother b rfl
      rintro wakeup ⟨⟩
      rw [Timestamp.value_earlier]
      omega

/-- Nothing is due if everyone rests. -/
theorem Scheduler.isDue_eq_false {s : Scheduler t} {consensus : Consensus}
    (h : consensus.Rests s.now) : s.isDue consensus = false := by
  unfold Scheduler.isDue
  split
  · next wakeup hwakeup =>
    have := h wakeup hwakeup
    rw [← Bool.not_eq_true, Timestamp.atOrAfter_iff]
    omega
  · rfl

/-- A machine in infinite sleep rests. -/
theorem Status.rests_of_infiniteSleep {status : Status} (h : status.flags.infiniteSleep = true)
    (now : Timestamp) : status.Rests now := by
  intro wakeup hwakeup
  rw [Status.scheduled, if_pos h] at hwakeup
  cases hwakeup

/-- A machine that sleeps through a timeout rests. -/
theorem Status.rests_of_isAsleep {status : Status} {now : Timestamp} {wakesSleepers : Bool}
    (h : status.isAsleep now wakesSleepers = true) : status.Rests now := by
  cases hsleep : status.flags.infiniteSleep with
  | true => exact Status.rests_of_infiniteSleep hsleep now
  | false =>
    intro wakeup hwakeup
    rw [Status.scheduled, hsleep, if_neg Bool.false_ne_true] at hwakeup
    rw [Status.isAsleep, hsleep, Bool.false_and, Bool.false_or, Timestamp.after_iff] at h
    exact Option.some.inj hwakeup ▸ h

/-- **A machine rests after a step** whose delay ends later than its
base. -/
theorem Move.rests_status {move : Move}
    (h : ∀ delay ∈ move.delay, move.base.value < (move.base.offset delay).value) :
    move.status.Rests move.base := by
  intro wakeup hwakeup
  unfold Move.status Status.scheduled at hwakeup
  cases hdelay : move.delay with
  | none =>
    rw [hdelay] at hwakeup
    cases hwakeup
  | some delay =>
    rw [hdelay] at hwakeup
    cases hwakeup
    exact h delay hdelay

namespace Chronicled

variable {fine : Ticks → Prop} {s : Scheduler t}

/-- **A handler of a timeout strays or leaves its machine at rest.** -/
theorem rests_handle (hfine : Timely fine s.now) {id : Fin t.machineCount}
    {handler : Handler μ} {target : StateId} {before : Status} {view : View}
    (htimeout : view.event.isTimeout = true) {u : Chronicled t} (h : Undisturbed s u) :
    let v := (t.machines.get id).handle (world start) (slot id) t.config.timing handler target
      before u.scheduler.now view u
    Strayed fine v.chronicle ∨ (v.scheduler.statuses.get id).Rests s.now := by
  have hrun := Act.run_keeps (world_undisturbed fine s) (t.machines.get id).table.hasState
    (handler view) (Act.asks_any _) .none _ (.inr ((h.write id before.suspended).report start
      (.note (.processing view.place view.state view.event))))
  unfold Machine.handle
  dsimp only
  generalize Act.run _ _ _ _ _ = outcome at hrun ⊢
  obtain ⟨wishes, v⟩ := outcome
  dsimp only at hrun ⊢
  -- the step that is taken, whatever its base is
  have hmoved (base : Timestamp) (hbase : Strayed fine v.chronicle ∨ base = s.now) :
      let move := (t.machines.get id).move t.config.timing view target wishes base
      let v := (world start).report (.record (.transition move)) ((slot id).write move.status v)
      Strayed fine v.chronicle ∨ (v.scheduler.statuses.get id).Rests s.now := by
    intro move
    obtain hstrayed | rfl := hbase
    · exact .inl (hstrayed.cons _)
    · by_cases hdelay : ∀ delay ∈ move.delay, fine delay
      · refine .inr ?_
        change (Vector.get (v.scheduler.statuses.put id move.status) id).Rests s.now
        rw [Vector.get_put_self]
        exact Move.rests_status fun delay hd => hfine delay (hdelay delay hd)
      · exact .inl ⟨_, List.mem_cons_self, fun hpatient => hdelay (hpatient htimeout)⟩
  split
  · have hvetoed : view.event.isTimeout ≠ false := ne_false_of_eq_true htimeout
    exact .inl ⟨_, List.mem_cons_self, hvetoed⟩
  · cases t.config.timing.delayBase with
    | beforeHandler => exact hmoved _ (.inr h.now)
    | afterHandler => exact hmoved _ (hrun.imp_right fun h => h.now)

end Chronicled

/-- Every table has a column for the timeout. -/
theorem Table.hasEvent_timeout {α : Type} (table : Table α) {event : Event}
    (h : event.isTimeout = true) : table.hasEvent event.code = true := by
  have hcode : event.code = 0 := eq_of_beq h
  rw [hcode]
  exact decide_eq_true table.events_pos

namespace Chronicled

variable {fine : Ticks → Prop} {s : Scheduler t}

/-- **A timeout leaves its machine at rest**, or a handler strays. -/
theorem rests_deliver (hfine : Timely fine s.now)
    {id : Fin t.machineCount} (wakesSleepers : Bool) (place : Coords) {event : Event}
    (htimeout : event.isTimeout = true) {u : Chronicled t} (h : Undisturbed s u)
    (hstate : (t.machines.get id).table.hasState (u.scheduler.statuses.get id).state = true) :
    let v := (t.machines.get id).deliver (world start) (slot id) t.config.timing wakesSleepers
      place event u
    Strayed fine v.chronicle ∨ (v.scheduler.statuses.get id).Rests s.now := by
  have hevent := (t.machines.get id).table.hasEvent_timeout htimeout
  obtain ⟨cell, hcell⟩ := Table.exists_cell hstate hevent
  obtain ⟨-, hdeliver⟩ | ⟨note, -, -, hasleep, -, hdeliver⟩ | ⟨handler, -, -, hdeliver⟩ :=
    Machine.deliver_cases (world start) (slot id) (t.machines.get id) t.config.timing
      wakesSleepers place hevent (s := u) hcell
  · rw [hdeliver, htimeout, if_pos rfl]
    refine .inr ?_
    change (Vector.get (u.scheduler.statuses.put id _) id).Rests s.now
    rw [Vector.get_put_self]
    exact Status.rests_of_infiniteSleep rfl _
  · rw [hdeliver]
    have hrests := Status.rests_of_isAsleep hasleep
    exact .inr (h.now ▸ hrests)
  · rw [hdeliver]
    exact rests_handle hfine htimeout h

/-! ## A group's turn -/

/-- **In a group's turn** with an event: the scheduler is still that of the
turn's beginning, `s`, and if the event is a timeout, whoever was asked
rests. -/
structure Turning (s : Scheduler t) (event : Option Event) (acc : Consensus × Chronicled t) :
    Prop where
  undisturbed : Undisturbed s acc.2
  inTable : acc.2.scheduler.InTable
  rests : (∃ e, event = some e ∧ e.isTimeout = true) → acc.1.Rests s.now

/-- What a member does with its event disturbs nothing either. -/
theorem undisturbed_hand (fine : Ticks → Prop) (wakesSleepers : Bool) (event : Event)
    (member : Coords × Fin t.machineCount) {u : Chronicled t} (h : Undisturbed s u) :
    Strayed fine (hand wakesSleepers event member u).chronicle ∨
      Undisturbed s (hand wakesSleepers event member u) :=
  Machine.deliver_keeps (P := fun u => Strayed fine u.chronicle ∨ Undisturbed s u)
    (world_undisturbed fine s) (fun status _ hu => hu.imp_right fun hu => hu.write member.2 status)
    (fun _ _ _ => Act.asks_any _) _ _ _ _ _ (.inr (h.add _))

theorem turning_visitMember (hfine : Timely fine s.now)
    (wakesSleepers : Bool) (event : Option Event) {acc : Consensus × Chronicled t}
    (member : Coords × Fin t.machineCount)
    (h : Strayed fine acc.2.chronicle ∨ Turning s event acc) :
    Strayed fine (visitMember wakesSleepers event acc member).2.chronicle ∨
      Turning s event (visitMember wakesSleepers event acc member) := by
  cases event with
  | none =>
    refine h.imp_right fun h => ⟨h.undisturbed, h.inTable, ?_⟩
    rintro ⟨e, he, -⟩
    cases he
  | some event =>
    obtain hstrayed | h := h
    · exact .inl ((lasting_strayed fine).passing.hand wakesSleepers event member _ hstrayed)
    · have hin : (hand wakesSleepers event member acc.2).scheduler.InTable := by
        rw [scheduler_hand]
        exact Scheduler.steady_inTable.deliver _ (Scheduler.steady_inTable.keeps_world
          Scheduler.steady_inTable.start) _ _ _ _ _ h.inTable
      obtain hstrayed | hundisturbed :=
        undisturbed_hand fine wakesSleepers event member h.undisturbed
      · exact .inl hstrayed
      · by_cases htimeout : event.isTimeout = true
        · refine (rests_deliver hfine wakesSleepers member.1 htimeout
            (h.undisturbed.add (.handed member.1 member.2 event))
            (h.inTable member.2)).imp_right fun hrests => ⟨hundisturbed, hin, fun hevent => ?_⟩
          exact (h.rests hevent).consider hrests
        · refine .inr ⟨hundisturbed, hin, ?_⟩
          rintro ⟨e, he, hetimeout⟩
          cases he
          exact absurd hetimeout htimeout

/-- **How a group's turn begins**: with its oldest event, of which it then
has one less. -/
theorem turn_spec (g : Fin t.groupCount) (u : Chronicled t) :
    (u.turn g).1 = (u.scheduler.waiting g).head? ∧
      ((u.turn g).2.1 = true ↔ 1 < (u.scheduler.waiting g).length) ∧
      (u.turn g).2.2.scheduler.now = u.scheduler.now ∧
      (u.turn g).2.2.scheduler.flags = u.scheduler.flags ∧
      (u.turn g).2.2.scheduler.statuses = u.scheduler.statuses ∧
      ∀ k, (u.turn g).2.2.scheduler.waiting k =
        if k = g then (u.scheduler.waiting g).tail else u.scheduler.waiting k := by
  unfold turn
  dsimp only
  split
  · next event rest hpop =>
    have hlist : u.scheduler.waiting g = event :: rest.toList := EventQueue.toList_of_pop hpop
    refine ⟨by rw [hlist]; rfl, ?_, rfl, rfl, rfl, fun k => ?_⟩
    · rw [hlist, Bool.not_eq_true', ← Bool.not_eq_true, EventQueue.isEmpty_iff]
      cases rest.toList <;> simp
    · change ((u.scheduler.queues.put g rest).get k).toList = _
      split
      · next hk =>
        rw [hk, Vector.get_put_self, hlist]
        rfl
      · next hk => rw [Vector.get_put_of_ne _ _ hk]; rfl
  · next hpop =>
    have hlist : u.scheduler.waiting g = [] := (EventQueue.pop_eq_none_iff _).mp hpop
    refine ⟨by rw [hlist]; rfl, by simp [hlist], rfl, rfl, rfl, fun k => ?_⟩
    split
    · next hk =>
      subst hk
      exact hlist.trans (congrArg List.tail hlist).symm
    · rfl

/-! ## All groups' turns -/

/-- **In a pass** of a scheduler that was `s` before it, when the groups
`seen` have had their turns: each of them has one event less, and if more
are left the pass will not be the last. If every group had a timeout to
begin with, whoever was asked rests. -/
structure Halfway (s : Scheduler t) (seen : List (Fin t.groupCount))
    (acc : Consensus × Chronicled t) : Prop where
  now : acc.2.scheduler.now = s.now
  inTable : acc.2.scheduler.InTable
  waiting : ∀ g, acc.2.scheduler.waiting g = if g ∈ seen then (s.waiting g).tail else s.waiting g
  queued : acc.2.scheduler.flags.eventQueued = true ↔ ∃ g ∈ seen, 1 < (s.waiting g).length
  rests : (∀ g ∈ seen, ∃ e, (s.waiting g).head? = some e ∧ e.isTimeout = true) → acc.1.Rests s.now

theorem halfway_visitGroup (hfine : Timely fine s.now)
    (wakesSleepers : Bool) {seen : List (Fin t.groupCount)} {g : Fin t.groupCount} (hg : g ∉ seen)
    {acc : Consensus × Chronicled t} (h : Strayed fine acc.2.chronicle ∨ Halfway s seen acc) :
    Strayed fine (visitGroup wakesSleepers acc g).2.chronicle ∨
      Halfway s (seen ++ [g]) (visitGroup wakesSleepers acc g) := by
  obtain hstrayed | h := h
  · exact .inl ((lasting_strayed fine).passing.visitGroup wakesSleepers acc g hstrayed)
  have hwas : acc.2.scheduler.waiting g = s.waiting g := (h.waiting g).trans (if_neg hg)
  obtain ⟨hevent, hmore, hnow, hflags, hstatuses, hwaiting⟩ := turn_spec g acc.2
  rw [hwas] at hevent hmore
  -- the members, beginning with the state in which the event was taken
  have hbegun : Turning (acc.2.turn g).2.2.scheduler (acc.2.turn g).1
      (.idle, (acc.2.turn g).2.2) :=
    { undisturbed := ⟨rfl, rfl, rfl⟩
      inTable := fun id => hstatuses ▸ h.inTable id
      rests := fun _ _ hnone => nomatch hnone }
  have hmembers := List.foldlRecOn (motive := fun own : Consensus × Chronicled t =>
      Strayed fine own.2.chronicle ∨
        Turning (acc.2.turn g).2.2.scheduler (acc.2.turn g).1 own)
    (t.placed g) (visitMember wakesSleepers (acc.2.turn g).1) (.inr hbegun)
    fun own hown member _ => turning_visitMember (hnow ▸ h.now ▸ hfine) wakesSleepers _ member hown
  unfold visitGroup
  dsimp only
  generalize (t.placed g).foldl (visitMember wakesSleepers (acc.2.turn g).1)
    (.idle, (acc.2.turn g).2.2) = own at hmembers ⊢
  obtain hstrayed | hown := hmembers
  · refine .inl ?_
    split
    · exact hstrayed
    · exact hstrayed
  have hundisturbed := hown.undisturbed
  have hwaits (k : Fin t.groupCount) : own.2.scheduler.waiting k =
      if k ∈ seen ++ [g] then (s.waiting k).tail else s.waiting k := by
    rw [Scheduler.waiting, hundisturbed.queues, ← Scheduler.waiting, hwaiting, hwas]
    by_cases hk : k = g
    · subst hk
      rw [if_pos rfl, if_pos (by simp)]
    · rw [if_neg hk, h.waiting]
      simp [hk]
  have hrests (hall : ∀ k ∈ seen ++ [g], ∃ e, (s.waiting k).head? = some e ∧
      e.isTimeout = true) : (acc.1.merge own.1).Rests s.now := by
    refine (h.rests fun k hk => hall k (List.mem_append_left _ hk)).consider ?_
    obtain ⟨e, he, htimeout⟩ := hall g (by simp)
    have := hown.rests ⟨e, hevent.trans he, htimeout⟩
    rwa [hnow, h.now] at this
  have hqueued : own.2.scheduler.flags.eventQueued = true ↔
      ∃ k ∈ seen, 1 < (s.waiting k).length := by
    rw [hundisturbed.queued, hflags]
    exact h.queued
  refine .inr ?_
  split
  · next hm =>
    exact ⟨hundisturbed.now.trans (hnow.trans h.now), hown.inTable, hwaits,
      iff_of_true rfl ⟨g, by simp, hmore.mp hm⟩, hrests⟩
  · next hm =>
    refine ⟨hundisturbed.now.trans (hnow.trans h.now), hown.inTable, hwaits, hqueued.trans ?_,
      hrests⟩
    simp [mt hmore.mpr hm]

/-- **A pass when all groups have had their turns.** -/
theorem halfway_visitAll {u : Chronicled t}
    (hfine : Timely fine u.scheduler.now) (hin : u.scheduler.InTable) :
    let acc := (u.update Scheduler.inPass).visitAll
    Strayed fine acc.2.chronicle ∨ Halfway u.scheduler t.allGroups acc :=
  Scheduler.foldl_split
    (P := fun seen (acc : Consensus × Chronicled t) =>
      Strayed fine acc.2.chronicle ∨ Halfway u.scheduler seen acc)
    (fun _ _ _ _ hsplit hacc =>
      halfway_visitGroup hfine _ (Topology.notMem_of_allGroups_eq hsplit) hacc)
    (.inr {
      now := rfl
      inTable := hin
      waiting := fun _ => rfl
      queued := iff_of_false Bool.false_ne_true fun ⟨_, hmem, _⟩ => nomatch hmem
      rests := fun _ _ hnone => nomatch hnone })

end Chronicled

/-! ## Timeouts for everyone -/

namespace Scheduler

/-- **An event that is posted to an empty queue** is all that waits in it,
and nothing else is affected. -/
theorem waiting_post_of_empty {s : Scheduler t} {g : Fin t.groupCount} (h : s.waiting g = [])
    (forceNew : Bool) (event : Event) :
    let v := (s.post (t.groupId g) forceNew event).2
    v.statuses = s.statuses ∧ ∀ k, v.waiting k = if k = g then [event] else s.waiting k := by
  have hempty : (s.queues.get g).isEmpty = true := (EventQueue.isEmpty_iff _).mpr h
  obtain ⟨e, he, -⟩ | ⟨k, hk, hcases⟩ := s.post_cases (t.groupId g) forceNew event
  · rw [t.group?_groupId] at he
    cases he
  obtain rfl : g = k := Except.ok.inj ((t.group?_groupId g).symm.trans hk)
  obtain ⟨hfree, hpost⟩ | ⟨hpending, -⟩ | ⟨hfull, -⟩ := hcases
  · rw [hpost]
    refine ⟨rfl, fun k => ?_⟩
    change ((s.queues.put g ((s.queues.get g).append event)).get k).toList = _
    split
    · next hkg =>
      rw [hkg, Vector.get_put_self, EventQueue.toList_append _ _ hfree, ← waiting, h]
      rfl
    · next hkg =>
      rw [Vector.get_put_of_ne _ _ hkg]
      rfl
  · rw [hempty] at hpending
    cases hpending
  · have hlength := (EventQueue.full_iff _).mp hfull
    rw [← waiting, h] at hlength
    exact absurd hlength (Nat.ne_of_lt (EventQueue.capacity_pos _))

/-- **A broadcast to empty queues** leaves the event in each of them. -/
theorem waiting_broadcast_of_empty {s : Scheduler t} (h : ∀ g, s.waiting g = []) (forceNew : Bool)
    (event : Event) :
    let v := s.broadcast forceNew event
    v.statuses = s.statuses ∧ ∀ g, v.waiting g = [event] := by
  have hfold := foldl_split (l := t.allGroups) (f := postNext forceNew event) (b := s)
    (P := fun seen v => v.statuses = s.statuses ∧
      ∀ g, v.waiting g = if g ∈ seen then [event] else [])
    (fun seen g rest v hsplit hv => by
      obtain ⟨hstatuses, hwaiting⟩ := hv
      have hg : g ∉ seen := Topology.notMem_of_allGroups_eq hsplit
      have hnone : (v.note (.queuing (t.groupId g))).waiting g = [] :=
        (hwaiting g).trans (if_neg hg)
      obtain ⟨hstatuses', hwaiting'⟩ := waiting_post_of_empty hnone forceNew event
      refine ⟨hstatuses'.trans hstatuses, fun k => (hwaiting' k).trans ?_⟩
      by_cases hk : k = g
      · rw [if_pos hk, if_pos (by simp [hk])]
      · rw [if_neg hk]
        refine (hwaiting k).trans ?_
        simp [hk])
    ⟨rfl, fun g => (h g).trans (if_neg List.not_mem_nil).symm⟩
  exact ⟨hfold.1, fun g => (hfold.2 g).trans (if_pos (List.mem_finRange g))⟩

end Scheduler

/-! ## Passes -/

namespace Chronicled

variable {fine : Ticks → Prop} {now : Timestamp}

/-- **Between passes** of a run whose time is `now`. -/
structure Ready (now : Timestamp) (u : Chronicled t) : Prop where
  now : u.scheduler.now = now
  inTable : u.scheduler.InTable
  explained : u.Explained

/-- Every queue holds a single timeout. -/
def Ringing (u : Chronicled t) : Prop :=
  ∀ g, ∃ e, u.scheduler.waiting g = [e] ∧ e.isTimeout = true

theorem ready_fireTimeout {u : Chronicled t} (h : Ready now u)
    (hempty : ∀ g, u.scheduler.waiting g = []) :
    Ready now u.fireTimeout ∧ Ringing u.fireTimeout := by
  obtain ⟨hstatuses, hwaiting⟩ :=
    Scheduler.waiting_broadcast_of_empty (s := u.scheduler.note .wakeupReached) hempty false
      .timeout
  have hnow := (u.scheduler.note .wakeupReached).now_broadcast false .timeout
  have hscheduler : u.fireTimeout.scheduler =
      (u.scheduler.note .wakeupReached).broadcast false .timeout := scheduler_fireTimeout u
  rw [← hscheduler] at hnow hstatuses hwaiting
  exact ⟨⟨hnow.trans h.now, fun id => hstatuses ▸ h.inTable id,
    passing_explained.fireTimeout u h.explained⟩, fun g => ⟨_, hwaiting g, rfl⟩⟩

/-- **What a pass can end with** as long as handlers are patient: with a
backlog if a queue had more than one event, and then with one event less
in each; otherwise with sleep, or with timeouts for everyone if they are
not what the pass began with. -/
theorem pass_of_ready (hfine : Timely fine now)
    {u : Chronicled t} (h : Ready now u) (hexit : u.scheduler.flags.exitRequested = false) :
    Strayed fine u.pass.2.chronicle ∨
      ((∃ g, 1 < (u.scheduler.waiting g).length) ∧ u.pass.1 = .again ∧ Ready now u.pass.2 ∧
        ∀ g, u.pass.2.scheduler.waiting g = (u.scheduler.waiting g).tail) ∨
      (∃ wakeup, u.pass.1 = .sleep wakeup) ∨
      ((∀ g, (u.scheduler.waiting g).length ≤ 1) ∧ ¬ Ringing u ∧ u.pass.1 = .again ∧
        Ready now u.pass.2 ∧ Ringing u.pass.2) := by
  have hlasting := (lasting_strayed (t := t) fine).passing
  have hvisited := halfway_visitAll (h.now ▸ hfine) h.inTable
  have hexplained := passing_explained.visitAll (u.update Scheduler.inPass) h.explained
  have hgoes : ¬ (u.update Scheduler.inPass).scheduler.flags.exitRequested = true :=
    ne_true_of_eq_false hexit
  unfold pass
  dsimp only
  rw [if_neg hgoes]
  generalize (u.update Scheduler.inPass).visitAll = acc at hvisited hexplained ⊢
  dsimp only at hvisited
  obtain hstrayed | hvisited := hvisited
  · refine .inl ?_
    split
    · exact hstrayed
    · exact hlasting.commit acc.1 acc.2 hstrayed
  have hwaiting (g : Fin t.groupCount) :
      acc.2.scheduler.waiting g = (u.scheduler.waiting g).tail :=
    (hvisited.waiting g).trans (if_pos (List.mem_finRange g))
  have hready : Ready now acc.2 := ⟨hvisited.now.trans h.now, hvisited.inTable, hexplained⟩
  right
  split
  · next hqueued =>
    obtain ⟨g, -, hg⟩ := hvisited.queued.mp hqueued
    exact .inl ⟨⟨g, hg⟩, rfl, ⟨hready.now, hready.inTable, hready.explained⟩, hwaiting⟩
  · next hqueued =>
    have hshort (g : Fin t.groupCount) : (u.scheduler.waiting g).length ≤ 1 :=
      Nat.le_of_not_lt fun hlong =>
        hqueued (hvisited.queued.mpr ⟨g, List.mem_finRange g, hlong⟩)
    have hempty (g : Fin t.groupCount) : acc.2.scheduler.waiting g = [] := by
      rw [hwaiting, ← List.length_eq_zero_iff, List.length_tail]
      have := hshort g
      omega
    right
    unfold commit
    split
    · next hdue =>
      obtain ⟨hrung, hringing⟩ := ready_fireTimeout hready hempty
      refine .inr ⟨hshort, fun hrings => ?_, rfl, hrung, hringing⟩
      have hrests := hvisited.rests fun g _ => by
        obtain ⟨e, he, htimeout⟩ := hrings g
        exact ⟨e, he ▸ rfl, htimeout⟩
      rw [Scheduler.isDue_eq_false (hvisited.now ▸ hrests)] at hdue
      cases hdue
    · next hdue =>
      refine .inl ⟨(acc.2.scheduler.settle acc.1).scheduled, ?_⟩
      unfold Scheduler.commit
      rw [if_neg hdue]
      rfl

/-! ## Runs -/

/-- **So many passes are enough**, or a handler strays in them: the last of
them ends in sleep, or in an exit that a handler asked for. -/
def Settles (fine : Ticks → Prop) (bound : Nat) (u : Chronicled t) : Prop :=
  Strayed fine (u.passes bound).2.chronicle ∨
    ∃ step s, u.scheduler.runUntilIdle bound = some (step, s) ∧
      ((∃ wakeup, step = .sleep wakeup) ∨
        step = .exit ∧ ExitAsked (u.passes bound).2.chronicle)

/-- One pass more, if it calls for another. -/
theorem settles_of_again {u : Chronicled t} {bound : Nat} (hpass : u.pass.1 = .again)
    (h : Settles fine bound u.pass.2) : Settles fine (bound + 1) u := by
  have hpassed : u.pass = (.again, u.pass.2) := Prod.ext hpass rfl
  have hrun : u.scheduler.runUntilIdle (bound + 1) = u.pass.2.scheduler.runUntilIdle bound := by
    rw [Scheduler.runUntilIdle, scheduler_pass, hpassed]
    rfl
  have hpasses : (u.passes (bound + 1)).2 = (u.pass.2.passes bound).2 := by
    rw [passes, hpassed]
  unfold Settles
  rw [hrun, hpasses]
  exact h

/-- Nothing more, if it ends otherwise. -/
theorem settles_of_not_again {u : Chronicled t} {bound : Nat} (hpass : u.pass.1 ≠ .again)
    (h : (∃ wakeup, u.pass.1 = .sleep wakeup) ∨
      u.pass.1 = .exit ∧ ExitAsked u.pass.2.chronicle) :
    Settles fine (bound + 1) u := by
  have hrun : u.scheduler.runUntilIdle (bound + 1) = some (u.pass.1, u.pass.2.scheduler) := by
    rw [Scheduler.runUntilIdle, scheduler_pass, forget]
    cases hstep : u.pass.1 with
    | again => exact absurd hstep hpass
    | sleep _ | exit => rfl
  have hpasses : (u.passes (bound + 1)).2 = u.pass.2 := by
    rw [passes]
    split
    · next heq => exact absurd (congrArg Prod.fst heq) hpass
    · next heq => exact (congrArg Prod.snd heq).symm
  refine .inr ⟨_, _, hrun, ?_⟩
  rwa [hpasses]

theorem settles_of_sleep {u : Chronicled t} {bound : Nat} {wakeup : Option Timestamp}
    (hpass : u.pass.1 = .sleep wakeup) : Settles fine (bound + 1) u := by
  refine settles_of_not_again ?_ (.inl ⟨wakeup, hpass⟩)
  rw [hpass]
  exact nofun

/-- A handler that strays in the first pass strays in all of them. -/
theorem settles_of_strayed {u : Chronicled t} {bound : Nat}
    (h : Strayed fine u.pass.2.chronicle) : Settles fine (bound + 1) u := by
  refine .inl ?_
  rw [passes]
  split
  · next v heq =>
    rw [heq] at h
    exact (lasting_strayed fine).passing.passes bound v h
  · next heq =>
    rw [heq] at h
    exact h

/-- A pass that begins with a request to exit is the last. -/
theorem settles_of_exit {u : Chronicled t} (h : Ready now u) {bound : Nat}
    (hexit : u.scheduler.flags.exitRequested = true) : Settles fine (bound + 1) u := by
  have hpass : u.pass = (.exit, (u.update Scheduler.inPass).update (Scheduler.note .exiting)) := by
    unfold pass
    exact if_pos hexit
  refine settles_of_not_again ?_ (.inr ⟨?_, ?_⟩)
  · rw [hpass]
    exact nofun
  · rw [hpass]
  · rw [hpass]
    exact h.explained hexit

/-- A pass over queues with no more than one event is the last, or it
begins without timeouts for everyone and ends with them. -/
theorem settles_or_rings (hfine : Timely fine now)
    {u : Chronicled t} (h : Ready now u) (hshort : ∀ g, (u.scheduler.waiting g).length ≤ 1)
    (bound : Nat) :
    Settles fine (bound + 1) u ∨
      (¬ Ringing u ∧ u.pass.1 = .again ∧ Ready now u.pass.2 ∧ Ringing u.pass.2) := by
  cases hexit : u.scheduler.flags.exitRequested with
  | true => exact .inl (settles_of_exit h hexit)
  | false =>
    obtain hstrayed | ⟨⟨g, hlong⟩, -⟩ | ⟨wakeup, hsleep⟩ | ⟨-, hrings, hagain, hready, hrung⟩ :=
      pass_of_ready hfine h hexit
    · exact .inl (settles_of_strayed hstrayed)
    · exact absurd hlong (Nat.not_lt_of_le (hshort g))
    · exact .inl (settles_of_sleep hsleep)
    · exact .inr ⟨hrings, hagain, hready, hrung⟩

/-- Timeouts for everyone need one pass. -/
theorem settles_of_ringing (hfine : Timely fine now)
    {u : Chronicled t} (h : Ready now u) (hrings : Ringing u) (bound : Nat) :
    Settles fine (bound + 1) u := by
  have hshort (g : Fin t.groupCount) : (u.scheduler.waiting g).length ≤ 1 := by
    obtain ⟨e, he, -⟩ := hrings g
    rw [he]
    exact Nat.le_refl 1
  exact (settles_or_rings hfine h hshort bound).resolve_right fun hnot => hnot.1 hrings

/-- **One pass for each event of a queue, and one for the timeouts** that
may come of them. -/
theorem settles_of_length_le (hfine : Timely fine now)
    {n : Nat} {u : Chronicled t} (h : Ready now u)
    (hle : ∀ g, (u.scheduler.waiting g).length ≤ n + 1) : Settles fine (n + 2) u := by
  induction n generalizing u with
  | zero =>
    obtain hsettles | ⟨-, hagain, hready, hrung⟩ := settles_or_rings hfine h hle 1
    · exact hsettles
    · exact settles_of_again hagain (settles_of_ringing hfine hready hrung 0)
  | succ n ih =>
    cases hexit : u.scheduler.flags.exitRequested with
    | true => exact settles_of_exit h hexit
    | false =>
      obtain hstrayed | ⟨-, hagain, hready, htail⟩ | ⟨wakeup, hsleep⟩ |
        ⟨-, -, hagain, hready, hrung⟩ := pass_of_ready hfine h hexit
      · exact settles_of_strayed hstrayed
      · refine settles_of_again hagain (ih hready fun g => ?_)
        rw [htail, List.length_tail]
        exact Nat.sub_le_of_le_add (hle g)
      · exact settles_of_sleep hsleep
      · exact settles_of_again hagain (settles_of_ringing hfine hready hrung (n + 1))

end Chronicled

namespace Scheduler

/-- **The number of events in the longest queue.** -/
def longest (s : Scheduler t) : Nat :=
  Finset.univ.sup fun g => (s.waiting g).length

theorem length_waiting_le (s : Scheduler t) (g : Fin t.groupCount) :
    (s.waiting g).length ≤ s.longest :=
  Finset.le_sup (f := fun g => (s.waiting g).length) (Finset.mem_univ g)

/-- **Passes come to an end**, as long as all handlers are patient in
them. -/
theorem settles_of_patient {fine : Ticks → Prop} {s : Scheduler t}
    (hfine : Timely fine s.now) (hin : s.InTable)
    (hexit : s.flags.exitRequested = false)
    (hpatient : ∀ m ∈ ((Chronicled.of s).passes (max 1 s.longest + 1)).2.chronicle,
      m.incident.Patient fine) :
    ∃ step v, s.runUntilIdle (max 1 s.longest + 1) = some (step, v) ∧
      ((∃ wakeup, step = .sleep wakeup) ∨ step = .exit ∧
        ExitAsked ((Chronicled.of s).passes (max 1 s.longest + 1)).2.chronicle) := by
  obtain ⟨n, hn⟩ : ∃ n, max 1 s.longest = n + 1 := ⟨max 1 s.longest - 1, by omega⟩
  rw [hn] at hpatient ⊢
  have hready : (Chronicled.of s).Ready s.now :=
    ⟨rfl, hin, fun h => absurd (hexit.symm.trans h) Bool.false_ne_true⟩
  have hle (g : Fin t.groupCount) : (s.waiting g).length ≤ n + 1 :=
    hn ▸ (s.length_waiting_le g).trans (Nat.le_max_right ..)
  refine (Chronicled.settles_of_length_le hfine hready hle).resolve_left ?_
  rintro ⟨m, hm, hstrayed⟩
  exact hstrayed (hpatient m hm)

/-- Every delay ends later than now, except at the end of time. -/
theorem lt_value_offset {now : Timestamp} (h : now ≠ .latest) {delay : Ticks} (hdelay : 1 ≤ delay) :
    now.value < (now.offset delay).value := by
  have hlt := now.value_lt
  have hne : now.value ≠ Timestamp.latest.value := mt Timestamp.value_inj.mp h
  have hlatest : Timestamp.latest.value = 0x1_FFFF_FFFF := rfl
  have : 1 ≤ delay.toNat := UInt32.le_iff_toNat_le.mp hdelay
  rw [Timestamp.value_offset]
  omega

/-- **Running until idle comes to an end.** From a state between passes,
with no exit requested and the clock not at the end of time, if during
the run no handler posts, moves the clock, broadcasts, resets or vetoes a
timeout, and the delays after timeouts are one tick or longer, then the
run is over after as many passes as the longest queue has events – or one,
if all are empty – and one more: the scheduler sleeps, or it exits because
a handler has asked for that in the run. The chronicle of the run is one of
the scheduler's own passes. -/
theorem settles_within_longest {s : Scheduler t} (h : Reachable s)
    (hexit : s.flags.exitRequested = false) (hnow : s.now ≠ .latest)
    (hpatient : ∀ m ∈ ((Chronicled.of s).passes (max 1 s.longest + 1)).2.chronicle,
      m.incident.Patient fun delay => 1 ≤ delay) :
    s.passes (max 1 s.longest + 1) =
        Chronicled.forget ((Chronicled.of s).passes (max 1 s.longest + 1)) ∧
      ∃ step v, s.runUntilIdle (max 1 s.longest + 1) = some (step, v) ∧
        ((∃ wakeup, step = .sleep wakeup) ∨ step = .exit ∧
          ExitAsked ((Chronicled.of s).passes (max 1 s.longest + 1)).2.chronicle) :=
  ⟨Chronicled.scheduler_passes _ (Chronicled.of s),
    settles_of_patient (fun _ => lt_value_offset hnow) h.inTable hexit hpatient⟩

/-- An alarm that is set twice is idle after two passes. -/
theorem settles_within_longest_alarm :
    let s := (Alarm.scheduler 3).performAll [.post 0 true ⟨1, 0⟩, .post 0 true ⟨1, 7⟩]
    Reachable s ∧ s.flags.exitRequested = false ∧ s.now ≠ .latest ∧ s.longest = 2 ∧
      (∀ m ∈ ((Chronicled.of s).passes (max 1 s.longest + 1)).2.chronicle,
        m.incident.Patient fun delay => 1 ≤ delay) ∧
      ∃ step v, s.runUntilIdle 3 = some (step, v) ∧ ∃ wakeup, step = .sleep wakeup := by
  intro s
  have hreach : Reachable s := Alarm.reachable 3 _
  have hexit : s.flags.exitRequested = false := by decide +kernel
  have hnow : s.now ≠ .latest := by decide +kernel
  have hlongest : s.longest = 2 := by decide +kernel
  have hpatient : ∀ m ∈ ((Chronicled.of s).passes (max 1 s.longest + 1)).2.chronicle,
      m.incident.Patient fun delay => 1 ≤ delay := by decide +kernel
  obtain ⟨-, step, v, hrun, hstep⟩ := settles_within_longest hreach hexit hnow hpatient
  refine ⟨hreach, hexit, hnow, hlongest, hpatient, step, v, ?_, hstep.resolve_right ?_⟩
  · rwa [hlongest] at hrun
  · rintro ⟨rfl, -⟩
    have hsleep : (s.runUntilIdle (max 1 s.longest + 1)).map Prod.fst =
        some (.sleep (some ⟨3, false⟩)) := by decide +kernel
    rw [hrun] at hsleep
    cases hsleep

/-! ## A machine that asks to exit -/

/-- An alarm clock on which event 1 is a request to exit. -/
def quitter : Machine Unit where
  table :=
    { (Alarm.machine 0).table with
      cells := #v[⟨some .rest, 0⟩, ⟨some fun _ => .ask .exit .done, 0⟩]
      target_lt := fun cell hcell _ => by
        obtain ⟨⟨hcell⟩⟩ := hcell
        simp only [List.mem_cons, List.not_mem_nil, or_false] at hcell
        obtain rfl | rfl := hcell <;> decide }
  init := none

/-- The machine in the place of the alarm clock. -/
def quitting : Topology Unit :=
  { Alarm.topology 0 with
    config := ⟨"quitter", ⟨1, .beforeHandler⟩, true, 0⟩
    machines := #v[quitter] }

/-- **Patience alone does not end in sleep**: two events that ask to exit,
and the pass for the second of them sees the request of the first. -/
theorem exits_within_longest_quitter :
    ∃ s, build quitting () = .ok s ∧
      let s := s.performAll [.post 0 true ⟨1, 0⟩, .post 0 true ⟨1, 1⟩]
      Reachable s ∧ s.flags.exitRequested = false ∧ s.now ≠ .latest ∧ s.longest = 2 ∧
        1 ≤ quitting.config.timing.defaultDelay ∧
        (∀ m ∈ ((Chronicled.of s).passes (max 1 s.longest + 1)).2.chronicle,
          m.incident.Patient fun delay => 1 ≤ delay) ∧
        ¬ ∃ wakeup v, s.runUntilIdle (max 1 s.longest + 1) = some (.sleep wakeup, v) := by
  refine ⟨_, rfl, ?_⟩
  intro s
  have hlongest : s.longest = 2 := by decide +kernel
  have hexits : (s.runUntilIdle (max 1 s.longest + 1)).map Prod.fst = some .exit := by
    decide +kernel
  refine ⟨(Reachable.built rfl).performAll _, by decide +kernel, by decide +kernel, hlongest,
    by decide, by decide +kernel, ?_⟩
  rintro ⟨wakeup, v, hrun⟩
  rw [hrun] at hexits
  cases hexits

end Scheduler

end TimedMachines
