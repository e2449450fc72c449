import TimedMachines.Proofs.Alarm
import TimedMachines.Proofs.Parallel
import TimedMachines.Proofs.Patience
import TimedMachines.Scheduler.Report

/-!
# A reset is a fresh start

A reset leaves three things of the past behind: the latch, the memory that
handlers share, and the journal. The rest goes back to what it was when
the scheduler was put together – the queues not quite, since their rings
stay where they are, with old events in their slots. `Resembles` is the
relation between such a scheduler and one that is fresh: everything else
is equal, of the queues only the contents, and both journals go on in the
same way.

The relation is kept by all that can be done to both (`Resembles.perform`),
because handlers cannot see what is not in it: they never look at the
latch, and those that would tell one memory from another are excluded
(`Topology.Forgetful`). So both schedulers are worlds that match, and
nothing that either of them answers depends on the past
(`Resembles.lookAlike`).

The latch is the one thing that can differ at first. What sets it sets
both, and what clears it clears both; from the first time it is cleared
the two latches are equal.
-/

namespace TimedMachines

/-! ## Queues with the same contents -/

namespace EventQueue

variable {q r : EventQueue}

/-- A push does to queues with the same contents the same. -/
theorem push_of_contents_eq (h : q.contents = r.contents) (forceNew : Bool) (event : Event) :
    (q.push forceNew event).1 = (r.push forceNew event).1 ∧
      (q.push forceNew event).2.contents = (r.push forceNew event).2.contents := by
  obtain ⟨hanswer, hcontents⟩ := q.push_contents forceNew event
  obtain ⟨hanswer', hcontents'⟩ := r.push_contents forceNew event
  rw [hanswer, hanswer', hcontents, hcontents', h]
  exact ⟨rfl, rfl⟩

/-- So does a pop. -/
theorem pop_of_contents_eq (h : q.contents = r.contents) :
    Option.Rel (fun popped popped' => popped.1 = popped'.1 ∧
      popped.2.contents = popped'.2.contents) q.pop r.pop := by
  have hlist : q.toList = r.toList := congrArg BoundedList.events h
  have hcapacity : q.capacity = r.capacity := congrArg BoundedList.capacity h
  cases hq : q.pop with
  | none =>
    rw [r.pop_eq_none_iff.mpr (hlist ▸ q.pop_eq_none_iff.mp hq)]
    exact .none
  | some popped =>
    cases hr : r.pop with
    | none =>
      have : q.pop = none := q.pop_eq_none_iff.mpr (hlist.trans (r.pop_eq_none_iff.mp hr))
      exact nomatch hq.symm.trans this
    | some popped' =>
      have hcons := (toList_of_pop hq).symm.trans (hlist.trans (toList_of_pop hr))
      obtain ⟨hevent, hrest⟩ := List.cons.inj hcons
      refine .some ⟨hevent, ?_⟩
      simp only [contents, hrest, capacity_of_pop hq, capacity_of_pop hr, hcapacity]

theorem full_of_contents_eq (h : q.contents = r.contents) : q.full = r.full := by
  have hlist : q.toList = r.toList := congrArg BoundedList.events h
  have hcapacity : q.capacity = r.capacity := congrArg BoundedList.capacity h
  rw [Bool.eq_iff_iff, full_iff, full_iff, hlist, hcapacity]

theorem isEmpty_of_contents_eq (h : q.contents = r.contents) : q.isEmpty = r.isEmpty := by
  rw [isEmpty_eq, isEmpty_eq, show q.toList = r.toList from congrArg BoundedList.events h]

/-- A queue that is cleared has the contents of any empty queue of its
size. -/
theorem contents_clear_eq (hcapacity : q.capacity = r.capacity) (hempty : r.toList = []) :
    q.clear.contents = r.contents := by
  simp only [contents, toList_clear, hempty, show q.clear.capacity = r.capacity from hcapacity]

end EventQueue

variable {μ : Type} {t : Topology μ}

/-- **No handler looks at the memory**: what it does is the same whatever
is in there. -/
def Topology.Forgetful (t : Topology μ) : Prop :=
  ∀ id, (t.machines.get id).Overlooks fun _ _ => True

namespace Scheduler

/-- **Two schedulers look alike**: they are seen in the same state, and
answer alike to whatever is asked of them. -/
structure LookAlike (s u : Scheduler t) : Prop where
  flags : s.flags = u.flags
  now : s.now = u.now
  scheduled : s.scheduled = u.scheduled
  statuses : s.statuses = u.statuses
  pending : ∀ group, s.pending group = u.pending group
  report : ∀ group position, s.status group position = u.status group position
  post : ∀ group forceNew event, (s.post group forceNew event).1 = (u.post group forceNew event).1
  step : s.pass.1 = u.pass.1

/-- **What two schedulers went through** before they were alike. -/
structure Pasts where
  /-- The journal of the first. -/
  journal : Journal
  /-- The journal of the second. -/
  other : Journal
  /-- Whether their latches have been cleared since then. -/
  settled : Prop

/-- **A scheduler resembles another**: only their memories and the rings
of their queues may differ, and their journals in what they began with.
The second may sleep where the first would not, until their latches are
cleared. -/
structure Resembles (past : Pasts) (s u : Scheduler t) : Prop where
  flags : s.flags = u.flags
  wakeup : s.wakeup = u.wakeup
  now : s.now = u.now
  statuses : s.statuses = u.statuses
  contents : ∀ g, (s.queues.get g).contents = (u.queues.get g).contents
  latch : u.latch.woken = true → s.latch.woken = true
  settled : past.settled → s.latch = u.latch
  journal : ∃ news, s.journal = past.journal ++ news ∧ u.journal = past.other ++ news

namespace Resembles

variable {past : Pasts} {s u : Scheduler t}

/-! ## Elementary changes -/

theorem report (h : Resembles past s u) (entry : Entry) :
    Resembles past (s.report entry) (u.report entry) := by
  obtain ⟨news, hs, hu⟩ := h.journal
  refine { h with journal := ⟨news.push entry, ?_, ?_⟩ }
  · rw [Scheduler.report, hs, Array.append_push]
  · rw [Scheduler.report, hu, Array.append_push]

theorem wake (h : Resembles past s u) :
    Resembles past s.wake u.wake :=
  { h with
    latch := fun _ => rfl
    settled := fun _ => rfl }

/-- A latch that was cleared is settled. -/
theorem clearWake (h : Resembles past s u) :
    Resembles { past with settled := True } s.clearWake u.clearWake :=
  { h with
    latch := id
    settled := fun _ => rfl }

theorem setFlags (h : Resembles past s u) (change : SchedulerFlags → SchedulerFlags) :
    Resembles past { s with flags := change s.flags }
      { u with flags := change u.flags } :=
  { h with flags := congrArg change h.flags }

theorem markQueued (h : Resembles past s u) : Resembles past s.markQueued u.markQueued :=
  h.setFlags fun flags => { flags with eventQueued := true }

theorem setNow (h : Resembles past s u) (ticks : Ticks) :
    Resembles past { s with now := s.now.advanceTo ticks }
      { u with now := u.now.advanceTo ticks } :=
  { h with now := congrArg (Timestamp.advanceTo · ticks) h.now }

theorem setQueue (h : Resembles past s u) (g : Fin t.groupCount)
    {queue queue' : EventQueue} (hqueue : queue.contents = queue'.contents) :
    Resembles past { s with queues := s.queues.put g queue }
      { u with queues := u.queues.put g queue' } := by
  refine { h with contents := fun k => ?_ }
  change ((s.queues.put g queue).get k).contents = ((u.queues.put g queue').get k).contents
  by_cases hk : k = g
  · rw [hk, Vector.get_put_self, Vector.get_put_self, hqueue]
  · rw [Vector.get_put_of_ne _ _ hk, Vector.get_put_of_ne _ _ hk, h.contents]

theorem rewind (h : Resembles past s u) :
    Resembles past s.rewind u.rewind where
  flags := rfl
  wakeup := rfl
  now := rfl
  statuses := rfl
  contents g := by
    change ((s.queues.map EventQueue.clear).get g).contents =
      ((u.queues.map EventQueue.clear).get g).contents
    rw [Vector.get_mapped, Vector.get_mapped]
    refine EventQueue.contents_clear_eq ?_ (EventQueue.toList_clear _)
    exact congrArg BoundedList.capacity (h.contents g)
  latch := h.latch
  settled := h.settled
  journal := h.journal

/-! ## Producers -/

theorem post (h : Resembles past s u) (group : UInt8) (forceNew : Bool)
    (event : Event) :
    (s.post group forceNew event).1 = (u.post group forceNew event).1 ∧
      Resembles past (s.post group forceNew event).2
        (u.post group forceNew event).2 := by
  unfold Scheduler.post
  cases t.group? group with
  | error e => exact ⟨rfl, h.report _⟩
  | ok g =>
    obtain ⟨hanswer, hcontents⟩ := EventQueue.push_of_contents_eq (h.contents g) forceNew event
    dsimp only
    revert hanswer hcontents
    rcases (s.queues.get g).push forceNew event with ⟨answer, queue⟩
    rcases (u.queues.get g).push forceNew event with ⟨_, queue'⟩
    rintro rfl hcontents
    have hset := h.setQueue g hcontents
    cases answer with
    | error e => exact ⟨rfl, hset.wake.report _⟩
    | ok outcome =>
      cases outcome with
      | appended => exact ⟨rfl, hset.markQueued.wake.report _⟩
      | coalesced =>
        refine ⟨rfl, Resembles.report ?_ _⟩
        exact ite_rel (fun _ => hset.wake) fun _ => hset

theorem broadcast (h : Resembles past s u) (forceNew : Bool) (event : Event) :
    Resembles past (s.broadcast forceNew event) (u.broadcast forceNew event) :=
  List.foldl_rel h fun g _ _ _ h => ((h.report _).post (t.groupId g) forceNew event).2

theorem rebase (h : Resembles past s u) : Resembles past s.rebase u.rebase :=
  { h with
    wakeup := congrArg Timestamp.rebased h.wakeup
    now := congrArg Timestamp.rebased h.now
    statuses := congrArg (Vector.map Status.rebased) h.statuses }

/-- **The two go on in parallel.** -/
theorem parallel : Parallel (Resembles (t := t) past) where
  flags := Resembles.flags
  wakeup := Resembles.wakeup
  now := Resembles.now
  report := report
  wake := wake
  setFlags := setFlags
  setWakeup h _ := { h with wakeup := rfl }
  setNow := setNow
  rebase := rebase
  broadcast := broadcast

/-! ## Handlers and starts -/

/-- **The two are worlds that match**, if what they mean by a start keeps
them alike. -/
theorem matches_world {start : Scheduler t → Scheduler t}
    (hstart : ∀ s u, Resembles past s u →
      Resembles past (start s) (start u)) :
    (world start).Matches (world start) (fun _ _ => True) (Resembles past) where
  now s u h := ⟨h.now, h⟩
  post group forceNew event s u h := h.post group forceNew event
  ask request s u h := by
    cases request with
    | advance ticks => exact parallel.advance h ticks
    | heartbeat => exact parallel.heartbeat h
    | broadcast forceNew event => exact h.broadcast forceNew event
    | exit => exact parallel.requestExit h
    | reset => exact hstart _ _ (h.report _).rewind
    | start => exact hstart s u h
  consult _ _ _ := trivial
  amend _ _ _ h := { h with }
  report entry s u h := h.report entry

theorem matches_slot (id : Fin t.machineCount) :
    (slot id).Matches (slot id) (Resembles past) where
  read _ _ h := congrArg (Vector.get · id) h.statuses
  write status _ _ h := { h with statuses := congrArg (Vector.put · id status) h.statuses }

/-- Starts keep them alike, however deep they nest. -/
theorem start (hforgetful : t.Forgetful) (h : Resembles past s u) :
    Resembles past s.start u.start := by
  have hprepare {start : Scheduler t → Scheduler t}
      (hstart : ∀ s u, Resembles past s u →
        Resembles past (start s) (start u)) (s u : Scheduler t)
      (h : Resembles past s u) :
      Resembles past (prepareAll (world start) s)
        (prepareAll (world start) u) :=
    List.foldl_rel h fun _ _ _ _ h => List.foldl_rel h fun member _ _ _ h =>
      Machine.prepare_matches (matches_world hstart) (matches_slot member.2)
        (hforgetful member.2) member.1 h
  have hwithin (depth : Nat) : ∀ s u : Scheduler t, Resembles past s u →
      Resembles past (s.startWithin depth) (u.startWithin depth) := by
    induction depth with
    | zero => exact hprepare fun _ _ h => h
    | succ depth ih => exact hprepare ih
  exact hwithin _ s u h

theorem reset (hforgetful : t.Forgetful) (h : Resembles past s u) :
    Resembles past s.reset u.reset :=
  (h.report _).rewind.start hforgetful

/-! ## Passes -/

/-- Equal values beside schedulers that resemble each other. -/
def Beside {α : Type} (past : Pasts) (acc acc' : α × Scheduler t) : Prop :=
  acc.1 = acc'.1 ∧ Resembles past acc.2 acc'.2

theorem visitMember (hforgetful : t.Forgetful) (wakesSleepers : Bool) (event : Option Event)
    {acc acc' : Consensus × Scheduler t} (h : Beside past acc acc')
    (member : Coords × Fin t.machineCount) :
    Beside past (visitMember wakesSleepers event acc member)
      (visitMember wakesSleepers event acc' member) := by
  obtain ⟨consensus, s⟩ := acc
  obtain ⟨_, u⟩ := acc'
  obtain ⟨rfl, h⟩ := h
  have hinsert {s' u' : Scheduler t} (h' : Resembles past s' u') :
      Beside past (consensus.insert ((slot member.2).read s'), s')
        (consensus.insert ((slot member.2).read u'), u') :=
    ⟨by rw [(matches_slot member.2).read s' u' h'], h'⟩
  cases event with
  | none => exact hinsert h
  | some event =>
    exact hinsert (Machine.deliver_matches (matches_world fun _ _ h => h.start hforgetful)
      (matches_slot member.2) (hforgetful member.2) _ wakesSleepers member.1 event h)

theorem visitGroup (hforgetful : t.Forgetful) (wakesSleepers : Bool)
    {acc acc' : Consensus × Scheduler t} (h : Beside past acc acc')
    (g : Fin t.groupCount) :
    Beside past (visitGroup wakesSleepers acc g)
      (visitGroup wakesSleepers acc' g) := by
  obtain ⟨consensus, s⟩ := acc
  obtain ⟨_, u⟩ := acc'
  obtain ⟨rfl, h⟩ := h
  have hnoted : Resembles past (s.note (.visiting (t.groupId g)))
      (u.note (.visiting (t.groupId g))) := h.report _
  -- the members' turns, whatever was popped
  have hmembers {s' u' : Scheduler t} (event : Option Event) {more more' : Bool}
      (hmore : more = more') (h' : Resembles past s' u') :
      let own := (t.placed g).foldl (Scheduler.visitMember wakesSleepers event) (.idle, s')
      let own' := (t.placed g).foldl (Scheduler.visitMember wakesSleepers event) (.idle, u')
      Beside past
        (consensus.merge own.1, if more then own.2.markQueued else own.2)
        (consensus.merge own'.1, if more' then own'.2.markQueued else own'.2) := by
    intro own own'
    subst hmore
    have hfold : Beside past own own' :=
      List.foldl_rel ⟨rfl, h'⟩ fun member _ _ _ h =>
        visitMember hforgetful wakesSleepers event h member
    exact ⟨congrArg consensus.merge hfold.1, ite_rel (fun _ => hfold.2.markQueued) fun _ => hfold.2⟩
  have hpop := EventQueue.pop_of_contents_eq (hnoted.contents g)
  unfold Scheduler.visitGroup
  dsimp only
  generalize ((s.note (.visiting (t.groupId g))).queues.get g).pop = popped at hpop ⊢
  generalize ((u.note (.visiting (t.groupId g))).queues.get g).pop = popped' at hpop ⊢
  cases hpop with
  | none => exact hmembers none rfl (hnoted.report _)
  | @some popped popped' hpopped =>
    obtain ⟨event, rest⟩ := popped
    obtain ⟨_, rest'⟩ := popped'
    obtain ⟨rfl, hrest⟩ := hpopped
    exact hmembers (some event) (congrArg not (EventQueue.isEmpty_of_contents_eq hrest))
      (hnoted.setQueue g hrest)

theorem visitAll (hforgetful : t.Forgetful) (h : Resembles past s u) :
    Beside past s.visitAll u.visitAll := by
  unfold Scheduler.visitAll
  rw [h.flags]
  exact List.foldl_rel ⟨rfl, h⟩ fun g _ _ _ h => visitGroup hforgetful _ h g

/-- **Passes end with the same step** and keep the two alike. -/
theorem pass (hforgetful : t.Forgetful) (h : Resembles past s u) :
    Beside past s.pass u.pass := by
  obtain ⟨hconsensus, hvisited⟩ := (parallel.inPass h).visitAll hforgetful
  exact parallel.pass h hvisited fun _ => hconsensus

/-! ## Runs -/

theorem perform (hforgetful : t.Forgetful) (h : Resembles past s u) (operation : Operation) :
    Resembles past (s.perform operation) (u.perform operation) := by
  cases operation with
  | start => exact h.start hforgetful
  | reset => exact h.reset hforgetful
  | post group forceNew event => exact (h.post group forceNew event).2
  | broadcast forceNew event => exact h.broadcast forceNew event
  | advance ticks => exact parallel.advance h ticks
  | heartbeat => exact parallel.heartbeat h
  | requestExit => exact parallel.requestExit h
  | wake => exact h.wake
  | takeWake => exact { h.clearWake with settled := fun _ => rfl }
  | pass => exact (h.pass hforgetful).2

theorem performAll (hforgetful : t.Forgetful) (h : Resembles past s u)
    (operations : List Operation) :
    Resembles past (s.performAll operations) (u.performAll operations) :=
  List.foldl_rel h fun operation _ _ _ h => h.perform hforgetful operation

/-- The latches are equal once they have been cleared. -/
theorem latch_eq (hforgetful : t.Forgetful) (h : Resembles past s u) {operations : List Operation}
    (hcleared : .takeWake ∈ operations) :
    (s.performAll operations).latch = (u.performAll operations).latch := by
  obtain ⟨before, after, rfl⟩ := List.append_of_mem hcleared
  unfold Scheduler.performAll
  rw [List.foldl_append, List.foldl_append, List.foldl_cons, List.foldl_cons]
  exact ((h.performAll hforgetful before).clearWake.performAll hforgetful after).settled trivial

/-- **Schedulers that resemble each other look alike.** -/
theorem lookAlike (hforgetful : t.Forgetful) (h : Resembles past s u) : LookAlike s u where
  flags := h.flags
  now := h.now
  scheduled := parallel.scheduled h
  statuses := h.statuses
  pending group := by
    unfold Scheduler.pending
    cases t.group? group with
    | error e => rfl
    | ok g => exact congrArg Except.ok (congrArg BoundedList.events (h.contents g))
  report group position := by
    unfold Scheduler.status
    cases t.group? group with
    | error e => rfl
    | ok g =>
      cases t.member? group position with
      | error e => rfl
      | ok id =>
        have hsize : (s.queues.get g).size = (u.queues.get g).size := by
          rw [← EventQueue.length_toList, ← EventQueue.length_toList]
          exact congrArg (fun contents => (BoundedList.events contents).length) (h.contents g)
        dsimp only
        rw [h.flags, h.now, h.statuses, parallel.scheduled h, hsize,
          EventQueue.full_of_contents_eq (h.contents g)]
  post group forceNew event := (h.post group forceNew event).1
  step := (h.pass hforgetful).1

end Resembles

/-- A scheduler that goes back to startup resembles one that was just put
together. -/
theorem resembles_of_build {memory : μ} {s fresh : Scheduler t} (hsized : s.Sized)
    (hfresh : build t memory = .ok fresh) :
    Resembles ⟨s.journal, fresh.journal, False⟩ s.rewind fresh := by
  obtain ⟨-, rfl⟩ := eq_of_build hfresh
  refine ⟨rfl, rfl, rfl, rfl, fun g => ?_, nofun, False.elim, #[], by simp [rewind], by simp⟩
  change ((s.queues.map EventQueue.clear).get g).contents =
    ((t.groups.map Group.queue).get g).contents
  rw [Vector.get_mapped, Vector.get_mapped]
  exact EventQueue.contents_clear_eq (hsized g) (t.groups.get g).queue_empty

/-- **A reset is a fresh start.** No handler looks at the memory. Then a
scheduler that was reset, whatever it went through before, and a scheduler
that was just put together and started look alike after the same
operations, and have reported the same since. The latch of the first is
set when that of the second is, and from the first time that a sleep
clears them the latches are equal. -/
theorem reset_like_fresh_start (hforgetful : t.Forgetful) {s : Scheduler t} (h : Reachable s)
    {memory : μ} {fresh : Scheduler t} (hfresh : build t memory = .ok fresh)
    (operations : List Operation) :
    let again := s.reset.performAll operations
    let first := fresh.start.performAll operations
    LookAlike again first ∧
      (∃ news, again.journal = s.journal.push (.note .resetting) ++ news ∧
        first.journal = fresh.journal ++ news) ∧
      (first.latch.woken = true → again.latch.woken = true) ∧
      (.takeWake ∈ operations → again.latch = first.latch) := by
  have hsized : (s.note .resetting).Sized := h.sized
  have hstarted := (resembles_of_build hsized hfresh).start hforgetful
  have hperformed := hstarted.performAll hforgetful operations
  exact ⟨hperformed.lookAlike hforgetful, hperformed.journal, hperformed.latch,
    hstarted.latch_eq hforgetful⟩

/-- An alarm clock that rang, has another event in its ring and is to exit
is as good as new after a reset: set to ring in three ticks, it rings. -/
theorem reset_like_fresh_start_alarm :
    let used := (Alarm.scheduler 3).performAll
      [.post 0 false ⟨1, 0⟩, .pass, .advance 3, .pass, .post 0 true ⟨1, 7⟩, .requestExit]
    let operations := [Operation.post 0 false ⟨1, 9⟩, .pass, .takeWake, .advance 3]
    let again := used.reset.performAll operations
    let first := (Alarm.scheduler 3).start.performAll operations
    (Alarm.topology 3).Forgetful ∧ Reachable used ∧
      build (Alarm.topology 3) () = .ok (Alarm.scheduler 3) ∧
      (used.waiting Alarm.group = [⟨1, 7⟩] ∧ used.flags.exitRequested = true) ∧
      LookAlike again first ∧ again.pending 0 = first.pending 0 ∧
      first.waiting Alarm.group = [.timeout] ∧ again.latch = first.latch := by
  intro used operations again first
  have hforgetful : (Alarm.topology 3).Forgetful := fun id handler hhandler view => by
    obtain hinit | hhandles := hhandler
    · rw [Alarm.init_eq_none] at hinit
      cases hinit
    · obtain rfl | rfl := Alarm.of_handles hhandles
      · trivial
      · trivial
  have hreach : Reachable used := Alarm.reachable 3 _
  obtain ⟨halike, -, -, hlatch⟩ :=
    reset_like_fresh_start hforgetful hreach (Alarm.build_topology 3) operations
  exact ⟨hforgetful, hreach, Alarm.build_topology 3, by decide +kernel, halike, halike.pending 0,
    by decide +kernel, hlatch (by decide)⟩

end Scheduler

end TimedMachines
