import Mathlib.Logic.Equiv.Basic
import TimedMachines.Proofs.Broadcast
import TimedMachines.Proofs.FreshStart
import TimedMachines.Proofs.Partition
import TimedMachines.Proofs.States

/-!
# Independent machines do not see each other's order

A topology can be declared in another order: the machines, the groups, and
the members of each group (`Topology.Rearrangement`). A scheduler takes
them one after the other, in the order of the declarations, so the two
schedulers of such topologies work in different orders. If every machine is
in one place and inward, nobody can tell: after the same demands the two have
answered alike and **mirror** each other, machine by machine and group by
group (`Mirrors`).

That holds step by step, because each step can be said without an order.
Starts and the turns of a pass are what `Partition` says they are, and
broadcasts what `Broadcast` says. The consensus is the earliest of all
wakeups, which is one of them, so it is in both the same point of time
(`Mirrors.visitAll`). The clock, and what a pass commits to, are kept like by
any relation that is kept in parallel (`Mirrors.parallel`).
-/

namespace TimedMachines

variable {μ : Type} {t t' : Topology μ}

/-! ## Topologies in another order -/

namespace Topology

/-- **The same declarations in another order.** -/
structure Rearrangement (t t' : Topology μ) where
  /-- Where a group is in the other order. -/
  group : Fin t.groupCount ≃ Fin t'.groupCount
  /-- Where a machine is in the other order. -/
  machine : Fin t.machineCount ≃ Fin t'.machineCount
  config_eq : t'.config = t.config
  machines_eq : ∀ id, t'.machines.get (machine id) = t.machines.get id
  members_perm : ∀ g,
    (t'.groups.get (group g)).members.Perm ((t.groups.get g).members.map machine)
  capacity_eq : ∀ g, (t'.groups.get (group g)).queue.capacity = (t.groups.get g).queue.capacity

namespace Rearrangement

/-- The way back. -/
def symm (r : Rearrangement t t') : Rearrangement t' t where
  group := r.group.symm
  machine := r.machine.symm
  config_eq := r.config_eq.symm
  machines_eq id := by
    rw [← r.machines_eq, Equiv.apply_symm_apply]
  members_perm g := by
    have hperm := (r.members_perm (r.group.symm g)).map r.machine.symm
    rw [Equiv.apply_symm_apply, List.map_map, Equiv.symm_comp_self, List.map_id] at hperm
    exact hperm.symm
  capacity_eq g := by
    rw [← r.capacity_eq, Equiv.apply_symm_apply]

theorem groupCount_eq (r : Rearrangement t t') : t'.groupCount = t.groupCount :=
  (Fin.equiv_iff_eq.mp ⟨r.group⟩).symm

theorem mem_members (r : Rearrangement t t') {g : Fin t.groupCount} {id : Fin t.machineCount} :
    r.machine id ∈ (t'.groups.get (r.group g)).members ↔ id ∈ (t.groups.get g).members := by
  rw [(r.members_perm g).mem_iff, List.mem_map_of_injective r.machine.injective]

/-- The other order is a partition too. -/
theorem partitioned (r : Rearrangement t t') (h : t.Partitioned) : t'.Partitioned where
  hosts id := by
    obtain ⟨id, rfl⟩ := r.machine.surjective id
    obtain ⟨g, hg⟩ := h.hosts id
    exact ⟨r.group g, r.mem_members.mpr hg⟩
  group_eq {id g k} hid hid' := by
    obtain ⟨id, rfl⟩ := r.machine.surjective id
    obtain ⟨g, rfl⟩ := r.group.surjective g
    obtain ⟨k, rfl⟩ := r.group.surjective k
    exact congrArg r.group (h.group_eq (r.mem_members.mp hid) (r.mem_members.mp hid'))
  nodup g := by
    obtain ⟨g, rfl⟩ := r.group.surjective g
    exact (r.members_perm g).nodup_iff.mpr ((h.nodup g).map r.machine.injective)

theorem inward (r : Rearrangement t t') (h : t.Inward) : t'.Inward := fun id => by
  obtain ⟨id, rfl⟩ := r.machine.surjective id
  exact r.machines_eq id ▸ h id

/-- What is asked of all groups is asked in any order. -/
theorem any_allGroups (r : Rearrangement t t') {p : Fin t.groupCount → Bool}
    {p' : Fin t'.groupCount → Bool} (h : ∀ g, p' (r.group g) = p g) :
    t'.allGroups.any p' = t.allGroups.any p := by
  rw [Bool.eq_iff_iff, List.any_eq_true, List.any_eq_true]
  refine ⟨fun ⟨g, _, hg⟩ => ?_, fun ⟨g, _, hg⟩ => ?_⟩
  · obtain ⟨g, rfl⟩ := r.group.surjective g
    exact ⟨g, List.mem_finRange g, h g ▸ hg⟩
  · exact ⟨r.group g, List.mem_finRange _, (h g).trans hg⟩

/-- **The index of the same group** in the other order. An index that is
out of range stays as it is. -/
def rename (r : Rearrangement t t') (index : UInt8) : UInt8 :=
  if h : index.toNat < t.groupCount then t'.groupId (r.group ⟨index.toNat, h⟩) else index

theorem rename_groupId (r : Rearrangement t t') (g : Fin t.groupCount) :
    r.rename (t.groupId g) = t'.groupId (r.group g) := by
  have hlt : (t.groupId g).toNat < t.groupCount := t.groupId_toNat g ▸ g.isLt
  have hself : (⟨(t.groupId g).toNat, hlt⟩ : Fin t.groupCount) = g := Fin.ext (t.groupId_toNat g)
  rw [rename, dif_pos hlt, hself]

theorem rename_of_not_lt (r : Rearrangement t t') {index : UInt8}
    (h : ¬ index.toNat < t.groupCount) : r.rename index = index :=
  dif_neg h

end Rearrangement

end Topology

/-! ## Queues with the same contents -/

namespace EventQueue

variable {q q' : EventQueue}

theorem oldest?_of_contents_eq (h : q.contents = q'.contents) :
    q.oldest? = q'.oldest? ∧ q.behind.contents = q'.behind.contents := by
  have hpop := pop_of_contents_eq h
  unfold oldest? behind
  generalize q.pop = popped at hpop ⊢
  generalize q'.pop = popped' at hpop ⊢
  cases hpop with
  | none => exact ⟨rfl, h⟩
  | some hpopped => exact ⟨congrArg some hpopped.1, hpopped.2⟩

end EventQueue

/-! ## Wakeups -/

/-- Two that reach each other's wakeups are one. -/
theorem Consensus.eq_of_reaches {c d : Consensus}
    (h : ∀ wakeup, c.earliest = some wakeup → d.Reaches wakeup)
    (h' : ∀ wakeup, d.earliest = some wakeup → c.Reaches wakeup) : c = d := by
  obtain ⟨_ | a⟩ := c
  · obtain ⟨_ | b⟩ := d
    · rfl
    · obtain ⟨_, hnone, -⟩ := h' b rfl
      cases hnone
  · obtain ⟨b, hb, hba⟩ := h a rfl
    obtain ⟨_, ha, hab⟩ := h' b hb
    cases ha
    rw [← Timestamp.value_inj.mp (Nat.le_antisymm hba hab), ← hb]

/-! ## Demands -/

/-- **What a caller can ask of a scheduler.** -/
inductive Demand where
  /-- An operation. -/
  | perform (operation : Operation)
  /-- Passes until the scheduler would sleep or exit, for which `bound`
  passes are to be enough. -/
  | runUntilIdle (bound : Nat)
deriving DecidableEq, Repr

/-- What a caller is answered. -/
inductive Reply where
  /-- Nothing. -/
  | done
  /-- What became of an event. -/
  | posted (answer : Except Error Enqueued)
  /-- What a pass, or the last of several, ended with. -/
  | stepped (step : Step)

namespace Topology.Rearrangement

variable (r : t.Rearrangement t')

/-- The operation under the other order's indices. -/
def renameOperation : Operation → Operation
  | .post group forceNew event => .post (r.rename group) forceNew event
  | operation => operation

/-- The demand under the other order's indices. -/
def renameDemand : Demand → Demand
  | .perform operation => .perform (r.renameOperation operation)
  | .runUntilIdle bound => .runUntilIdle bound

end Topology.Rearrangement

namespace Scheduler

/-- What is answered to an operation. -/
def reply (s : Scheduler t) : Operation → Reply
  | .post group forceNew event => .posted (s.post group forceNew event).1
  | .pass => .stepped s.pass.1
  | _ => .done

/-- The answer to a demand, and the scheduler after it; nothing, if it takes
more passes than were to be enough. -/
def serve (s : Scheduler t) : Demand → Option (Reply × Scheduler t)
  | .perform operation => some (s.reply operation, s.perform operation)
  | .runUntilIdle bound => (s.runUntilIdle bound).map fun outcome => (.stepped outcome.1, outcome.2)

/-- The answers to some demands, the first of the list first. -/
def serveAll : List Demand → Scheduler t → Option (List Reply × Scheduler t)
  | [], s => some ([], s)
  | demand :: rest, s =>
    (s.serve demand).bind fun answered =>
      (serveAll rest answered.2).map fun others => (answered.1 :: others.1, others.2)

/-! ## Mirrors -/

/-- **Two schedulers mirror each other**: they are in the same state,
machine by machine and group by group. -/
structure Mirrors (r : t.Rearrangement t') (s : Scheduler t) (u : Scheduler t') : Prop where
  flags : u.flags = s.flags
  wakeup : u.wakeup = s.wakeup
  now : u.now = s.now
  latch : u.latch = s.latch
  statuses : ∀ id, u.statuses.get (r.machine id) = s.statuses.get id
  contents : ∀ g, (u.queues.get (r.group g)).contents = (s.queues.get g).contents

namespace Mirrors

variable {r : t.Rearrangement t'} {s : Scheduler t} {u : Scheduler t'}

/-! ### Elementary changes -/

theorem symm (h : Mirrors r s u) : Mirrors r.symm u s where
  flags := h.flags.symm
  wakeup := h.wakeup.symm
  now := h.now.symm
  latch := h.latch.symm
  statuses id := by
    obtain ⟨id, rfl⟩ := r.machine.surjective id
    rw [h.statuses]
    exact congrArg s.statuses.get (r.machine.symm_apply_apply id)
  contents g := by
    obtain ⟨g, rfl⟩ := r.group.surjective g
    rw [h.contents]
    exact congrArg (fun k => (s.queues.get k).contents) (r.group.symm_apply_apply g)

/-- What is reported does not matter. -/
theorem report (h : Mirrors r s u) (entry entry' : Entry) :
    Mirrors r (s.report entry) (u.report entry') := { h with }

theorem wake (h : Mirrors r s u) : Mirrors r s.wake u.wake := { h with latch := rfl }

theorem clearWake (h : Mirrors r s u) : Mirrors r s.clearWake u.clearWake :=
  { h with latch := rfl }

theorem setFlags (h : Mirrors r s u) (change : SchedulerFlags → SchedulerFlags) :
    Mirrors r { s with flags := change s.flags } { u with flags := change u.flags } :=
  { h with flags := congrArg change h.flags }

theorem setNow (h : Mirrors r s u) (ticks : Ticks) :
    Mirrors r { s with now := s.now.advanceTo ticks } { u with now := u.now.advanceTo ticks } :=
  { h with now := congrArg (Timestamp.advanceTo · ticks) h.now }

theorem rewind (h : Mirrors r s u) : Mirrors r s.rewind u.rewind where
  flags := rfl
  wakeup := rfl
  now := rfl
  latch := h.latch
  statuses id := (get_startup _).trans (get_startup _).symm
  contents g := by
    change ((u.queues.map EventQueue.clear).get (r.group g)).contents =
      ((s.queues.map EventQueue.clear).get g).contents
    rw [Vector.get_mapped, Vector.get_mapped]
    refine EventQueue.contents_clear_eq ?_ (EventQueue.toList_clear _)
    exact congrArg BoundedList.capacity (h.contents g)

/-! ### Producers -/

/-- What a group's queue answers. -/
theorem alone (h : Mirrors r s u) (forceNew : Bool) (event : Event) (g : Fin t.groupCount) :
    (u.post (t'.groupId (r.group g)) forceNew event).1 =
        (s.post (t.groupId g) forceNew event).1 ∧
      Mirrors r (s.alone forceNew event g) (u.alone forceNew event (r.group g)) := by
  obtain ⟨hanswer, hqueue⟩ := EventQueue.push_of_contents_eq (h.contents g) forceNew event
  rw [Scheduler.alone, Scheduler.alone, post_groupId, post_groupId]
  refine ⟨hanswer, Mirrors.report ?_ _ _⟩
  rw [answered_eq, answered_eq, hanswer, r.config_eq]
  refine ⟨?_, h.wakeup, h.now, ?_, h.statuses, fun k => ?_⟩
  · dsimp only
    rw [h.flags]
  · dsimp only
    rw [h.latch]
  · dsimp only
    by_cases hk : k = g
    · rw [hk, Vector.get_put_self, Vector.get_put_self, hqueue]
    · rw [Vector.get_put_of_ne _ _ hk, Vector.get_put_of_ne _ _ (r.group.injective.ne hk),
        h.contents]

/-- **A post** is answered alike under the group's other index. -/
theorem post (h : Mirrors r s u) (group : UInt8) (forceNew : Bool) (event : Event) :
    (u.post (r.rename group) forceNew event).1 = (s.post group forceNew event).1 ∧
      Mirrors r (s.post group forceNew event).2 (u.post (r.rename group) forceNew event).2 := by
  by_cases hrange : group.toNat < t.groupCount
  · have hgroup : group = t.groupId ⟨group.toNat, hrange⟩ :=
      UInt8.toNat_inj.mp (t.groupId_toNat ⟨group.toNat, hrange⟩).symm
    rw [hgroup, r.rename_groupId]
    exact h.alone forceNew event _
  · have hgroup := Topology.group?_eq_error_iff.mpr ⟨rfl, hrange⟩
    have hgroup' := Topology.group?_eq_error_iff.mpr ⟨rfl, r.groupCount_eq ▸ hrange⟩
    rw [r.rename_of_not_lt hrange, Scheduler.post, Scheduler.post, hgroup, hgroup']
    exact ⟨rfl, h.report _ _⟩

/-- **A broadcast** comes to the same, in whatever order it gets around. -/
theorem broadcast (h : Mirrors r s u) (forceNew : Bool) (event : Event) :
    Mirrors r (s.broadcast forceNew event) (u.broadcast forceNew event) := by
  have hspread := s.spread_broadcast forceNew event
  have hspread' := u.spread_broadcast forceNew event
  have halone (g : Fin t.groupCount) := (h.alone forceNew event g).2
  have hqueued : (u.broadcast forceNew event).flags.eventQueued =
      (s.broadcast forceNew event).flags.eventQueued := by
    rw [hspread.eventQueued, hspread'.eventQueued, h.flags,
      r.any_allGroups fun g => congrArg SchedulerFlags.eventQueued (halone g).flags]
  have hwoken : (u.broadcast forceNew event).latch.woken =
      (s.broadcast forceNew event).latch.woken := by
    rw [hspread.woken, hspread'.woken, h.latch,
      r.any_allGroups fun g => congrArg Latch.woken (halone g).latch]
  have hcontents (g : Fin t.groupCount) :
      ((u.broadcast forceNew event).queues.get (r.group g)).contents =
        ((s.broadcast forceNew event).queues.get g).contents := by
    rw [hspread.queue g (List.mem_finRange g), hspread'.queue _ (List.mem_finRange _)]
    exact (halone g).contents g
  obtain ⟨queues, queued, ⟨woken⟩, journal, hs⟩ := hspread.rest
  obtain ⟨queues', queued', ⟨woken'⟩, journal', hu⟩ := hspread'.rest
  rw [hs, hu] at hqueued hwoken hcontents ⊢
  dsimp only at hqueued hwoken
  subst hqueued hwoken
  exact ⟨by rw [h.flags], h.wakeup, h.now, rfl, h.statuses, hcontents⟩

theorem rebase (h : Mirrors r s u) : Mirrors r s.rebase u.rebase where
  flags := h.flags
  wakeup := congrArg Timestamp.rebased h.wakeup
  now := congrArg Timestamp.rebased h.now
  latch := h.latch
  statuses id := by
    change ((u.statuses.map Status.rebased).get (r.machine id)) =
      ((s.statuses.map Status.rebased).get id)
    rw [Vector.get_mapped, Vector.get_mapped, h.statuses]
  contents := h.contents

/-- **The two go on in parallel.** -/
theorem parallel (r : t.Rearrangement t') : Parallel (Mirrors r) where
  flags h := h.flags.symm
  wakeup h := h.wakeup.symm
  now h := h.now.symm
  report h entry := h.report entry entry
  wake := wake
  setFlags := setFlags
  setWakeup h _ := { h with wakeup := rfl }
  setNow := setNow
  rebase := rebase
  broadcast := broadcast

theorem reaction_eq (r : t.Rearrangement t') (wakesSleepers : Bool) (event : Option Event)
    (now : Timestamp) (id : Fin t.machineCount) (before : Status) :
    reaction wakesSleepers event now (r.machine id) before =
      reaction wakesSleepers event now id before := by
  cases event with
  | none => rfl
  | some event =>
    unfold reaction
    dsimp only
    rw [r.machines_eq, r.config_eq]

section Independent

variable (hpartitioned : t.Partitioned) (hinward : t.Inward)

include hpartitioned hinward

/-! ### Starts -/

theorem start (h : Mirrors r s u) : Mirrors r s.start u.start := by
  have hmoved := moved_start hpartitioned hinward s
  have hmoved' := moved_start (r.partitioned hpartitioned) (r.inward hinward) u
  have hstatuses (id : Fin t.machineCount) :
      u.start.statuses.get (r.machine id) = s.start.statuses.get id := by
    rw [hmoved.moved id (Topology.mem_everyone.mpr (hpartitioned.hosts id)),
      hmoved'.moved _ (Topology.mem_everyone.mpr ((r.partitioned hpartitioned).hosts _)),
      r.machines_eq, h.now, h.statuses]
  obtain ⟨statuses, journal, hs⟩ := hmoved.rest
  obtain ⟨statuses', journal', hu⟩ := hmoved'.rest
  rw [hs, hu] at hstatuses ⊢
  exact ⟨h.flags, h.wakeup, h.now, h.latch, hstatuses, h.contents⟩

theorem reset (h : Mirrors r s u) : Mirrors r s.reset u.reset :=
  (h.report _ _).rewind.start hpartitioned hinward

/-! ### Passes -/

/-- **All turns of a pass** come to the same, in whatever order they are
taken. -/
theorem visitAll (h : Mirrors r s u) : Mirrors r s.visitAll.2 u.visitAll.2 := by
  have htoured := toured_visitAll hpartitioned hinward s
  have htoured' := toured_visitAll (r.partitioned hpartitioned) (r.inward hinward) u
  have hqueues (g : Fin t.groupCount) := EventQueue.oldest?_of_contents_eq (h.contents g)
  have hqueued : u.visitAll.2.flags.eventQueued = s.visitAll.2.flags.eventQueued := by
    rw [htoured.eventQueued, htoured'.eventQueued, h.flags, r.any_allGroups fun g =>
      congrArg not (EventQueue.isEmpty_of_contents_eq (hqueues g).2)]
  have hstatuses (id : Fin t.machineCount) :
      u.visitAll.2.statuses.get (r.machine id) = s.visitAll.2.statuses.get id := by
    obtain ⟨g, hg⟩ := hpartitioned.hosts id
    rw [htoured.moved g (List.mem_finRange g) id hg,
      htoured'.moved (r.group g) (List.mem_finRange _) _ (r.mem_members.mpr hg),
      reaction_eq, h.flags, h.now, h.statuses, (hqueues g).1]
  have hcontents (g : Fin t.groupCount) :
      (u.visitAll.2.queues.get (r.group g)).contents = (s.visitAll.2.queues.get g).contents := by
    rw [htoured.queue g (List.mem_finRange g), htoured'.queue _ (List.mem_finRange _)]
    exact (hqueues g).2
  obtain ⟨statuses, queues, queued, journal, hs⟩ := htoured.rest
  obtain ⟨statuses', queues', queued', journal', hu⟩ := htoured'.rest
  rw [hs, hu] at hqueued hstatuses hcontents ⊢
  dsimp only at hqueued
  subst hqueued
  exact ⟨by rw [h.flags], h.wakeup, h.now, h.latch, hstatuses, hcontents⟩

/-- What the machines of one scheduler wait for, the consensus of the other
reaches. -/
theorem reaches_visitAll (h : Mirrors r s u)
    (hqueued : s.visitAll.2.flags.eventQueued = false) (wakeup : Timestamp)
    (hwakeup : s.visitAll.1.earliest = some wakeup) : u.visitAll.1.Reaches wakeup := by
  have hattained := (attained_visitAll hinward.calm fun g _ => hpartitioned.metFirst g).resolve_left
    (ne_true_of_eq_false hqueued)
  obtain ⟨id, -, hid⟩ := hattained wakeup hwakeup
  rw [← (h.visitAll hpartitioned hinward).statuses id] at hid
  exact covers_visitAll (r.inward hinward).calm u ((r.partitioned hpartitioned).hosts _) wakeup hid

/-- **The consensus is the same**, unless another pass follows anyway. -/
theorem consensus_eq (h : Mirrors r s u)
    (hqueued : s.visitAll.2.flags.eventQueued = false) : u.visitAll.1 = s.visitAll.1 := by
  have hqueued' : u.visitAll.2.flags.eventQueued = false :=
    (congrArg SchedulerFlags.eventQueued (h.visitAll hpartitioned hinward).flags).trans hqueued
  exact Consensus.eq_of_reaches
    (h.symm.reaches_visitAll (r.partitioned hpartitioned) (r.inward hinward) hqueued')
    (h.reaches_visitAll hpartitioned hinward hqueued)

/-- **Passes end with the same step.** -/
theorem pass (h : Mirrors r s u) : Alongside (Mirrors r) s.pass u.pass :=
  have hbegun := (parallel r).inPass h
  (parallel r).pass h (hbegun.visitAll hpartitioned hinward) fun hqueued =>
    (hbegun.consensus_eq hpartitioned hinward hqueued).symm

/-! ### Operations -/

theorem perform (h : Mirrors r s u) (operation : Operation) :
    Alongside (Mirrors r) (s.reply operation, s.perform operation)
      (u.reply (r.renameOperation operation), u.perform (r.renameOperation operation)) := by
  cases operation with
  | start => exact ⟨rfl, h.start hpartitioned hinward⟩
  | reset => exact ⟨rfl, h.reset hpartitioned hinward⟩
  | post group forceNew event =>
    obtain ⟨hanswer, hposted⟩ := h.post group forceNew event
    exact ⟨congrArg Reply.posted hanswer.symm, hposted⟩
  | broadcast forceNew event => exact ⟨rfl, h.broadcast forceNew event⟩
  | advance ticks => exact ⟨rfl, (parallel r).advance h ticks⟩
  | heartbeat => exact ⟨rfl, (parallel r).heartbeat h⟩
  | requestExit => exact ⟨rfl, (parallel r).requestExit h⟩
  | wake => exact ⟨rfl, h.wake⟩
  | takeWake => exact ⟨rfl, h.clearWake⟩
  | pass =>
    obtain ⟨hstep, hpassed⟩ := h.pass hpartitioned hinward
    exact ⟨congrArg Reply.stepped hstep, hpassed⟩

theorem serve (h : Mirrors r s u) (demand : Demand) :
    Option.Rel (Alongside (Mirrors r)) (s.serve demand) (u.serve (r.renameDemand demand)) := by
  cases demand with
  | perform operation => exact .some (h.perform hpartitioned hinward operation)
  | runUntilIdle bound =>
    exact (runUntilIdle_rel (fun _ _ h => h.pass hpartitioned hinward) h bound).map fun _ _ hran =>
      ⟨congrArg Reply.stepped hran.1, hran.2⟩

theorem serveAll (h : Mirrors r s u) (demands : List Demand) :
    Option.Rel (Alongside (Mirrors r)) (s.serveAll demands)
      (u.serveAll (demands.map r.renameDemand)) := by
  induction demands generalizing s u with
  | nil => exact .some ⟨rfl, h⟩
  | cons demand rest ih =>
    refine (h.serve hpartitioned hinward demand).bind fun _ _ _ hserved => ?_
    exact (ih hserved.2).map fun _ _ hrest => ⟨congrArg₂ List.cons hserved.1 hrest.1, hrest.2⟩

end Independent

end Mirrors

/-- Schedulers that were just put together mirror each other. -/
theorem mirrors_of_build (r : t.Rearrangement t') {memory : μ} {s : Scheduler t}
    (hs : build t memory = .ok s) (memory' : μ) :
    ∃ u, build t' memory' = .ok u ∧ Mirrors r s u := by
  obtain ⟨hgroups, rfl⟩ := eq_of_build hs
  refine ⟨_, if_neg (r.groupCount_eq ▸ hgroups), rfl, rfl, rfl, rfl, fun id => ?_, fun g => ?_⟩
  · exact (get_startup _).trans (get_startup _).symm
  · dsimp only
    rw [Vector.get_mapped, Vector.get_mapped, EventQueue.contents, EventQueue.contents]
    simp only [Group.queue_empty, r.capacity_eq]

/-- **Independent machines do not see each other's order.** Two topologies
have the same machines, groups, members and capacities in different orders,
every machine is in one place, and the handlers go by state, event and time
alone. If the one scheduler can be put together, so can the other, and
whatever is demanded of the two, under the indices of their orders, they
give the same answers and mirror each other afterwards – or both take more
passes than were to be enough. -/
theorem order_unseen (r : t.Rearrangement t') (hpartitioned : t.Partitioned) (hinward : t.Inward)
    {memory : μ} {s : Scheduler t} (hs : build t memory = .ok s) (memory' : μ) :
    ∃ u, build t' memory' = .ok u ∧ ∀ demands : List Demand,
      Option.Rel (Alongside (Mirrors r)) (s.serveAll demands)
        (u.serveAll (demands.map r.renameDemand)) := by
  obtain ⟨u, hu, hmirrors⟩ := mirrors_of_build r hs memory'
  exact ⟨u, hu, hmirrors.serveAll hpartitioned hinward⟩

/-! ## A topology in two orders -/

/-- An alarm clock that refuses to be set again while it ticks. -/
def stubborn (ticks : Ticks) : Machine Unit where
  table :=
    { (Alarm.machine ticks).table with
      cells := #v[⟨some .rest, 0⟩, ⟨some fun view =>
        if view.left = infiniteTicks then .delay ticks .done else .veto .done, 0⟩]
      target_lt := fun cell hcell _ => by
        obtain ⟨⟨hcell⟩⟩ := hcell
        simp only [List.mem_cons, List.not_mem_nil, or_false] at hcell
        obtain rfl | rfl := hcell <;> exact Nat.zero_lt_one }
  init := some fun _ => .delay ticks .done

theorem inward_stubborn (ticks : Ticks) : (stubborn ticks).Inward := by
  rintro handler (hinit | ⟨state, code, target, hcell⟩)
  · cases hinit
    exact ⟨fun _ => trivial, fun _ _ => rfl⟩
  · have hmem := Table.mem_cells hcell
    change _ ∈ #v[_, _] at hmem
    simp only [Vector.mem_mk, List.mem_toArray, List.mem_cons, List.not_mem_nil, or_false,
      Cell.mk.injEq, Option.some.injEq] at hmem
    obtain ⟨rfl, -⟩ | ⟨rfl, -⟩ := hmem
    · exact ⟨fun _ => trivial, fun _ _ => rfl⟩
    · refine ⟨fun view => ?_, fun _ _ => rfl⟩
      split <;> trivial

theorem inward_wanderer : wanderer.Inward := by
  rintro handler (hinit | ⟨state, code, target, hcell⟩)
  · cases hinit
    exact ⟨fun _ _ => trivial, fun _ _ => rfl⟩
  · have hmem := Table.mem_cells hcell
    change _ ∈ #v[_, _, _, _] at hmem
    simp only [Vector.mem_mk, List.mem_toArray, List.mem_cons, List.not_mem_nil, or_false,
      Cell.mk.injEq, Option.some.injEq, reduceCtorEq, false_and, false_or] at hmem
    obtain ⟨rfl, -⟩ | ⟨rfl, -⟩ := hmem
    · exact ⟨fun _ _ _ => trivial, fun _ _ => rfl⟩
    · exact ⟨fun _ => trivial, fun _ _ => rfl⟩

/-- A queue with three slots. -/
def threeSlots : EventQueue :=
  (EventQueue.create 3).toOption.get rfl

theorem toList_alarmQueue : Alarm.queue.toList = [] := rfl

theorem two_le_maxGroups : 2 ≤ maxGroups := by
  decide

/-- Two stubborn clocks and a wanderer. The first clock and the wanderer
share a queue with three slots, the second clock has two to itself. -/
def household : Topology Unit where
  config := (Alarm.topology 3).config
  machineCount := 3
  machines := #v[stubborn 3, wanderer, stubborn 5]
  groupCount := 2
  groups := #v[⟨[0, 1], threeSlots, by decide, rfl⟩,
    ⟨[2], Alarm.queue, by decide, toList_alarmQueue⟩]
  groupCount_le := two_le_maxGroups

/-- The same with the wanderer first and the clocks after it. -/
def household' : Topology Unit where
  config := (Alarm.topology 3).config
  machineCount := 3
  machines := #v[wanderer, stubborn 5, stubborn 3]
  groupCount := 2
  groups := #v[⟨[1], Alarm.queue, by decide, toList_alarmQueue⟩,
    ⟨[0, 2], threeSlots, by decide, rfl⟩]
  groupCount_le := two_le_maxGroups

/-- Where everything went. -/
def rearranged : household.Rearrangement household' where
  group := show Fin 2 ≃ Fin 2 from ⟨(· + 1), (· + 1), by decide, by decide⟩
  machine := show Fin 3 ≃ Fin 3 from ⟨(· + 2), (· + 1), by decide, by decide⟩
  config_eq := rfl
  machines_eq := fun id : Fin 3 => by
    obtain ⟨_ | _ | _ | _, hlt⟩ := id
    · rfl
    · rfl
    · rfl
    · omega
  members_perm := by decide
  capacity_eq := by decide

theorem partitioned_household : household.Partitioned where
  hosts := by
    unfold Topology.Hosts
    decide
  group_eq {id g k} := by
    revert id g k
    decide
  nodup := by decide

theorem inward_household : household.Inward := fun id : Fin 3 => by
  obtain ⟨_ | _ | _ | _, hlt⟩ := id
  · exact inward_stubborn 3
  · exact inward_wanderer
  · exact inward_stubborn 5
  · omega

/-- **Nobody can tell.** One queue is full and one group does not exist,
under the indices of either order; the first clock refuses to be set again,
the wanderer moves on, and the timeout at tick 3 turns the first clock off
but not the second. -/
theorem order_unseen_household :
    let demands (group : UInt8) : List Demand := [.perform .start, .runUntilIdle 3,
      .perform (.post group true ⟨1, 0⟩), .perform (.post group true ⟨1, 8⟩),
      .perform (.post group true ⟨1, 9⟩), .perform (.post 7 true ⟨1, 9⟩),
      .perform (.broadcast false ⟨1, 4⟩), .perform (.advance 3), .perform .pass, .runUntilIdle 9]
    let replies : List Reply := [.done, .stepped (.sleep (some ⟨3, false⟩)),
      .posted (.ok .appended), .posted (.ok .appended), .posted (.error .queueFull),
      .posted (.error (.invalidGroup 7)),
      .done, .done, .stepped .again, .stepped (.sleep (some ⟨5, false⟩))]
    household.Partitioned ∧ household.Inward ∧
      (demands 1).map rearranged.renameDemand = demands 0 ∧
      ∃ s u, build household () = .ok s ∧ build household' () = .ok u ∧
        ∃ v w, s.serveAll (demands 1) = some (replies, v) ∧
          u.serveAll (demands 0) = some (replies, w) ∧ Mirrors rearranged v w := by
  intro demands replies
  have hrenamed : (demands 1).map rearranged.renameDemand = demands 0 := by decide +kernel
  have hbuilt : ∃ s, build household () = .ok s ∧
      (s.serveAll (demands 1)).map Prod.fst = some replies :=
    ⟨_, rfl, by with_unfolding_all rfl⟩
  obtain ⟨s, hs, hreplies⟩ := hbuilt
  obtain ⟨u, hu, hunseen⟩ := order_unseen rearranged partitioned_household inward_household hs ()
  obtain ⟨⟨_, v⟩, hv, rfl⟩ := Option.map_eq_some_iff.mp hreplies
  have hanswers := hunseen (demands 1)
  rw [hv, hrenamed] at hanswers
  generalize hw : u.serveAll (demands 0) = outcome at hanswers
  obtain @⟨_, ⟨_, w⟩, rfl, hmirrors⟩ := hanswers
  exact ⟨partitioned_household, inward_household, hrenamed, s, u, hs, hu, v, w, hv, hw, hmirrors⟩

end Scheduler

end TimedMachines
