import TimedMachines.Proofs.Pending

/-!
# No wakeup is lost

While the scheduler sleeps, only the clock can tell it that a machine's
wakeup has come, and the clock knows just one time: the wakeup that was
committed to. So that time must not be later than any wakeup of a member
of a group, and reaching it must set the latch.

The first half is about a pass. Each member's wakeup joins the consensus
right after the member's own delivery, and no later delivery of the pass
changes it, as long as handlers do not restart the machines
(`statuses_deliver_of_ne`); so in the end the consensus **covers** every
member (`covers_visitAll`), also one that stands in several groups. What
is committed to is the consensus, and a change of epoch moves the clock,
that time and all wakeups after it alike (`guarded_of_sleep`).

The second half is about producers (`guarded_perform`). A timeout that is
posted when the time has come sets the latch, since its queue is either
empty, so that the timeout takes a slot, or holds something that has set
the latch before.
-/

namespace TimedMachines

/-- A rebased status is scheduled for the same time, seen from the new
epoch. -/
theorem Status.scheduled_rebased (status : Status) :
    status.rebased.scheduled = status.scheduled.map Timestamp.rebased := by
  unfold Status.scheduled Status.rebased
  split <;> rfl

/-! ## Consensus -/

namespace Consensus

/-- The consensus has a wakeup, and not after the given one. -/
def Reaches (c : Consensus) (wakeup : Timestamp) : Prop :=
  ∃ earliest, c.earliest = some earliest ∧ earliest.value ≤ wakeup.value

/-- **The consensus covers a machine**: it is awake by the machine's
wakeup, if there is one. -/
def Covers (c : Consensus) (status : Status) : Prop :=
  ∀ wakeup, status.scheduled = some wakeup → c.Reaches wakeup

theorem reaches_consider {c : Consensus} {wakeup : Timestamp} (h : c.Reaches wakeup)
    (other : Option Timestamp) :
    (c.consider other).Reaches wakeup := by
  obtain ⟨a, ha, hle⟩ := h
  unfold consider
  rw [ha]
  cases other with
  | none => exact ⟨a, rfl, hle⟩
  | some b =>
    refine ⟨a.earlier b, rfl, ?_⟩
    rw [Timestamp.value_earlier]
    omega

theorem reaches_consider_self (c : Consensus) {other : Option Timestamp} {wakeup b : Timestamp}
    (hb : other = some b) (hle : b.value ≤ wakeup.value) :
    (c.consider other).Reaches wakeup := by
  unfold consider
  rw [hb]
  cases c.earliest with
  | none => exact ⟨b, rfl, hle⟩
  | some a =>
    refine ⟨a.earlier b, rfl, ?_⟩
    rw [Timestamp.value_earlier]
    omega

theorem reaches_merge_iff (c d : Consensus) (wakeup : Timestamp) :
    (c.merge d).Reaches wakeup ↔ c.Reaches wakeup ∨ d.Reaches wakeup := by
  constructor
  · rintro ⟨e, he, hle⟩
    unfold merge consider at he
    cases hc : c.earliest with
    | none =>
      rw [hc] at he
      exact .inr ⟨e, he, hle⟩
    | some a =>
      cases hd : d.earliest with
      | none =>
        rw [hc, hd] at he
        cases he
        exact .inl ⟨_, hc, hle⟩
      | some b =>
        rw [hc, hd] at he
        cases he
        rw [Timestamp.value_earlier] at hle
        by_cases hab : a.value ≤ b.value
        · exact .inl ⟨a, hc, by omega⟩
        · exact .inr ⟨b, hd, by omega⟩
  · rintro (hc | ⟨b, hb, hle⟩)
    · exact reaches_consider hc _
    · exact reaches_consider_self c hb hle

/-- Nothing more in the consensus makes it cover less. -/
theorem Covers.merge_insert {c own : Consensus} {status : Status} (h : (c.merge own).Covers status)
    (other : Status) :
    (c.merge (own.insert other)).Covers status := fun wakeup hw =>
  (reaches_merge_iff ..).mpr
    (((reaches_merge_iff ..).mp (h wakeup hw)).imp_right fun hown => reaches_consider hown _)

/-- A machine that joins is covered. -/
theorem covers_merge_insert_self (c own : Consensus) (status : Status) :
    (c.merge (own.insert status)).Covers status := fun _ hw =>
  (reaches_merge_iff ..).mpr (.inr (reaches_consider_self own hw (Nat.le_refl _)))

end Consensus

variable {μ : Type} {t : Topology μ}

namespace Topology

/-- No handler in a table takes the machines back to their startup or
initializes them. -/
def Calm (t : Topology μ) : Prop :=
  ∀ (id : Fin t.machineCount) handler, (t.machines.get id).Handles handler →
    ∀ view, (handler view).Asks fun request => request.restarts = false

end Topology

namespace Scheduler

/-! ## A pass, member by member -/

/-- **A delivery moves no other machine.** -/
theorem statuses_deliver_of_ne (hcalm : t.Calm) {id other : Fin t.machineCount}
    (hne : other ≠ id) (wakesSleepers : Bool) (place : Coords) (event : Event) (s : Scheduler t) :
    (((t.machines.get id).deliver (world start) (slot id) t.config.timing wakesSleepers place event
      s).statuses.get other) = s.statuses.get other :=
  Machine.deliver_keeps (P := fun u => u.statuses.get other = s.statuses.get other)
    ((Lasting.of_statuses fun statuses => statuses.get other = s.statuses.get other).world start)
    (fun _ _ h => (Vector.get_put_of_ne _ _ hne).trans h) (hcalm id) _ _ _ _ s rfl

/-- **One member more is covered**, and those that were covered still
are. -/
theorem covers_visitMember (hcalm : t.Calm) (wakesSleepers : Bool) (event : Option Event)
    (outer : Consensus) (seen : List (Fin t.machineCount)) (acc : Consensus × Scheduler t)
    (member : Coords × Fin t.machineCount)
    (h : ∀ id ∈ seen, (outer.merge acc.1).Covers (acc.2.statuses.get id)) :
    ∀ id ∈ seen ++ [member.2],
      (outer.merge (visitMember wakesSleepers event acc member).1).Covers
        ((visitMember wakesSleepers event acc member).2.statuses.get id) := by
  obtain ⟨own, s⟩ := acc
  obtain ⟨place, machine⟩ := member
  intro id hid
  by_cases hsame : id = machine
  · subst hsame
    exact Consensus.covers_merge_insert_self outer own _
  · have hold : id ∈ seen := by simpa [hsame] using hid
    have hcovers := (h id hold).merge_insert
    cases event with
    | none => exact hcovers _
    | some event =>
      have hother := statuses_deliver_of_ne hcalm hsame wakesSleepers place event s
      rw [← hother] at hcovers
      exact hcovers _

/-- **A group's turn covers its members**, and leaves covered whoever
was. -/
theorem covers_visitGroup (hcalm : t.Calm) (wakesSleepers : Bool) (seen : List (Fin t.machineCount))
    (acc : Consensus × Scheduler t) (g : Fin t.groupCount)
    (h : ∀ id ∈ seen, acc.1.Covers (acc.2.statuses.get id)) :
    ∀ id ∈ seen ++ (t.groups.get g).members,
      (visitGroup wakesSleepers acc g).1.Covers
        ((visitGroup wakesSleepers acc g).2.statuses.get id) := by
  have hmembers (event : Option Event) (s : Scheduler t) (hs : s.statuses = acc.2.statuses) :
      ∀ id ∈ seen ++ (t.groups.get g).members,
        (acc.1.merge ((t.placed g).foldl (visitMember wakesSleepers event) (.idle, s)).1).Covers
          (((t.placed g).foldl (visitMember wakesSleepers event)
            (.idle, s)).2.statuses.get id) := by
    refine foldl_placed (f := visitMember wakesSleepers event) (b := (.idle, s))
      (P := fun seen (own : Consensus × Scheduler t) =>
        ∀ id ∈ seen, (acc.1.merge own.1).Covers (own.2.statuses.get id))
      (fun seen own member _ hown =>
        covers_visitMember hcalm wakesSleepers event acc.1 seen own member hown)
      fun id hid wakeup hw => (Consensus.reaches_merge_iff ..).mpr (.inl
        (h id hid wakeup (by rwa [hs] at hw)))
  obtain ⟨event, rest, -, hturn⟩ | ⟨-, hturn⟩ := visitGroup_cases wakesSleepers acc g
  · rw [hturn]
    split <;> exact hmembers _ _ rfl
  · rw [hturn]
    exact hmembers _ _ rfl

/-- **After all turns every member of a group is covered.** -/
theorem covers_visitAll (hcalm : t.Calm) (s : Scheduler t) {id : Fin t.machineCount}
    (h : t.Hosts id) :
    s.visitAll.1.Covers (s.visitAll.2.statuses.get id) := by
  obtain ⟨seen, hseen, hcovers⟩ := foldl_allGroups
    (f := visitGroup s.flags.timeoutWakesSleepers) (b := (.idle, s))
    (P := fun seen (acc : Consensus × Scheduler t) =>
      ∀ id ∈ seen, acc.1.Covers (acc.2.statuses.get id))
    (fun seen acc g hacc => covers_visitGroup hcalm _ seen acc g hacc)
    fun _ hid => nomatch hid
  exact hcovers id (hseen id h)

/-! ## Going to sleep -/

/-- **The clock keeps watch**: if a member of a group has a wakeup, the
scheduler has committed to a time that has not come and is not after
it. -/
def Guarded (s : Scheduler t) : Prop :=
  ∀ id, t.Hosts id → ∀ wakeup, (s.statuses.get id).scheduled = some wakeup →
    s.flags.infiniteSleep = false ∧ s.wakeup.value ≤ wakeup.value ∧ s.now.value < s.wakeup.value

/-- The earliest wakeup is ahead where it is not due. -/
theorem lt_of_isDue_eq_false {consensus : Consensus} {s : Scheduler t} {e : Timestamp}
    (hdue : s.isDue consensus = false) (he : consensus.earliest = some e) :
    s.now.value < e.value := by
  simpa [isDue, he, ← Bool.not_eq_true, Timestamp.atOrAfter_iff] using hdue

theorem guarded_settle {consensus : Consensus} {s : Scheduler t}
    (hcovers : ∀ id, t.Hosts id → consensus.Covers (s.statuses.get id))
    (hdue : s.isDue consensus = false) :
    Guarded (s.settle consensus) := by
  intro id hid wakeup hwakeup
  unfold settle at hwakeup ⊢
  dsimp only at hwakeup ⊢
  split at hwakeup
  · next hover =>
    rw [if_pos hover]
    -- all times of the new epoch are one turn of the counter earlier
    have hrebased : ((s.statuses.map Status.rebased).get id).scheduled = some wakeup := hwakeup
    rw [Vector.get_mapped, Status.scheduled_rebased, Option.map_eq_some_iff] at hrebased
    obtain ⟨before, hbefore, rfl⟩ := hrebased
    obtain ⟨earliest, hearliest, hle⟩ := hcovers id hid before hbefore
    simp only [epochOver, schedule, Consensus.isInfiniteSleep, hearliest, Option.isNone_some,
      Bool.false_or, Option.getD_some, Bool.and_eq_true] at hover
    have hlater := lt_of_isDue_eq_false hdue hearliest
    have hn := s.now.value_rebased hover.1
    have he := earliest.value_rebased hover.2
    have hb := before.value_rebased (Timestamp.overflow_of_value_le hover.2 hle)
    refine ⟨by simp [rebase, endStartup, schedule, Consensus.isInfiniteSleep, hearliest], ?_, ?_⟩
    · simp only [rebase, endStartup, schedule, hearliest, Option.getD_some]
      omega
    · simp only [rebase, endStartup, schedule, hearliest, Option.getD_some]
      omega
  · next hover =>
    rw [if_neg hover]
    obtain ⟨earliest, hearliest, hle⟩ := hcovers id hid wakeup hwakeup
    have hlater := lt_of_isDue_eq_false hdue hearliest
    simp only [endStartup, schedule, hearliest, Option.getD_some, Consensus.isInfiniteSleep,
      Option.isNone_some]
    exact ⟨trivial, hle, hlater⟩

/-- **A scheduler that goes to sleep is guarded.** -/
theorem guarded_of_sleep (hcalm : t.Calm) {s asleep : Scheduler t} {wakeup : Option Timestamp}
    (h : s.pass = (.sleep wakeup, asleep)) :
    Guarded asleep := by
  obtain ⟨consensus, visited, hvisit, -, hdue, -, rfl⟩ := sleep_of_pass h
  refine guarded_settle (fun id hid => ?_) hdue
  have hcovers := covers_visitAll hcalm s.inPass hid
  rwa [hvisit] at hcovers

/-! ## Sleeping -/

/-- Posting to a group that exists leaves the latch set, if it was set for
whatever is pending. -/
theorem woken_post {s : Scheduler t} (h : Heralds IsWoken t.allGroups s) (g : Fin t.groupCount)
    (forceNew : Bool) (event : Event) :
    IsWoken (s.post (t.groupId g) forceNew event).2 := by
  obtain ⟨e, hgroup, -⟩ | ⟨k, -, ⟨-, hpost⟩ | ⟨hpending, -⟩ | ⟨-, hpost⟩⟩ :=
    s.post_cases (t.groupId g) forceNew event
  · rw [t.group?_groupId] at hgroup
    cases hgroup
  · exact hpost ▸ rfl
  · have hwoken := h k (List.mem_finRange k) (EventQueue.toList_ne_nil _ hpending)
    exact isSign_woken.post _ _ _ s hwoken
  · exact hpost ▸ rfl

/-- **A broadcast ends the sleep**, if there is any group. -/
theorem woken_broadcast {s : Scheduler t} (h : Heralds IsWoken t.allGroups s)
    (g : Fin t.groupCount) (forceNew : Bool) (event : Event) :
    IsWoken (s.broadcast forceNew event) := by
  have hstable := stable_heralds (t := t) isSign_woken t.allGroups
  have hfold := foldl_seen (l := t.allGroups) (f := postNext forceNew event) (b := s)
    (P := fun seen u => Heralds IsWoken t.allGroups u ∧ (seen ≠ [] → IsWoken u))
    (fun _ u k _ hu =>
      have hnoted := hstable.report (.note (.queuing (t.groupId k))) u hu.1
      ⟨hstable.post _ _ _ _ hnoted, fun _ => woken_post hnoted k forceNew event⟩)
    ⟨h, fun hne => absurd rfl hne⟩
  exact hfold.2 (List.ne_nil_of_mem (List.mem_finRange g))

/-- The guard stands while the clock does. -/
theorem standing_guarded : Standing (Guarded (t := t)) where
  post group forceNew event s h := by
    obtain ⟨e, -, hpost⟩ | ⟨g, -, ⟨-, hpost⟩ | ⟨-, hpost⟩ | ⟨-, hpost⟩⟩ :=
      s.post_cases group forceNew event
    · exact hpost ▸ h
    · exact hpost ▸ h
    · rw [hpost]
      split <;> exact h
    · exact hpost ▸ h
  wake _ h := h
  requestExit _ h := h
  report _ _ h := h

/-- **The clock wakes the scheduler when the time has come**, and does not
go past it otherwise. -/
theorem guarded_advance {s : Scheduler t} (hheralds : Heralds IsWoken t.allGroups s)
    (h : Guarded s) (ticks : Ticks) :
    IsWoken (s.advance ticks) ∨ Guarded (s.advance ticks) := by
  unfold advance
  dsimp only
  split
  · next hinfinite =>
    -- nothing was committed to, so that no machine has a wakeup
    have : Guarded { s with now := s.now.advanceTo ticks } := fun id hid wakeup hwakeup =>
      absurd ((h id hid wakeup hwakeup).1.symm.trans hinfinite) Bool.false_ne_true
    split
    · exact .inl rfl
    · exact .inr this
  · split
    · by_cases hgroups : ∃ g : Fin t.groupCount, True
      · obtain ⟨g, -⟩ := hgroups
        have hstable := stable_heralds (t := t) isSign_woken t.allGroups
        exact .inl (woken_broadcast
          (hstable.report _ _ (hstable.setClock (s.now.advanceTo ticks) s hheralds)) g _ _)
      · -- a scheduler without a group has nobody to wake
        refine .inr fun id hid => ?_
        obtain ⟨g, -⟩ := hid
        exact absurd ⟨g, trivial⟩ hgroups
    · next hreached =>
      rw [Timestamp.atOrAfter_iff] at hreached
      exact .inr fun id hid wakeup hwakeup =>
        ⟨(h id hid wakeup hwakeup).1, (h id hid wakeup hwakeup).2.1, Nat.lt_of_not_le hreached⟩

/-- **Producers leave the latch set or the guard standing.** -/
theorem guarded_perform {s : Scheduler t} (hheralds : Heralds IsWoken t.allGroups s)
    (h : IsWoken s ∨ Guarded s) {operation : Operation} (hproducer : operation.isProducers = true) :
    IsWoken (s.perform operation) ∨ Guarded (s.perform operation) := by
  obtain hwoken | hguarded := h
  · exact .inl (isSign_woken.toLasting.perform hproducer s hwoken)
  · cases operation with
    | post group forceNew event =>
      exact .inr (standing_guarded.post group forceNew event s hguarded)
    | broadcast forceNew event => exact .inr (standing_guarded.broadcast forceNew event s hguarded)
    | advance ticks => exact guarded_advance hheralds hguarded ticks
    | heartbeat => exact guarded_advance hheralds hguarded _
    | requestExit => exact .inl rfl
    | wake => exact .inl rfl
    | start | reset | takeWake | pass => cases hproducer

/-- **No wakeup is lost.** A scheduler has gone to sleep and its latch was
cleared; since then producers have posted events and advanced the clock
as they liked. Then the latch is set, or every member of a group that has
a wakeup is still watched over: the scheduler has committed to a time
that is not after that wakeup, and that has not come yet. -/
theorem no_wakeup_lost (hcalm : t.Calm) {s asleep : Scheduler t} {wakeup : Option Timestamp}
    (hpass : s.pass = (.sleep wakeup, asleep)) (operations : List Operation)
    (hproducers : ∀ op ∈ operations, op.isProducers = true) :
    (asleep.clearWake.performAll operations).latch.woken = true ∨
      ∀ g : Fin t.groupCount, ∀ id ∈ (t.groups.get g).members, ∀ w,
        ((asleep.clearWake.performAll operations).statuses.get id).scheduled = some w →
          (asleep.clearWake.performAll operations).flags.infiniteSleep = false ∧
            w.atOrAfter (asleep.clearWake.performAll operations).wakeup = true ∧
            (asleep.clearWake.performAll operations).wakeup.after
              (asleep.clearWake.performAll operations).now = true := by
  have hguarded : Guarded asleep := guarded_of_sleep hcalm hpass
  have hstart : Heralds IsWoken t.allGroups asleep.clearWake ∧
      (IsWoken asleep.clearWake ∨ Guarded asleep.clearWake) :=
    ⟨fun g _ hne => absurd (toList_queues_of_sleep hpass g) hne,
      .inr hguarded⟩
  have hlater := List.foldlRecOn operations perform
    (motive := fun u : Scheduler t => Heralds IsWoken t.allGroups u ∧ (IsWoken u ∨ Guarded u))
    hstart fun u hu op hop =>
      ⟨(stable_heralds isSign_woken t.allGroups).toLasting.perform (hproducers op hop) u hu.1,
        guarded_perform hu.1 hu.2 (hproducers op hop)⟩
  refine hlater.2.imp_right fun hguarded g id hid w hw => ?_
  obtain ⟨hcommitted, hle, hlt⟩ := hguarded id ⟨g, hid⟩ w hw
  exact ⟨hcommitted, Timestamp.atOrAfter_iff.mpr hle, Timestamp.after_iff.mpr hlt⟩

/-- An alarm set three ticks ahead is watched over for two ticks, and the
third one wakes the scheduler. -/
theorem no_wakeup_lost_alarm :
    let s := (Alarm.scheduler 3).performAll [.post 0 false ⟨1, 0⟩]
    let before := s.pass.2.clearWake.performAll [.heartbeat, .post 9 false ⟨1, 0⟩, .heartbeat]
    (Alarm.topology 3).Calm ∧ s.pass = (.sleep (some ⟨3, false⟩), s.pass.2) ∧
      before.latch.woken = false ∧
      (before.statuses.get Alarm.clock).scheduled = some ⟨3, false⟩ ∧
      before.flags.infiniteSleep = false ∧
      (⟨3, false⟩ : Timestamp).atOrAfter before.wakeup = true ∧
      before.wakeup.after before.now = true ∧
      before.heartbeat.latch.woken = true := by
  intro s before
  have hcalm : (Alarm.topology 3).Calm := fun _ _ h view => Alarm.asks_of_handles h _ view
  have hsleep : s.pass.1 = .sleep (some ⟨3, false⟩) := by decide +kernel
  have hpass : s.pass = (.sleep (some ⟨3, false⟩), s.pass.2) := by rw [← hsleep]
  have hwoken : before.latch.woken = false := by decide +kernel
  have hscheduled : (before.statuses.get Alarm.clock).scheduled = some ⟨3, false⟩ := by
    decide +kernel
  have hguarded := (no_wakeup_lost hcalm hpass
    [.heartbeat, .post 9 false ⟨1, 0⟩, .heartbeat] (by decide)).resolve_left
      (by rw [← Bool.not_eq_true] at hwoken; exact hwoken)
  obtain ⟨hcommitted, hle, hlt⟩ :=
    hguarded Alarm.group Alarm.clock List.mem_cons_self _ hscheduled
  exact ⟨hcalm, hpass, hwoken, hscheduled, hcommitted, hle, hlt, by decide +kernel⟩

end Scheduler

end TimedMachines
