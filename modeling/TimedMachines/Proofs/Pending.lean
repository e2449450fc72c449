import Mathlib.Tactic.ByContra
import TimedMachines.Proofs.Alarm

/-!
# No event is slept through

An event that is pending must not be forgotten: while the scheduler is
awake something has to make it run another pass, and while it sleeps
something has to wake it. Both are the same kind of property – a queue
that is not empty **heralds** a sign – and it holds for three signs: the
flag for queued events in a pass, that flag or a request to exit between
passes, and the latch in sleep.

One lemma, `stable_heralds`, has the argument for all of them. An event
that takes a slot raises the sign, and an event that coalesces needs a
queue that was not empty before, so that the sign was there already: that
is why a scheduler that does not wake for such events loses none.

A pass takes the flag down, so it must be shown again group by group, in
the order in which they have their turns (`announced_visitGroup`). A
group whose queue is not empty after the pop announces itself, and what
handlers post later – to a group that had its turn or to one that had
not – raises the flag.
-/

namespace TimedMachines

namespace Scheduler

variable {μ : Type} {t : Topology μ}

/-! ## Signs -/

/-- Every group among `groups` that has an event pending shows the sign. -/
def Heralds (sign : Scheduler t → Prop) (groups : List (Fin t.groupCount)) (s : Scheduler t) :
    Prop :=
  ∀ g ∈ groups, (s.queues.get g).toList ≠ [] → sign s

/-- **What makes a property a sign**: producers and moving machines keep
it, and an event that takes a slot raises it. -/
structure IsSign (sign : Scheduler t → Prop) : Prop extends Lasting sign where
  write : ∀ (id : Fin t.machineCount) (status : Status) (s : Scheduler t),
    sign s → sign ((slot id).write status s)
  append : ∀ (s : Scheduler t) (r : Record), sign (s.markQueued.wake.record r)

/-- Nothing is pending after a return to startup. -/
theorem heralds_rewind (sign : Scheduler t → Prop) (groups : List (Fin t.groupCount))
    (s : Scheduler t) : Heralds sign groups s.rewind := fun k _ hne =>
  absurd ((congrArg EventQueue.toList
    (Vector.get_mapped EventQueue.clear s.queues k)).trans (EventQueue.toList_clear _)) hne

/-- **Queues go on heralding a sign**, whatever is posted, whichever
machines move, and across resets. -/
theorem stable_heralds {sign : Scheduler t → Prop} (hsign : IsSign sign)
    (groups : List (Fin t.groupCount)) :
    Stable (Heralds sign groups) where
  post group forceNew event s h := by
    obtain ⟨e, -, hpost⟩ | ⟨g, -, ⟨-, hpost⟩ | ⟨hpending, hpost⟩ | ⟨-, hpost⟩⟩ :=
      s.post_cases group forceNew event
    · rw [hpost]
      exact fun k hk hne => hsign.report _ s (h k hk hne)
    · rw [hpost]
      exact fun _ _ _ => hsign.append _ _
    · -- a queue that takes an event without a slot was not empty before
      intro k hk hne
      refine hsign.post group forceNew event s (h k hk ?_)
      by_cases hkg : k = g
      · exact hkg ▸ EventQueue.toList_ne_nil _ hpending
      · have hother : (s.post group forceNew event).2.queues.get k = s.queues.get k := by
          rw [hpost]
          split <;> exact s.queues.get_put_of_ne _ hkg
        rwa [hother] at hne
    · rw [hpost]
      exact fun k hk hne => hsign.report _ _ (hsign.wake s (h k hk hne))
  setClock now s h := fun k hk hne => hsign.setClock now s (h k hk hne)
  wake s h := fun k hk hne => hsign.wake s (h k hk hne)
  requestExit s h := fun k hk hne => hsign.requestExit s (h k hk hne)
  amend change s h := fun k hk hne => hsign.amend change s (h k hk hne)
  report entry s h := fun k hk hne => hsign.report entry s (h k hk hne)
  rewind s _ := heralds_rewind sign groups s
  write id status s h := fun k hk hne => hsign.write id status s (h k hk hne)

/-- The flag for queued events, from the pass in which they are queued. -/
def IsAnnounced (s : Scheduler t) : Prop :=
  s.flags.eventQueued = true

/-- That flag, or a request to exit. -/
def IsAnnouncedOrExiting (s : Scheduler t) : Prop :=
  s.flags.eventQueued = true ∨ s.flags.exitRequested = true

/-- The latch that ends a sleep. -/
def IsWoken (s : Scheduler t) : Prop :=
  s.latch.woken = true

/-- **What can be a sign**: a property of that flag, that request and the
latch which no more of them takes away, and which an event that takes a
slot – it sets the flag and the latch – brings about. -/
theorem isSign_of_raised (raised : Bool → Bool → Bool → Prop)
    (hwake : ∀ queued exit woken, raised queued exit woken → raised queued exit true)
    (hexit : ∀ queued exit woken, raised queued exit woken → raised queued true true)
    (happend : ∀ exit, raised true exit true) :
    IsSign fun s : Scheduler t =>
      raised s.flags.eventQueued s.flags.exitRequested s.latch.woken where
  post group forceNew event s h := by
    obtain ⟨e, -, hpost⟩ | ⟨g, -, ⟨-, hpost⟩ | ⟨-, hpost⟩ | ⟨-, hpost⟩⟩ :=
      s.post_cases group forceNew event
    · exact hpost ▸ h
    · exact hpost ▸ happend _
    · rw [hpost]
      split
      · exact hwake _ _ _ h
      · exact h
    · exact hpost ▸ hwake _ _ _ h
  setClock _ _ h := h
  wake _ h := hwake _ _ _ h
  requestExit _ h := hexit _ _ _ h
  amend _ _ h := h
  report _ _ h := h
  write _ _ _ h := h
  append _ _ := happend _

theorem isSign_announced : IsSign (IsAnnounced (t := t)) :=
  isSign_of_raised (fun queued _ _ => queued = true) (fun _ _ _ h => h) (fun _ _ _ h => h)
    fun _ => rfl

theorem isSign_announcedOrExiting : IsSign (IsAnnouncedOrExiting (t := t)) :=
  isSign_of_raised (fun queued exit _ => queued = true ∨ exit = true) (fun _ _ _ h => h)
    (fun _ _ _ _ => .inr rfl) fun _ => .inl rfl

theorem isSign_woken : IsSign (IsWoken (t := t)) :=
  isSign_of_raised (fun _ _ woken => woken = true) (fun _ _ _ _ => rfl) (fun _ _ _ _ => rfl)
    fun _ => rfl

/-! ## A pass, group by group -/

/-- **A group announces what it keeps**: after its turn its own events are
announced too. -/
theorem announced_visitGroup (wakesSleepers : Bool) (seen : List (Fin t.groupCount))
    (g : Fin t.groupCount) (acc : Consensus × Scheduler t)
    (h : Heralds IsAnnounced seen acc.2) :
    Heralds IsAnnounced (seen ++ [g]) (visitGroup wakesSleepers acc g).2 := by
  have hstable := stable_heralds (t := t) isSign_announced (seen ++ [g])
  have hmembers (event : Option Event) (s : Scheduler t)
      (hs : Heralds IsAnnounced (seen ++ [g]) s) :
      Heralds IsAnnounced (seen ++ [g])
        ((t.placed g).foldl (visitMember wakesSleepers event) (.idle, s)).2 :=
    hstable.visitMembers wakesSleepers event _ _ hs
  obtain ⟨event, rest, hpop, hturn⟩ | ⟨hpop, hturn⟩ := visitGroup_cases wakesSleepers acc g
  · rw [hturn]
    cases hrest : rest.isEmpty with
    | false =>
      -- the backlog raises the flag at the end of the turn
      exact fun _ _ _ => rfl
    | true =>
      refine hmembers _ _ fun k hk hne => ?_
      by_cases hkg : k = g
      · subst hkg
        exact absurd (by simpa [Vector.get_put_self, EventQueue.isEmpty_iff] using hrest) hne
      · replace hne : ((acc.2.queues.put g rest).get k).toList ≠ [] := hne
        rw [acc.2.queues.get_put_of_ne _ hkg] at hne
        exact h k (by simpa [hkg] using hk) hne
  · rw [hturn]
    refine hmembers _ _ fun k hk hne => ?_
    by_cases hkg : k = g
    · subst hkg
      exact absurd ((EventQueue.pop_eq_none_iff _).mp hpop) hne
    · exact h k (by simpa [hkg] using hk) hne

/-- **After all turns everything pending is announced**, whatever was
pending or announced before the pass. -/
theorem announced_visitAll (s : Scheduler t) :
    Heralds IsAnnounced t.allGroups s.visitAll.2 :=
  foldl_seen (P := fun seen (acc : Consensus × Scheduler t) => Heralds IsAnnounced seen acc.2)
    (fun seen acc g _ h => announced_visitGroup _ seen g acc h) fun _ hmem => nomatch hmem

/-- Committing to a wakeup leaves the queues alone. -/
theorem queues_settle (consensus : Consensus) (s : Scheduler t) :
    (s.settle consensus).queues = s.queues := by
  unfold settle
  dsimp only
  split <;> rfl

/-- **A scheduler that goes to sleep has nothing pending.** -/
theorem toList_queues_of_sleep {s asleep : Scheduler t} {wakeup : Option Timestamp}
    (h : s.pass = (.sleep wakeup, asleep)) (g : Fin t.groupCount) :
    (asleep.queues.get g).toList = [] := by
  obtain ⟨consensus, visited, hvisit, hqueued, -, -, rfl⟩ := sleep_of_pass h
  have hheralds := announced_visitAll s.inPass
  rw [hvisit] at hheralds
  have hqueues : (visited.settle consensus).queues = visited.queues :=
    queues_settle consensus visited
  by_contra hne
  have : IsAnnounced visited := hheralds g (List.mem_finRange g) (by rwa [← hqueues])
  exact absurd (hqueued.symm.trans this) Bool.false_ne_true

/-- A pass leaves nothing pending without an announcement, or stops for an
exit that is requested. -/
theorem heralds_pass (s : Scheduler t) :
    Heralds IsAnnouncedOrExiting t.allGroups s.pass.2 := by
  have hheralds := announced_visitAll s.inPass
  obtain ⟨hexit, hpass⟩ | ⟨consensus, visited, -, hvisit, hcases⟩ := s.pass_cases
  · exact hpass ▸ fun _ _ _ => .inr hexit
  · rw [hvisit] at hheralds
    obtain ⟨hqueued, hpass⟩ | ⟨-, -, hpass⟩ | ⟨-, -, hpass⟩ := hcases
    · exact hpass ▸ fun _ _ _ => .inl hqueued
    · rw [hpass]
      exact (stable_heralds isSign_announcedOrExiting _).toLasting.broadcast _ _ _
        fun g hg hne => .inl (hheralds g hg hne)
    · have hempty := toList_queues_of_sleep hpass
      rw [hpass]
      exact fun g _ hne => absurd (hempty g) hne

/-! ## Runs -/

/-- Between passes everything pending is announced, or an exit is
requested. -/
theorem Reachable.heralds {s : Scheduler t} (h : Reachable s) :
    Heralds IsAnnouncedOrExiting t.allGroups s := by
  induction h with
  | built hbuild =>
    obtain ⟨-, rfl⟩ := eq_of_build hbuild
    intro g _ hne
    exact absurd (by simpa [Vector.get_mapped] using (t.groups.get g).queue_empty) hne
  | performed operation _ ih =>
    cases hasleep : operation.leavesAsleep with
    | true => exact (stable_heralds isSign_announcedOrExiting _).perform hasleep _ ih
    | false =>
      cases operation with
      | pass => exact heralds_pass _
      | takeWake => exact ih
      | start | reset | post _ _ _ | broadcast _ _ | advance _ | heartbeat | requestExit | wake =>
        cases hasleep

/-- **No event is slept through.** Between passes, an event that is
pending is announced, unless the scheduler is to exit. A pass that ends
in sleep leaves nothing pending. And while the scheduler sleeps – with
its latch cleared, or before it gets to that – the latch is set as soon
as anything is pending, whichever producers, resets and starts there are,
and whether or not events that coalesce wake the scheduler. -/
theorem nothing_slept_through {s : Scheduler t} (h : Reachable s) :
    (∀ g : Fin t.groupCount, (s.queues.get g).toList ≠ [] →
        s.flags.eventQueued = true ∨ s.flags.exitRequested = true) ∧
      ∀ wakeup asleep, s.pass = (.sleep wakeup, asleep) →
        (∀ g : Fin t.groupCount, (asleep.queues.get g).toList = []) ∧
          ∀ sleeper, sleeper = asleep ∨ sleeper = asleep.clearWake →
            ∀ operations : List Operation, (∀ op ∈ operations, op.leavesAsleep = true) →
              ∀ g : Fin t.groupCount, ((sleeper.performAll operations).queues.get g).toList ≠ [] →
                (sleeper.performAll operations).latch.woken = true := by
  refine ⟨fun g => h.heralds g (List.mem_finRange g), fun wakeup asleep hpass => ?_⟩
  have hempty := toList_queues_of_sleep hpass
  refine ⟨hempty, fun sleeper hsleeper operations hasleep g => ?_⟩
  have hheralds : Heralds IsWoken t.allGroups sleeper := by
    obtain rfl | rfl := hsleeper
    · exact fun k _ hne => absurd (hempty k) hne
    · exact fun k _ hne => absurd (hempty k) hne
  exact (stable_heralds isSign_woken _).performAll hasleep _ hheralds g (List.mem_finRange g)

/-- An alarm that is being set is announced, nothing is pending once it is
set, and setting it twice more during the sleep – the second time quietly –
wakes the scheduler. -/
theorem nothing_slept_through_alarm :
    let s := (Alarm.scheduler 3).performAll [.post 0 false ⟨1, 0⟩]
    let sleeper := s.pass.2.clearWake
    let reset := sleeper.performAll [.post 0 false ⟨1, 7⟩, .post 0 false ⟨1, 8⟩]
    Reachable s ∧ (s.queues.get Alarm.group).toList = [⟨1, 0⟩] ∧
      (s.flags.eventQueued = true ∨ s.flags.exitRequested = true) ∧
      s.pass = (.sleep (some ⟨3, false⟩), s.pass.2) ∧
      (s.pass.2.queues.get Alarm.group).toList = [] ∧
      (reset.queues.get Alarm.group).toList = [⟨1, 8⟩] ∧ reset.latch.woken = true := by
  intro s sleeper reset
  have hreach : Reachable s := Alarm.reachable 3 _
  have hsleep : s.pass.1 = .sleep (some ⟨3, false⟩) := by decide +kernel
  have hpass : s.pass = (.sleep (some ⟨3, false⟩), s.pass.2) := by rw [← hsleep]
  have hqueue : (s.queues.get Alarm.group).toList = [⟨1, 0⟩] := by decide +kernel
  have hreset : (reset.queues.get Alarm.group).toList = [⟨1, 8⟩] := by decide +kernel
  obtain ⟨hannounced, hasleep⟩ := nothing_slept_through hreach
  obtain ⟨hempty, hwoken⟩ := hasleep _ _ hpass
  refine ⟨hreach, hqueue, hannounced Alarm.group ?_, hpass, hempty Alarm.group, hreset, ?_⟩
  · exact hqueue ▸ List.cons_ne_nil _ _
  · exact hwoken sleeper (.inr rfl) _ (by decide) Alarm.group (hreset ▸ List.cons_ne_nil _ _)

end Scheduler

end TimedMachines
