import TimedMachines.Proofs.Pending

/-!
# What a reset leaves to be noticed

A reset may come while the scheduler sleeps, and what the initialization
handlers do must then wake it. Their events do: one that takes a slot sets
the latch, so that a scheduler whose latch is clear after a reset has
nothing pending. Their delays do not. A machine that wants to be woken some
ticks after its initialization is not heard of until the next pass, and
until then the scheduler counts as being in infinite sleep, in which
nobody watches the clock (`performAll_of_unwatched`).

So a reset strands nothing if initializations end without a delay
(`reset_strands_nothing`), and the wakeup of any other can be missed
(`reset_strands_wakeup`).
-/

namespace TimedMachines

variable {μ : Type} {t : Topology μ}

/-- **The initialization asks for no wakeup**: it ends with a veto, or
without a delay. -/
def Machine.Dormant (machine : Machine μ) : Prop :=
  ∀ init, machine.init = some init → ∀ view,
    (init view).Ends (fun wishes => wishes.veto = true ∨ ∀ ticks, wishes.stay ≠ .ticks ticks) .none

/-- Whether an operation does nothing but set the clock. -/
def Operation.isClocks : Operation → Bool
  | .advance _ | .heartbeat => true
  | _ => false

theorem Status.scheduled_eq_none_iff (status : Status) :
    status.scheduled = none ↔ status.flags.infiniteSleep = true := by
  unfold Status.scheduled
  split <;> simp_all

/-- Without a delay an initialization changes nothing about the wakeup of a
machine that has none. -/
theorem Machine.scheduled_prepared {before : Status} (h : before.scheduled = none)
    {wishes : Wishes} (hstay : ∀ ticks, wishes.stay ≠ .ticks ticks) (wakeup : Option Timestamp) :
    (prepared before wishes wakeup).scheduled = none := by
  rw [Status.scheduled_eq_none_iff] at h ⊢
  unfold prepared
  cases hwish : wishes.stay with
  | byDefault => exact h
  | ticks delay => exact absurd hwish (hstay delay)
  | forever => rfl

namespace Scheduler

/-! ## Machines in infinite sleep -/

/-- The machine has no wakeup. -/
def Idles (id : Fin t.machineCount) (s : Scheduler t) : Prop :=
  (s.statuses.get id).scheduled = none

/-- An initialization that ends without a delay schedules nothing. -/
theorem idles_prepare {id : Fin t.machineCount} (hdormant : (t.machines.get id).Dormant)
    {w : World (Scheduler t) μ} (hw : w.Keeps (fun _ => True) (Idles id)) (place : Coords)
    (s : Scheduler t) (h : Idles id s) :
    Idles id ((t.machines.get id).prepare w (slot id) place s) := by
  have hwrite {status : Status} (hstatus : status.scheduled = none) (u : Scheduler t) :
      Idles id ((slot id).write status u) := by
    change ((u.statuses.put id status).get id).scheduled = none
    rwa [Vector.get_put_self]
  obtain ⟨-, hprepare⟩ | ⟨init, hinit, hprepare⟩ :=
    (t.machines.get id).prepare_cases w (slot id) place s
  · exact hprepare.symm ▸ h
  · have hnoted := hw.report (.note (.preparing place)) s h
    have hran : Idles id ((t.machines.get id).initRun w (slot id) init place s).2 :=
      Act.run_keeps hw _ _ (Act.asks_any _) .none _ hnoted
    obtain ⟨-, hprepare⟩ | ⟨hveto, hprepare⟩ := hprepare
    · exact hprepare.symm ▸ hran
    · have hends : (_ ∨ ∀ ticks,
          ((t.machines.get id).initRun w (slot id) init place s).1.stay ≠ .ticks ticks) :=
        Act.run_ends _ _ (hdormant init hinit _) _
      have hstay := hends.resolve_left (ne_true_of_eq_false hveto)
      exact hprepare.symm ▸ hwrite (Machine.scheduled_prepared hnoted hstay _) _

/-- No machine has a wakeup after a return to startup. -/
theorem idles_rewind (id : Fin t.machineCount) (s : Scheduler t) : Idles id s.rewind :=
  congrArg Status.scheduled (get_startup id)

/-- **A dormant machine sleeps on** through resets and starts. -/
theorem starting_idles {id : Fin t.machineCount} (hdormant : (t.machines.get id).Dormant) :
    Starting (Idles id) where
  toLasting := Lasting.of_statuses fun statuses => (statuses.get id).scheduled = none
  rewind s _ := idles_rewind id s
  prepare w hw other place s h := by
    by_cases hother : other = id
    · subst hother
      exact idles_prepare hdormant hw place s h
    · have hwrite (status : Status) (u : Scheduler t) (hu : Idles id u) :
          Idles id ((slot other).write status u) :=
        (congrArg Status.scheduled (Vector.get_put_of_ne _ _ (Ne.symm hother))).trans hu
      exact Machine.prepare_keeps hw hwrite (fun _ _ _ => Act.asks_any _) place s h

/-! ## Nobody watches the clock -/

/-- **In infinite sleep the clock is not watched**: as long as no event is
queued, setting it wakes nobody, posts nothing and moves no machine. -/
theorem performAll_of_unwatched {s : Scheduler t} (hinfinite : s.flags.infiniteSleep = true)
    (hqueued : s.flags.eventQueued = false) {operations : List Operation}
    (hclock : ∀ operation ∈ operations, operation.isClocks = true) :
    ∃ now, s.performAll operations = { s with now := now } := by
  have hadvance (now : Timestamp) (ticks : Ticks) :
      advance ticks { s with now := now } = { s with now := now.advanceTo ticks } := by
    unfold advance
    dsimp only
    rw [if_pos hinfinite, if_neg (ne_true_of_eq_false hqueued)]
  refine List.foldlRecOn (motive := fun u : Scheduler t => ∃ now, u = { s with now := now })
    _ _ ⟨s.now, rfl⟩ fun u hu operation hmem => ?_
  obtain ⟨now, rfl⟩ := hu
  have hsets := hclock operation hmem
  cases operation with
  | advance ticks => exact ⟨_, hadvance now ticks⟩
  | heartbeat => exact ⟨_, hadvance now _⟩
  | start | reset | post _ _ _ | broadcast _ _ | requestExit | wake | takeWake | pass => cases hsets

/-! ## Resets -/

/-- **A reset strands nothing** that initializations do not ask for. After
it the latch is set, or nothing is pending and no member of a group has a
wakeup whose initialization ends without a delay. -/
theorem reset_strands_nothing (s : Scheduler t) :
    s.reset.latch.woken = true ∨
      (∀ g : Fin t.groupCount, (s.reset.queues.get g).toList = []) ∧
        ∀ g : Fin t.groupCount, ∀ id ∈ (t.groups.get g).members, (t.machines.get id).Dormant →
          (s.reset.statuses.get id).scheduled = none := by
  cases hwoken : s.reset.latch.woken with
  | true => exact .inl rfl
  | false =>
    refine .inr ⟨fun g => ?_, fun _ id _ hdormant =>
      (starting_idles hdormant).start _ (idles_rewind id _)⟩
    have hheralds : Heralds IsWoken t.allGroups s.reset :=
      (stable_heralds isSign_woken t.allGroups).start _ (heralds_rewind _ _ _)
    by_contra hne
    exact absurd (hwoken.symm.trans (hheralds g (List.mem_finRange g) hne)) Bool.false_ne_true

/-- An alarm clock with an initialization. -/
def napper (init : Handler Unit) : Machine Unit :=
  { Alarm.machine 3 with init := some init }

/-- The machine in the place of an alarm clock. -/
def napping (init : Handler Unit) : Topology Unit :=
  { Alarm.topology 3 with machines := #v[napper init] }

/-- An initialization that asks for a delay and then thinks better of it
leaves nothing behind when it is repeated while the alarm is set. -/
theorem reset_strands_nothing_napping :
    ∃ s, build (napping fun _ => .delay 3 (.delayForever .done)) () = .ok s ∧
      let asleep := s.performAll [.start, .post 0 false ⟨1, 0⟩, .pass, .takeWake]
      (asleep.statuses.get (0 : Fin 1)).scheduled = some ⟨3, false⟩ ∧
        (napper fun _ => .delay 3 (.delayForever .done)).Dormant ∧
        asleep.reset.latch.woken = false ∧
        (asleep.reset.queues.get (0 : Fin 1)).toList = [] ∧
        (asleep.reset.statuses.get (0 : Fin 1)).scheduled = none := by
  refine ⟨_, rfl, ?_⟩
  intro asleep
  have hdormant : (napper fun _ => .delay 3 (.delayForever .done)).Dormant := by
    rintro init ⟨rfl⟩ view
    exact .inr nofun
  have hwoken : asleep.reset.latch.woken = false := by decide +kernel
  obtain ⟨hempty, hidle⟩ := (reset_strands_nothing asleep).resolve_left
    (ne_true_of_eq_false hwoken)
  exact ⟨by decide +kernel, hdormant, hwoken, hempty (0 : Fin 1),
    hidle (0 : Fin 1) (0 : Fin 1) List.mem_cons_self hdormant⟩

/-- **A wakeup is stranded**: an initialization that asks for a delay is
repeated while the scheduler sleeps, and after that the clock can be set as
often and as far as one likes without waking the scheduler. -/
theorem reset_strands_wakeup :
    ∃ s, build (napping fun _ => .delay 3 .done) () = .ok s ∧
      let started := s.performAll [.start]
      let asleep := started.performAll [.pass, .takeWake]
      Reachable asleep ∧ started.pass.1 = .sleep (some ⟨3, false⟩) ∧
        asleep.latch.woken = false ∧ asleep.reset.latch.woken = false ∧
        (asleep.reset.statuses.get (0 : Fin 1)).scheduled = some ⟨3, false⟩ ∧
        ∀ operations, (∀ operation ∈ operations, operation.isClocks = true) →
          (asleep.reset.performAll operations).latch.woken = false ∧
            ((asleep.reset.performAll operations).statuses.get (0 : Fin 1)).scheduled =
              some ⟨3, false⟩ := by
  refine ⟨_, rfl, ?_⟩
  intro started asleep
  have hwoken : asleep.reset.latch.woken = false := by decide +kernel
  have hscheduled : (asleep.reset.statuses.get (0 : Fin 1)).scheduled = some ⟨3, false⟩ := by
    decide +kernel
  refine ⟨(Reachable.built rfl).performAll [.start, .pass, .takeWake], by decide +kernel,
    by decide +kernel, hwoken, hscheduled, fun operations hclock => ?_⟩
  obtain ⟨now, hset⟩ := performAll_of_unwatched (s := asleep.reset) (by decide +kernel)
    (by decide +kernel) hclock
  exact hset ▸ ⟨hwoken, hscheduled⟩

end Scheduler

end TimedMachines
