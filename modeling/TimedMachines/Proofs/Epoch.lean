import TimedMachines.Proofs.Agreement

/-!
# Epochs

Where on the unbounded line of time are the timestamps of a scheduler? An
**epoch** is a true time at which the counter showed zero, and a traced
time is in the epoch if its timestamp says how long after that it was
(`Traced.In`). For two times of one epoch the timestamps decide as the
true times do, and say the same about the time between them.

The times in use are all in one epoch (`Tracked.InEpoch`): the clock, the
committed wakeup, and the wakeups of machines that are not in infinite
sleep. Other wakeups have been left behind, and may belong to any epoch;
only as long as timeouts reach sleeping machines too, which is at the
very beginning, they matter and are in the epoch as well.
-/

namespace TimedMachines

namespace Traced

/-- **The time is in the epoch**, as its timestamp tells. -/
def In (epoch : Nat) (time : Traced) : Prop :=
  time.elapsed = epoch + time.stamp.value

variable {epoch : Nat} {a b : Traced}

/-- The counter shows true time, up to turns. -/
theorem In.ticks_eq (hepoch : 0x1_0000_0000 ∣ epoch) (h : a.In epoch) :
    UInt32.ofNat a.elapsed = a.stamp.ticks := by
  have hticks := a.stamp.ticks.toNat_lt
  rw [← UInt32.toNat_inj, UInt32.toNat_ofNat', h, Timestamp.value]
  split <;> omega

/-- **The order of timestamps is that of true times.** -/
theorem In.atOrAfter_eq (ha : a.In epoch) (hb : b.In epoch) :
    Clock.atOrAfter a b = Clock.atOrAfter a.elapsed b.elapsed := by
  rw [Bool.eq_iff_iff]
  simp only [Clock.atOrAfter, Timestamp.atOrAfter_iff, decide_eq_true_eq]
  rw [ha, hb]
  omega

/-- **The time between timestamps is the true one**, if it is less than a
turn of the counter. -/
theorem In.span_eq (ha : a.In epoch) (hb : b.In epoch) (h : b.elapsed < a.elapsed + 0x1_0000_0000) :
    Clock.span a b = Clock.span a.elapsed b.elapsed := by
  unfold In at *
  have hspan : (a.stamp.ticksUntil b.stamp).toNat = _ :=
    Timestamp.toNat_ticksUntil (by omega)
  simp only [Clock.span]
  omega

/-- The clock stays in the epoch, unless it wraps a second time. -/
theorem In.advanceTo (h : a.In epoch) {ticks : Ticks}
    (hsteady : a.stamp.overflow = true → a.stamp.ticks ≤ ticks) :
    (Clock.advanceTo a ticks).In epoch := by
  have hvalue := Timestamp.value_advanceTo hsteady
  unfold In at *
  simp only [Clock.advanceTo]
  omega

/-- So does the end of a delay. -/
theorem In.offset (h : a.In epoch) {delay : Ticks}
    (hfits : a.stamp.value + delay.toNat < 0x2_0000_0000) :
    (Clock.offset a delay).In epoch := by
  have hvalue := a.stamp.value_offset delay
  unfold In at *
  simp only [Clock.offset]
  omega

/-- Past the wrap, a time is in the next epoch as well. -/
theorem In.rebased (h : a.In epoch) (hwrapped : a.stamp.overflow = true) :
    (Clock.rebased a).In (epoch + 0x1_0000_0000) := by
  have hvalue := a.stamp.value_rebased hwrapped
  unfold In at *
  simp only [Clock.rebased]
  omega

end Traced

/-! ## True times alone -/

/-- A status with nothing but the true time. -/
def StatusOn.unwrapped (status : StatusOn Traced) : StatusOn Nat :=
  ⟨status.state, status.wakeup.elapsed, status.flags⟩

/-- An entry of the log with nothing but true times. -/
def Happening.unwrapped {machines : Nat} : Happening Traced machines → Happening Nat machines
  | .set now ticks => .set now.elapsed ticks
  | .rewound => .rewound
  | .preparing id view => .preparing id view
  | .prepared id base delay => .prepared id base.elapsed delay
  | .processing id view now left => .processing id view now.elapsed left
  | .based id base => .based id base.elapsed
  | .moved id base move =>
    .moved id base.elapsed { move with base := Clock.shown base.elapsed }

/-- **The clock is steady** in an entry of the log: it does not wrap a
second time, and a delay ends on the line of timestamps. -/
def Happening.Steady {machines : Nat} : Happening Traced machines → Prop
  | .set now ticks => now.stamp.overflow = true → now.stamp.ticks ≤ ticks
  | .prepared _ base delay => ∀ d ∈ delay, base.stamp.value + d.toNat < 0x2_0000_0000
  | .moved _ base move => ∀ d ∈ move.delay, base.stamp.value + d.toNat < 0x2_0000_0000
  | .rewound | .preparing .. | .processing .. | .based .. => True

-- The instance is named, since that for finite types would try every delay.
instance {machines : Nat} : DecidablePred (@Happening.Steady machines)
  | .set now ticks =>
    inferInstanceAs (Decidable (now.stamp.overflow = true → now.stamp.ticks ≤ ticks))
  | .prepared _ _ delay => Option.decidableForallMem delay
  | .moved _ _ move => Option.decidableForallMem move.delay
  | .rewound | .preparing .. | .processing .. | .based .. => inferInstanceAs (Decidable True)

namespace Tracked

variable {μ : Type} {t : Topology μ}

/-- **The scheduler with nothing but true times.** -/
def unwrapped (u : Tracked Traced t) : Tracked Nat t where
  flags := u.flags
  wakeup := u.wakeup.elapsed
  now := u.now.elapsed
  statuses := u.statuses.map StatusOn.unwrapped
  queues := u.queues
  latch := u.latch
  memory := u.memory
  log := u.log.map Happening.unwrapped

/-- The clock has not been steady all the time. -/
def Strays (u : Tracked Traced t) : Prop :=
  ∃ happening ∈ u.log, ¬happening.Steady

theorem unwrapped_status (u : Tracked Traced t) (id : Fin t.machineCount) :
    u.unwrapped.statuses.get id = (u.statuses.get id).unwrapped :=
  Vector.get_mapped ..

theorem unwrapped_write (id : Fin t.machineCount) (status : StatusOn Traced)
    (u : Tracked Traced t) :
    (u.write id status).unwrapped = u.unwrapped.write id status.unwrapped := by
  simp only [write, unwrapped, Vector.map_put]

theorem unwrapped_post (group : UInt8) (forceNew : Bool) (event : Event) (u : Tracked Traced t) :
    u.unwrapped.post group forceNew event =
      ((u.post group forceNew event).1, (u.post group forceNew event).2.unwrapped) := by
  unfold post
  cases t.group? group with
  | error e => rfl
  | ok g =>
    dsimp only
    rw [show u.unwrapped.queues.get g = u.queues.get g from rfl]
    rcases (u.queues.get g).push forceNew event with ⟨_ | outcome, queue⟩
    · rfl
    · cases outcome with
      | appended => rfl
      | coalesced =>
        dsimp only
        split <;> rfl

theorem unwrapped_broadcast (forceNew : Bool) (event : Event) (u : Tracked Traced t) :
    (u.broadcast forceNew event).unwrapped = u.unwrapped.broadcast forceNew event := by
  unfold broadcast
  refine (List.foldl_hom unwrapped fun u g => ?_).symm
  rw [unwrapped_post]

/-! ## The times in use -/

/-- **The wakeup of a machine is current**: it is in the epoch and less
than a turn ahead, unless the machine is in infinite sleep. At startup it
is in the epoch in any case. -/
structure Current (epoch : Nat) (startup : Bool) (now : Traced) (status : StatusOn Traced) :
    Prop where
  scheduled : status.flags.infiniteSleep = false →
    status.wakeup.In epoch ∧ status.wakeup.elapsed < now.elapsed + 0x1_0000_0000
  startup : startup = true → status.wakeup.In epoch

/-- So it is in infinite sleep, but for startup. -/
theorem Current.of_asleep {epoch : Nat} {startup : Bool} {now : Traced} {status : StatusOn Traced}
    (hasleep : status.flags.infiniteSleep = true)
    (hstartup : startup = true → status.wakeup.In epoch) : Current epoch startup now status where
  scheduled hawake := by
    rw [hasleep] at hawake
    cases hawake
  startup := hstartup

/-- **The times in use are in the epoch.** While a handler of `busy` runs,
that machine's status is without meaning. `fresh` says that the present
pass began at startup. -/
structure InEpoch (epoch : Nat) (fresh : Bool) (busy : Option (Fin t.machineCount))
    (u : Tracked Traced t) : Prop where
  dvd : 0x1_0000_0000 ∣ epoch
  now : u.now.In epoch
  wakeup : u.flags.infiniteSleep = false → u.wakeup.In epoch
  origin : u.flags.timeoutWakesSleepers = true → epoch = 0
  current : ∀ id : Fin t.machineCount, busy ≠ some id →
    Current epoch u.flags.timeoutWakesSleepers u.now (u.statuses.get id)
  hosts : ∀ id : Fin t.machineCount, busy ≠ some id →
    (u.statuses.get id).flags.infiniteSleep = false → t.Hosts id
  fresh : fresh = true → u.flags.timeoutWakesSleepers = true

namespace InEpoch

variable {epoch : Nat} {fresh : Bool} {busy : Option (Fin t.machineCount)} {u v : Tracked Traced t}

/-- While no machine is busy, every wakeup is current. -/
theorem current_of_idle (h : InEpoch epoch fresh none u) (id : Fin t.machineCount) :
    Current epoch u.flags.timeoutWakesSleepers u.now (u.statuses.get id) :=
  h.current id (Option.some_ne_none id).symm

theorem hosts_of_idle (h : InEpoch epoch fresh none u) (id : Fin t.machineCount)
    (hawake : (u.statuses.get id).flags.infiniteSleep = false) : t.Hosts id :=
  h.hosts id (Option.some_ne_none id).symm hawake

/-- Whether the pass began at startup can be forgotten. -/
theorem forget (h : InEpoch epoch fresh busy u) : InEpoch epoch false busy u :=
  { h with fresh := fun hfresh => absurd hfresh Bool.false_ne_true }

theorem frame (h : InEpoch epoch fresh busy u) (halike : u.Alike v) :
    InEpoch epoch fresh busy v where
  dvd := h.dvd
  now := halike.now ▸ h.now
  wakeup := by
    rw [halike.infiniteSleep, halike.wakeup]
    exact h.wakeup
  origin := by
    rw [halike.timeoutWakesSleepers]
    exact h.origin
  current := by
    rw [halike.timeoutWakesSleepers, halike.now, halike.statuses]
    exact h.current
  hosts := by
    rw [halike.statuses]
    exact h.hosts
  fresh := by
    rw [halike.timeoutWakesSleepers]
    exact h.fresh

theorem add (h : InEpoch epoch fresh busy u) (happening : Happening Traced t.machineCount) :
    InEpoch epoch fresh busy (u.add happening) :=
  { h with }

theorem setClock (h : InEpoch epoch fresh busy u) {ticks : Ticks}
    (hsteady : u.now.stamp.overflow = true → u.now.stamp.ticks ≤ ticks) :
    InEpoch epoch fresh busy (u.setClock ticks) :=
  { h with
    now := h.now.advanceTo hsteady
    current := fun id hid =>
      { startup := (h.current id hid).startup
        scheduled := fun hawake => by
          obtain ⟨hin, hlt⟩ := (h.current id hid).scheduled hawake
          refine ⟨hin, Nat.lt_of_lt_of_le hlt ?_⟩
          exact Nat.add_le_add_right (Nat.le_add_right _ _) _ } }

/-- A machine becomes busy. -/
theorem suspend (h : InEpoch epoch fresh none u) (id : Fin t.machineCount)
    (status : StatusOn Traced) : InEpoch epoch fresh (some id) (u.write id status) :=
  have hother (k : Fin t.machineCount) (hk : some id ≠ some k) :
      (u.write id status).statuses.get k = u.statuses.get k :=
    Vector.get_put_of_ne _ _ fun hsame => hk (congrArg some hsame.symm)
  { h with
    current := fun k hk => by
      rw [hother k hk]
      exact h.current_of_idle k
    hosts := fun k hk => by
      rw [hother k hk]
      exact h.hosts_of_idle k }

/-- A machine is done, or was not busy, and has a new status. -/
theorem write (h : InEpoch epoch fresh busy u) {id : Fin t.machineCount}
    (hbusy : ∀ k, k ≠ id → busy ≠ some k) (hhosts : t.Hosts id) {status : StatusOn Traced}
    (hcurrent : Current epoch u.flags.timeoutWakesSleepers u.now status) :
    InEpoch epoch fresh none (u.write id status) :=
  have hself : (u.write id status).statuses.get id = status := Vector.get_put_self ..
  have hother (k : Fin t.machineCount) (hk : k ≠ id) :
      (u.write id status).statuses.get k = u.statuses.get k :=
    Vector.get_put_of_ne _ _ hk
  { h with
    current := fun k _ => by
      by_cases hk : k = id
      · rw [hk, hself]
        exact hcurrent
      · rw [hother k hk]
        exact h.current k (hbusy k hk)
    hosts := fun k _ => by
      by_cases hk : k = id
      · exact fun _ => hk ▸ hhosts
      · rw [hother k hk]
        exact h.hosts k (hbusy k hk) }

theorem write_idle (h : InEpoch epoch fresh none u) {id : Fin t.machineCount} (hhosts : t.Hosts id)
    {status : StatusOn Traced}
    (hcurrent : Current epoch u.flags.timeoutWakesSleepers u.now status) :
    InEpoch epoch fresh none (u.write id status) :=
  h.write (fun k _ => (Option.some_ne_none k).symm) hhosts hcurrent

end InEpoch

end Tracked

end TimedMachines
