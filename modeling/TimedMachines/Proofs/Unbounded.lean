import TimedMachines.Proofs.Shadow

/-!
# The wrapping clock refines unbounded time

The scheduler on the clock of traced timestamps and the one on the
unbounded clock are followed through passes and whole runs. As long as
the traced clock is steady – it never wraps twice in an epoch, and no
delay ends past the line of timestamps – the second run is the first one
with nothing but true times (`Tracked.shadows_perform`): wrapping, the
flag and epochs make no difference.

Only going to sleep can begin another epoch, and then every wakeup in use
has passed into it, since none is before the one that is committed to.
-/

namespace TimedMachines

variable {μ : Type} {t : Topology μ}

/-- What a pass ended with, as far as the counter shows it. -/
def StepOn.shown {τ : Type} [Clock τ] : StepOn τ → StepOn Ticks
  | .again => .again
  | .sleep wakeup => .sleep (wakeup.map fun time => (Clock.shown time).ticks)
  | .exit => .exit

/-- The same of a scheduler's pass. -/
def Step.shown : Step → StepOn Ticks
  | .again => .again
  | .sleep wakeup => .sleep (wakeup.map (·.ticks))
  | .exit => .exit

theorem shown_stamped (step : StepOn Traced) : step.stamped.shown = step.shown := by
  cases step with
  | again | exit => rfl
  | sleep wakeup => cases wakeup <;> rfl

namespace Tracked

variable {epoch : Nat} {fresh : Bool} {busy : Option (Fin t.machineCount)}
  {u : Tracked Traced t} {r : Tracked Nat t}

/-! ## A clock that has strayed -/

theorem strays_visitMember (wakesSleepers : Bool) (event : Option Event)
    {acc : Option Traced × Tracked Traced t} (h : acc.2.Strays)
    (member : Coords × Fin t.machineCount) :
    (visitMember wakesSleepers event acc member).2.Strays := by
  cases event with
  | none => exact h
  | some event => exact strays_deliver member.2 wakesSleepers member.1 event h

theorem alike_popFrom (g : Fin t.groupCount) (u : Tracked Traced t) :
    u.Alike (u.popFrom g).2.2 := by
  unfold popFrom
  split
  · exact ⟨rfl, rfl, rfl, rfl, rfl, rfl⟩
  · exact ⟨rfl, rfl, rfl, rfl, rfl, rfl⟩

theorem strays_visitGroup (wakesSleepers : Bool) {acc : Option Traced × Tracked Traced t}
    (h : acc.2.Strays) (g : Fin t.groupCount) : (visitGroup wakesSleepers acc g).2.Strays := by
  obtain ⟨earliest, u⟩ := acc
  have hvisited := List.foldlRecOn (t.placed g) (visitMember wakesSleepers (u.popFrom g).1)
    (motive := fun acc : Option Traced × Tracked Traced t => acc.2.Strays)
    (b := (none, (u.popFrom g).2.2)) (stable_strays.frame _ _ (alike_popFrom g u) h)
    fun _ h member _ => strays_visitMember wakesSleepers _ h member
  unfold visitGroup
  dsimp only
  split
  · exact hvisited
  · exact hvisited

theorem strays_commit (h : u.Strays) (earliest : Option Traced) :
    (u.commit earliest).2.Strays := by
  unfold commit
  split
  · exact stable_strays.broadcast _ _ u h
  · have hlog : (u.settle earliest).log = u.log := by
      unfold settle
      dsimp only
      split <;> rfl
    unfold Strays
    rw [hlog]
    exact h

theorem strays_pass (h : u.Strays) : u.pass.2.Strays := by
  have hvisited : u.inPass.visitAll.2.Strays :=
    List.foldlRecOn t.allGroups (visitGroup u.inPass.flags.timeoutWakesSleepers)
      (motive := fun acc : Option Traced × Tracked Traced t => acc.2.Strays)
      (b := (none, u.inPass)) h fun _ h g _ => strays_visitGroup _ h g
  unfold pass
  dsimp only
  split
  · exact h
  · split
    · exact hvisited
    · exact strays_commit hvisited _

theorem strays_perform (h : u.Strays) (operation : Operation) : (u.perform operation).Strays := by
  cases operation with
  | start => exact stable_strays.start u h
  | reset => exact stable_strays.start _ (stable_strays.rewind u h)
  | post group forceNew event => exact stable_strays.post _ _ _ u h
  | broadcast forceNew event => exact stable_strays.broadcast _ _ u h
  | advance ticks => exact stable_strays.advance ticks u h
  | heartbeat => exact stable_strays.advance _ u h
  | requestExit => exact stable_strays.requestExit u h
  | wake => exact stable_strays.wake u h
  | takeWake => exact h
  | pass => exact strays_pass h

theorem strays_performAll (h : u.Strays) (operations : List Operation) :
    (u.performAll operations).Strays :=
  List.foldlRecOn operations perform h fun _ h operation _ => strays_perform h operation

/-! ## Passes -/

/-- What the turns of members and groups have so far, on the two clocks. -/
def ShadowsSoFar (epoch : Nat) (fresh : Bool) (acc : Option Traced × Tracked Traced t)
    (racc : Option Nat × Tracked Nat t) : Prop :=
  acc.2.Strays ∨ (Follows epoch fresh none acc.2 racc.2 ∧ racc.1 = acc.1.map Traced.elapsed ∧
    ∀ time, acc.1 = some time → time.In epoch)

/-- The earlier of two times of an epoch is the earlier in truth, and in
the epoch. -/
theorem sooner_unwrapped {a b : Option Traced} (ha : ∀ time, a = some time → time.In epoch)
    (hb : ∀ time, b = some time → time.In epoch) :
    Clock.sooner (a.map Traced.elapsed) (b.map Traced.elapsed) =
        (Clock.sooner a b).map Traced.elapsed ∧
      ∀ time, Clock.sooner a b = some time → time.In epoch := by
  cases a with
  | none => exact ⟨rfl, hb⟩
  | some a =>
    cases b with
    | none => exact ⟨rfl, ha⟩
    | some b =>
      simp only [Option.map_some, Clock.sooner, ← (hb b rfl).atOrAfter_eq (ha a rfl)]
      split
      · exact ⟨rfl, ha⟩
      · exact ⟨rfl, hb⟩

theorem scheduled_unwrapped (status : StatusOn Traced) :
    status.unwrapped.scheduled = status.scheduled.map Traced.elapsed := by
  unfold StatusOn.scheduled StatusOn.unwrapped
  split <;> rfl

/-- A member is asked for its wakeup. -/
theorem shadows_ask {earliest : Option Traced} (h : Shadows epoch fresh none u r)
    (hearliest : ∀ time, earliest = some time → time.In epoch) (id : Fin t.machineCount) :
    ShadowsSoFar epoch fresh (Clock.sooner earliest (u.statuses.get id).scheduled, u)
      (Clock.sooner (earliest.map Traced.elapsed) (r.statuses.get id).scheduled, r) := by
  obtain hstrays | ⟨h, rfl⟩ := h
  · exact .inl hstrays
  · have hscheduled (time : Traced) (htime : (u.statuses.get id).scheduled = some time) :
        time.In epoch := by
      unfold StatusOn.scheduled at htime
      split at htime
      · cases htime
      · next hawake =>
        cases htime
        exact ((h.current_of_idle id).scheduled (by simpa using hawake)).1
    rw [unwrapped_status, scheduled_unwrapped]
    exact .inr ⟨⟨h, rfl⟩, sooner_unwrapped hearliest hscheduled⟩

theorem shadows_visitMember (hoblivious : t.Oblivious) {wakesSleepers : Bool}
    (event : Option Event) {acc : Option Traced × Tracked Traced t}
    {racc : Option Nat × Tracked Nat t} (h : ShadowsSoFar epoch wakesSleepers acc racc)
    {member : Coords × Fin t.machineCount} (hhosts : t.Hosts member.2) :
    ShadowsSoFar epoch wakesSleepers (visitMember wakesSleepers event acc member)
      (visitMember wakesSleepers event racc member) := by
  obtain ⟨earliest, u⟩ := acc
  obtain ⟨rearliest, r⟩ := racc
  obtain ⟨place, id⟩ := member
  obtain hstrays | ⟨h, rfl, hearliest⟩ := h
  · exact .inl (strays_visitMember wakesSleepers event hstrays _)
  · cases event with
    | none => exact shadows_ask (.inr h) hearliest id
    | some event =>
      exact shadows_ask (shadows_deliver hoblivious (.inr h) hhosts place event) hearliest id

theorem unwrapped_popFrom (g : Fin t.groupCount) (u : Tracked Traced t) :
    u.unwrapped.popFrom g =
      ((u.popFrom g).1, (u.popFrom g).2.1, (u.popFrom g).2.2.unwrapped) := by
  unfold popFrom
  rw [show u.unwrapped.queues.get g = u.queues.get g from rfl]
  cases (u.queues.get g).pop with
  | none => rfl
  | some popped => rfl

theorem shadows_visitGroup (hoblivious : t.Oblivious) {wakesSleepers : Bool}
    {acc : Option Traced × Tracked Traced t} {racc : Option Nat × Tracked Nat t}
    (h : ShadowsSoFar epoch wakesSleepers acc racc) (g : Fin t.groupCount) :
    ShadowsSoFar epoch wakesSleepers (visitGroup wakesSleepers acc g)
      (visitGroup wakesSleepers racc g) := by
  have hmembers {u : Tracked Traced t} {r : Tracked Nat t} (event : Option Event)
      (h : Shadows epoch wakesSleepers none u r) :
      ShadowsSoFar epoch wakesSleepers
        ((t.placed g).foldl (visitMember wakesSleepers event) (none, u))
        ((t.placed g).foldl (visitMember wakesSleepers event) (none, r)) :=
    List.foldl_rel (r := ShadowsSoFar epoch wakesSleepers)
      (h.imp_right fun h => ⟨h, rfl, fun _ htime => by cases htime⟩)
      fun _ hmem _ _ h => shadows_visitMember hoblivious event h (Topology.hosts_of_placed hmem)
  obtain ⟨earliest, u⟩ := acc
  obtain ⟨rearliest, r⟩ := racc
  obtain hstrays | ⟨⟨h, rfl⟩, rfl, hearliest⟩ := h
  · exact .inl (strays_visitGroup wakesSleepers hstrays g)
  · have hpopped : Follows epoch wakesSleepers none (u.popFrom g).2.2
        (u.popFrom g).2.2.unwrapped := ⟨h.frame (alike_popFrom g u), rfl⟩
    unfold visitGroup
    dsimp only
    rw [unwrapped_popFrom]
    -- the members' turns, and then the earlier of their wakeup and that of the groups before
    obtain hstrays | ⟨⟨hown, hr⟩, hsame, hin⟩ := hmembers (u.popFrom g).1 (.inr hpopped)
    · refine .inl ?_
      dsimp only
      split
      · exact hstrays
      · exact hstrays
    · obtain ⟨hsooner, hsoonerIn⟩ := sooner_unwrapped hearliest hin
      refine .inr ⟨?_, ?_, hsoonerIn⟩
      · dsimp only
        rw [hr]
        split
        · exact ⟨hown.frame ⟨rfl, rfl, rfl, rfl, rfl, rfl⟩, rfl⟩
        · exact ⟨hown, rfl⟩
      · dsimp only
        rw [hsame]
        exact hsooner

theorem shadows_visitAll (hoblivious : t.Oblivious)
    (h : InEpoch epoch u.flags.timeoutWakesSleepers none u) :
    ShadowsSoFar epoch u.flags.timeoutWakesSleepers u.visitAll u.unwrapped.visitAll :=
  List.foldl_rel (r := ShadowsSoFar epoch u.flags.timeoutWakesSleepers)
    (.inr ⟨⟨h, rfl⟩, rfl, fun _ htime => by cases htime⟩)
    fun g _ _ _ h => shadows_visitGroup hoblivious h g

/-! ## Epochs -/

/-- **Another epoch begins** for all times in use at once. -/
theorem InEpoch.rebase (h : InEpoch epoch fresh none u)
    (hstartup : u.flags.timeoutWakesSleepers = false) {next : Nat} (hdvd : 0x1_0000_0000 ∣ next)
    (hnow : (Clock.rebased u.now).In next)
    (hwakeup : u.flags.infiniteSleep = false → (Clock.rebased u.wakeup).In next)
    (hscheduled : ∀ id : Fin t.machineCount, (u.statuses.get id).flags.infiniteSleep = false →
      (Clock.rebased (u.statuses.get id).wakeup).In next) :
    InEpoch next fresh none u.rebase :=
  have hstatus (id : Fin t.machineCount) : u.rebase.statuses.get id = (u.statuses.get id).rebased :=
    Vector.get_mapped ..
  { dvd := hdvd
    now := hnow
    wakeup := hwakeup
    origin := fun hflag => absurd (hstartup.symm.trans hflag) Bool.false_ne_true
    current := fun id hid => by
      rw [hstatus id]
      refine ⟨fun hawake => ⟨hscheduled id hawake, ?_⟩, fun hflag => ?_⟩
      · exact ((h.current id hid).scheduled hawake).2
      · exact absurd (hstartup.symm.trans hflag) Bool.false_ne_true
    hosts := fun id hid => by
      rw [hstatus id]
      exact h.hosts id hid
    fresh := h.fresh }

/-- On the unbounded clock there are no epochs. -/
theorem rebase_nat (r : Tracked Nat t) : r.rebase = r := by
  have hid : (StatusOn.rebased : StatusOn Nat → StatusOn Nat) = id := rfl
  unfold rebase
  rw [hid, Vector.map_id]
  rfl

theorem unwrapped_rebase (u : Tracked Traced t) : u.rebase.unwrapped = u.unwrapped := by
  unfold unwrapped rebase
  simp only [Vector.map_map]
  rfl

theorem unwrapped_settle (earliest : Option Traced) (u : Tracked Traced t) :
    (u.settle earliest).unwrapped = u.unwrapped.settle (earliest.map Traced.elapsed) := by
  have hschedule : (u.schedule earliest).unwrapped =
      u.unwrapped.schedule (earliest.map Traced.elapsed) := by
    cases earliest <;> rfl
  have hsettle (r : Tracked Nat t) (e : Option Nat) : r.settle e = r.schedule e := by
    unfold settle
    simp only [rebase_nat, ite_self]
  rw [hsettle, ← hschedule]
  unfold settle
  dsimp only
  split
  · exact unwrapped_rebase _
  · rfl

/-- The wakeup that is committed to is in the epoch, and startup is over. -/
theorem InEpoch.schedule {earliest : Option Traced} (h : InEpoch epoch fresh none u)
    (hearliest : ∀ time, earliest = some time → time.In epoch) :
    InEpoch epoch false none (u.schedule earliest) :=
  { h with
    wakeup := fun hcommitted => by
      cases earliest with
      | none => cases hcommitted
      | some time => exact hearliest time rfl
    origin := fun hstartup => absurd hstartup Bool.false_ne_true
    current := fun id _ =>
      { scheduled := (h.current_of_idle id).scheduled
        startup := fun hstartup => absurd hstartup Bool.false_ne_true }
    fresh := fun hfresh => absurd hfresh Bool.false_ne_true }

/-- **With nothing scheduled**, only the clock has to pass into the next
epoch, and does so if it has wrapped. -/
theorem InEpoch.settle_none (h : InEpoch epoch fresh none u)
    (hidle : ∀ id : Fin t.machineCount, (u.statuses.get id).flags.infiniteSleep ≠ false) :
    ∃ next, InEpoch next false none (u.schedule none).rebase := by
  have hscheduled : InEpoch epoch false none (u.schedule none) :=
    h.schedule fun _ htime => by cases htime
  have hrebase {next : Nat} (hdvd : 0x1_0000_0000 ∣ next) (hnow : (Clock.rebased u.now).In next) :
      InEpoch next false none (u.schedule none).rebase :=
    hscheduled.rebase rfl hdvd hnow (fun hcommitted => by cases hcommitted)
      fun id hawake => absurd hawake (hidle id)
  cases hwrapped : u.now.stamp.overflow with
  | true => exact ⟨epoch + _, hrebase (Nat.dvd_add h.dvd (Nat.dvd_refl _)) (h.now.rebased hwrapped)⟩
  | false =>
    have hsame : Clock.rebased u.now = u.now := by
      have := u.now.stamp.rebased_eq_self hwrapped
      simp only [Clock.rebased, this]
    exact ⟨epoch, hrebase h.dvd (hsame.symm ▸ h.now)⟩

/-- **Going to sleep keeps the times in use in one epoch**: if it begins
another, every wakeup in use has passed into it. -/
theorem inEpoch_settle {earliest : Option Traced} (h : InEpoch epoch fresh none u)
    (hearliest : ∀ time, earliest = some time → time.In epoch)
    (hcovers : ∀ id : Fin t.machineCount, (u.statuses.get id).flags.infiniteSleep = false →
      ∃ time, earliest = some time ∧
        time.stamp.value ≤ (u.statuses.get id).wakeup.stamp.value) :
    ∃ next, InEpoch next false none (u.settle earliest) := by
  unfold settle
  dsimp only
  split
  · next hover =>
    cases earliest with
    | none =>
      refine h.settle_none fun id hawake => ?_
      obtain ⟨time, htime, -⟩ := hcovers id hawake
      cases htime
    | some time =>
      have hwrapped : u.now.stamp.overflow = true ∧ time.stamp.overflow = true := by
        simpa [epochOver, Tracked.schedule, Clock.shown] using hover
      refine ⟨epoch + 0x1_0000_0000, (h.schedule hearliest).rebase rfl
        (Nat.dvd_add h.dvd (Nat.dvd_refl _)) (h.now.rebased hwrapped.1)
        (fun _ => (hearliest time rfl).rebased hwrapped.2) fun id hawake => ?_⟩
      -- a wakeup in use is not before the earliest, which has wrapped
      obtain ⟨_, htime, hle⟩ := hcovers id hawake
      cases htime
      have hin := ((h.current_of_idle id).scheduled hawake).1
      exact hin.rebased (Timestamp.overflow_of_value_le hwrapped.2 hle)
  · exact ⟨epoch, h.schedule hearliest⟩

/-- **The consensus covers every machine with a wakeup**, as that of the
scheduler does which the traced one agrees with. -/
theorem covers_traced (hoblivious : t.Oblivious) {s : Scheduler t} (hagrees : Agrees s u)
    (h : InEpoch epoch fresh none u.visitAll.2) (id : Fin t.machineCount)
    (hawake : (u.visitAll.2.statuses.get id).flags.infiniteSleep = false) :
    ∃ time, u.visitAll.1 = some time ∧
      time.stamp.value ≤ (u.visitAll.2.statuses.get id).wakeup.stamp.value := by
  obtain ⟨hmeets, hvisited⟩ := agrees_visitAll hagrees
  have hcovers := Scheduler.covers_visitAll hoblivious.calm s (h.hosts_of_idle id hawake)
  rw [hvisited.status_eq id] at hcovers
  obtain ⟨stamp, hstamp, hle⟩ := hcovers (u.visitAll.2.statuses.get id).wakeup.stamp (by
    rw [scheduled_stamped, StatusOn.scheduled, hawake]
    rfl)
  rw [hmeets, Option.map_eq_some_iff] at hstamp
  obtain ⟨time, htime, rfl⟩ := hstamp
  exact ⟨time, htime, hle⟩

theorem shadows_commit (h : InEpoch epoch fresh none u) {earliest : Option Traced}
    (hearliest : ∀ time, earliest = some time → time.In epoch)
    (hcovers : ∀ id : Fin t.machineCount, (u.statuses.get id).flags.infiniteSleep = false →
      ∃ time, earliest = some time ∧
        time.stamp.value ≤ (u.statuses.get id).wakeup.stamp.value) :
    (u.unwrapped.commit (earliest.map Traced.elapsed)).1.shown = (u.commit earliest).1.shown ∧
      ∃ next, Follows next false none (u.commit earliest).2
        (u.unwrapped.commit (earliest.map Traced.elapsed)).2 := by
  have hdue : u.unwrapped.isDue (earliest.map Traced.elapsed) = u.isDue earliest := by
    cases earliest with
    | none => rfl
    | some time => exact (h.now.atOrAfter_eq (hearliest time rfl)).symm
  unfold commit
  rw [hdue]
  split
  · exact ⟨rfl, epoch, (h.frame (alike_broadcast ..)).forget,
      (unwrapped_broadcast ..).symm⟩
  · obtain ⟨next, hsettled⟩ := inEpoch_settle h hearliest hcovers
    rw [← unwrapped_settle]
    refine ⟨?_, next, hsettled, rfl⟩
    unfold StepOn.shown scheduled
    rw [show (u.settle earliest).unwrapped.flags = (u.settle earliest).flags from rfl]
    cases hsleep : (u.settle earliest).flags.infiniteSleep with
    | true => rfl
    | false =>
      have hticks := (hsettled.wakeup hsleep).ticks_eq hsettled.dvd
      simp only [Bool.false_eq_true, if_false, Option.map_some]
      exact congrArg (StepOn.sleep ∘ some) hticks

/-- **Passes run alike**, and end with the same step. -/
theorem shadows_pass (hoblivious : t.Oblivious) {s : Scheduler t} (hagrees : Agrees s u)
    (h : InEpoch epoch fresh none u) :
    u.pass.2.Strays ∨ (u.unwrapped.pass.1.shown = u.pass.1.shown ∧
      ∃ next, Follows next false none u.pass.2 u.unwrapped.pass.2) := by
  have hstart : InEpoch epoch u.inPass.flags.timeoutWakesSleepers none u.inPass :=
    { h with
      wakeup := fun hcommitted => by cases hcommitted
      fresh := id }
  have hagreesStart : Agrees s.inPass u.inPass := by
    obtain ⟨u, journal, hagrees⟩ := hagrees
    exact .intro u.inPass journal hagrees
  have hinPass : u.unwrapped.inPass = u.inPass.unwrapped := rfl
  unfold pass
  dsimp only
  rw [hinPass, show u.inPass.unwrapped.flags = u.inPass.flags from rfl]
  split
  · exact .inr ⟨rfl, epoch, hstart.forget, rfl⟩
  · obtain hstrays | ⟨⟨hvisited, hrest⟩, hearliest, hin⟩ := shadows_visitAll hoblivious hstart
    · refine .inl ?_
      split
      · exact hstrays
      · exact strays_commit hstrays _
    · have hcovers := covers_traced hoblivious hagreesStart hvisited
      rw [hearliest, hrest, show u.inPass.visitAll.2.unwrapped.flags =
        u.inPass.visitAll.2.flags from rfl]
      split
      · exact .inr ⟨rfl, epoch, hvisited.forget, rfl⟩
      · exact .inr (shadows_commit hvisited hin hcovers)

/-! ## Runs -/

/-- **Time starts in the first epoch**, with every machine in infinite
sleep. -/
theorem inEpoch_startup (hnow : u.now = Clock.zero)
    (hstatuses : u.statuses = Vector.replicate t.machineCount .startup)
    (hflags : u.flags = .startup) : InEpoch 0 false none u :=
  have hstatus (id : Fin t.machineCount) : u.statuses.get id = .startup := by
    rw [hstatuses]
    exact Vector.getElem_replicate ..
  { dvd := Nat.dvd_zero _
    now := hnow ▸ rfl
    wakeup := fun hcommitted => by
      rw [hflags] at hcommitted
      cases hcommitted
    origin := fun _ => rfl
    current := fun id _ => by
      rw [hstatus id]
      exact .of_asleep rfl fun _ => rfl
    hosts := fun id _ hawake => by
      rw [hstatus id] at hawake
      cases hawake
    fresh := fun hfresh => absurd hfresh Bool.false_ne_true }

theorem follows_rewind (u : Tracked Traced t) :
    Follows 0 false none u.rewind u.unwrapped.rewind := by
  refine ⟨inEpoch_startup rfl rfl rfl, ?_⟩
  unfold rewind
  simp only [unwrapped, add, Vector.map_replicate]
  rfl

theorem follows_initial (t : Topology μ) (memory : μ) :
    Follows 0 false none (initial t memory) (initial t memory) := by
  refine ⟨inEpoch_startup rfl rfl rfl, ?_⟩
  simp only [unwrapped, initial, Vector.map_replicate]
  rfl

theorem shadows_perform (hoblivious : t.Oblivious) {s : Scheduler t} (hagrees : Agrees s u)
    (h : Follows epoch false none u r) (operation : Operation) :
    (u.perform operation).Strays ∨
      ∃ next, Follows next false none (u.perform operation) (r.perform operation) := by
  have hstays {v : Tracked Traced t} {w : Tracked Nat t} (h : Shadows epoch false none v w) :
      v.Strays ∨ ∃ next, Follows next false none v w := h.imp_right fun h => ⟨epoch, h⟩
  cases operation with
  | start => exact hstays (shadows_start hoblivious h)
  | reset =>
    obtain ⟨-, rfl⟩ := h
    exact (shadows_start hoblivious (follows_rewind u)).imp_right fun h => ⟨0, h⟩
  | post group forceNew event => exact hstays (.inr (follows_post h group forceNew event).2)
  | broadcast forceNew event => exact hstays (.inr (follows_broadcast h forceNew event))
  | advance ticks => exact hstays (follows_advance h ticks)
  | heartbeat => exact hstays (follows_heartbeat h)
  | requestExit => exact hstays (.inr (follows_requestExit h))
  | wake => exact hstays (.inr (follows_wake h))
  | takeWake =>
    obtain ⟨h, rfl⟩ := h
    exact hstays (.inr ⟨h.frame ⟨rfl, rfl, rfl, rfl, rfl, rfl⟩, rfl⟩)
  | pass =>
    obtain ⟨h, rfl⟩ := h
    exact (shadows_pass hoblivious hagrees h).imp_right And.right

end Tracked

/-- The step of an operation, which only a pass has. -/
def Scheduler.step? (s : Scheduler t) : Operation → Option Step
  | .pass => some s.pass.1
  | _ => none

/-- The steps of all passes among some operations. -/
def Scheduler.steps (s : Scheduler t) : List Operation → List Step
  | [] => []
  | operation :: rest => (s.step? operation).toList ++ (s.perform operation).steps rest

namespace Tracked

section Steps

variable {τ : Type} [Clock τ]

/-- The step of an operation, which only a pass has. -/
def step? (u : Tracked τ t) : Operation → Option (StepOn τ)
  | .pass => some u.pass.1
  | _ => none

/-- The steps of all passes among some operations. -/
def steps (u : Tracked τ t) : List Operation → List (StepOn τ)
  | [] => []
  | operation :: rest => (u.step? operation).toList ++ (u.perform operation).steps rest

/-- Every call of a handler, the last one first: the machine, what the
handler was shown, and how much time was left in truth. -/
def calls (u : Tracked τ t) : List (Fin t.machineCount × View × Option Nat) :=
  u.log.filterMap fun
    | .preparing id view => some (id, view, none)
    | .processing id view _ left => some (id, view, left)
    | _ => none

end Steps

theorem calls_unwrapped (u : Tracked Traced t) : u.unwrapped.calls = u.calls := by
  unfold calls unwrapped
  rw [List.filterMap_map]
  congr 1
  funext happening
  cases happening <;> rfl

/-- An operation has the same step on the two clocks. -/
theorem shown_step? (hoblivious : t.Oblivious) {s : Scheduler t} (hagrees : Agrees s u)
    (h : Follows epoch false none u r) (operation : Operation) :
    (u.perform operation).Strays ∨
      (r.step? operation).map StepOn.shown = (s.step? operation).map Step.shown := by
  cases operation with
  | pass =>
    obtain ⟨h, rfl⟩ := h
    refine (shadows_pass hoblivious hagrees h).imp_right fun hpass => ?_
    simp only [step?, Scheduler.step?, Option.map_some, hpass.1, (agrees_pass hagrees).1,
      shown_stamped]
  | start | reset | post _ _ _ | broadcast _ _ | advance _ | heartbeat | requestExit | wake
  | takeWake => exact .inr rfl

/-- **Runs are alike**, with the same steps. -/
theorem shadows_performAll (hoblivious : t.Oblivious) (operations : List Operation)
    {s : Scheduler t} (hagrees : Agrees s u) (h : Follows epoch false none u r) :
    (u.performAll operations).Strays ∨
      ((∃ next, Follows next false none (u.performAll operations) (r.performAll operations)) ∧
        (r.steps operations).map StepOn.shown = (s.steps operations).map Step.shown) := by
  induction operations generalizing s u r epoch with
  | nil => exact .inr ⟨⟨epoch, h⟩, rfl⟩
  | cons operation rest ih =>
    obtain hstrays | ⟨next, hnext⟩ := shadows_perform hoblivious hagrees h operation
    · exact .inl (strays_performAll hstrays rest)
    · obtain hstrays | hstep := shown_step? hoblivious hagrees h operation
      · exact .inl (strays_performAll hstrays rest)
      · refine (ih (agrees_perform hagrees operation) hnext).imp_right fun hrest => ?_
        refine ⟨hrest.1, ?_⟩
        simp only [steps, Scheduler.steps, List.map_append, ← Option.toList_map, hstep, hrest.2]

/-- **Seen alike**: a scheduler and one on the unbounded clock hold the
same events, and their machines are in the same states; the wakeups and
the time are the same as far as the counter shows them. -/
structure SeenAlike (s : Scheduler t) (r : Tracked Nat t) : Prop where
  queues : s.queues = r.queues
  state : ∀ id : Fin t.machineCount, (s.statuses.get id).state = (r.statuses.get id).state
  machineFlags : ∀ id : Fin t.machineCount, (s.statuses.get id).flags = (r.statuses.get id).flags
  machineWakeup : ∀ id : Fin t.machineCount,
    (s.statuses.get id).scheduled.map (·.ticks) = (r.statuses.get id).scheduled.map UInt32.ofNat
  flags : s.flags = r.flags
  wakeup : s.scheduled.map (·.ticks) = r.scheduled.map UInt32.ofNat
  now : s.now.ticks = UInt32.ofNat r.now
  latch : s.latch = r.latch
  memory : s.memory = r.memory

theorem seenAlike {s : Scheduler t} (hagrees : Agrees s u) (h : Follows epoch false none u r) :
    SeenAlike s r := by
  obtain ⟨h, rfl⟩ := h
  have hstatus (id : Fin t.machineCount) := hagrees.status_eq id
  have hmachine (id : Fin t.machineCount) :
      (s.statuses.get id).scheduled.map (·.ticks) =
        (u.unwrapped.statuses.get id).scheduled.map UInt32.ofNat := by
    rw [hstatus, unwrapped_status, scheduled_stamped, scheduled_unwrapped, Option.map_map,
      Option.map_map]
    unfold StatusOn.scheduled
    cases hsleep : (u.statuses.get id).flags.infiniteSleep with
    | true => rfl
    | false =>
      have hticks := ((h.current_of_idle id).scheduled hsleep).1.ticks_eq h.dvd
      exact congrArg some hticks.symm
  obtain ⟨u, journal, hagrees⟩ := hagrees
  exact
    { queues := rfl
      state := fun id => by
        rw [hstatus, unwrapped_status]
        rfl
      machineFlags := fun id => by
        rw [hstatus, unwrapped_status]
        rfl
      machineWakeup := hmachine
      flags := rfl
      wakeup := by
        unfold Scheduler.scheduled scheduled
        rw [show (u.erase journal).flags = u.flags from rfl,
          show u.unwrapped.flags = u.flags from rfl]
        cases hsleep : u.flags.infiniteSleep with
        | true => rfl
        | false => exact congrArg some ((h.wakeup hsleep).ticks_eq h.dvd).symm
      now := (h.now.ticks_eq h.dvd).symm
      latch := rfl
      memory := rfl }

/-- **The wrapping clock refines unbounded time.** A scheduler was put
together and anything was done to it; its handlers see no more of the
time than what is left of it and the counter, and do not restart the
machines. As long as the clock was steady – the traced scheduler, which
agrees with it, has that in its log – the scheduler on the unbounded
clock is seen alike, has made the same calls, with the same time left,
and its passes have ended with the same steps. -/
theorem refines_unbounded_time (hoblivious : t.Oblivious) {memory : μ} {s : Scheduler t}
    (h : Scheduler.build t memory = .ok s) (operations : List Operation)
    (hsteady : ∀ happening ∈ ((initial t memory).performAll operations).log,
      Happening.Steady happening) :
    Agrees (s.performAll operations) ((initial t memory).performAll operations) ∧
      SeenAlike (s.performAll operations) ((initial t memory).performAll operations) ∧
      ((initial t memory).performAll operations : Tracked Nat t).calls =
        ((initial t memory).performAll operations : Tracked Traced t).calls ∧
      ((initial t memory : Tracked Nat t).steps operations).map StepOn.shown =
        (s.steps operations).map Step.shown := by
  have hagrees := agrees_performAll h operations
  have hstart : Agrees s (initial t memory) := agrees_performAll h []
  obtain hstrays | ⟨⟨next, hfollows⟩, hsteps⟩ :=
    shadows_performAll hoblivious operations hstart (follows_initial t memory)
  · obtain ⟨happening, hmem, hunsteady⟩ := hstrays
    exact absurd (hsteady happening hmem) hunsteady
  · refine ⟨hagrees, seenAlike hagrees hfollows, ?_, hsteps⟩
    rw [← calls_unwrapped, ← hfollows.2]

/-- The alarm is set just before the counter wraps, and goes off after
that. -/
def acrossWrap : List Operation :=
  [.start, .advance 0xFFFFFFFE, .post 0 false ⟨1, 0⟩, .pass, .takeWake, .advance 5, .pass]

/-- The alarm does not notice the wrap, and the true time of its wakeup is
2³² + 1. -/
theorem refines_unbounded_time_acrossWrap :
    (Alarm.topology 3).Oblivious ∧
      (∀ happening ∈ ((initial (Alarm.topology 3) ()).performAll acrossWrap).log,
        Happening.Steady happening) ∧
      (Alarm.scheduler 3).steps acrossWrap = [.sleep (some ⟨1, true⟩), .sleep none] ∧
      (initial (Alarm.topology 3) () : Tracked Nat _).steps acrossWrap =
        [.sleep (some (0x1_0000_0000 + 1)), .sleep none] ∧
      SeenAlike ((Alarm.scheduler 3).performAll acrossWrap)
        ((initial (Alarm.topology 3) ()).performAll acrossWrap) := by
  have hoblivious : (Alarm.topology 3).Oblivious :=
    { calm := fun _ _ h view => Alarm.asks_of_handles h _ view
      calmInit := fun id init h => by
        rw [Alarm.init_eq_none] at h
        cases h
      blind := fun id handler h view => by
        obtain rfl | rfl := Alarm.of_handles h
        · trivial
        · trivial
      blindInit := fun id init h => by
        rw [Alarm.init_eq_none] at h
        cases h }
  have hsteady : ∀ happening ∈ ((initial (Alarm.topology 3) ()).performAll acrossWrap).log,
      Happening.Steady happening := by decide +kernel
  obtain ⟨-, halike, -, -⟩ :=
    refines_unbounded_time hoblivious (Alarm.build_topology 3) acrossWrap hsteady
  exact ⟨hoblivious, hsteady, by decide +kernel, by decide +kernel, halike⟩

end Tracked

end TimedMachines
