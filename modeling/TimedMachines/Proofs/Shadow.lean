import TimedMachines.Proofs.Epoch
import TimedMachines.Proofs.Wakeup

/-!
# Handlers on two clocks

The same scheduler, with the same handlers, is run on the clock of traced
timestamps and on the unbounded clock `Nat`. As long as the traced clock
is steady, whatever a handler does and whatever is delivered to a machine
leaves the second run what it was before: the first one with nothing but
true times (`Tracked.Follows`). Once the clock has strayed, nothing is
said any more, and that is in the log for good (`Tracked.Shadows`).

The invariant that is carried along is that the times in use are in one
epoch (`Tracked.InEpoch`), so that timestamps decide as true times do.

Handlers may look at the time that is left and at the counter, but not at
the flag of a timestamp, and they may not restart the machines
(`Topology.Oblivious`).
-/

namespace TimedMachines

variable {μ : Type} {t : Topology μ}

/-- **Handlers see no more of the time** than what is left of it and the
counter, and do not restart the machines. -/
structure Topology.Oblivious (t : Topology μ) : Prop where
  calm : t.Calm
  calmInit : ∀ (id : Fin t.machineCount) init, (t.machines.get id).init = some init →
    ∀ view, (init view).Asks fun request => request.restarts = false
  blind : ∀ (id : Fin t.machineCount) handler, (t.machines.get id).Handles handler →
    ∀ view, (handler view).Blind fun now later => now.ticks = later.ticks
  blindInit : ∀ (id : Fin t.machineCount) init, (t.machines.get id).init = some init →
    ∀ view, (init view).Blind fun now later => now.ticks = later.ticks

namespace Tracked

variable {epoch : Nat} {fresh : Bool} {busy : Option (Fin t.machineCount)}
  {u : Tracked Traced t} {r : Tracked Nat t}

/-! ## The log only grows -/

theorem Strays.add (h : u.Strays) (happening : Happening Traced t.machineCount) :
    (u.add happening).Strays := by
  obtain ⟨entry, hmem, hunsteady⟩ := h
  exact ⟨entry, List.mem_cons_of_mem _ hmem, hunsteady⟩

theorem strays_of_unsteady {happening : Happening Traced t.machineCount}
    (h : ¬happening.Steady) (u : Tracked Traced t) : (u.add happening).Strays :=
  ⟨happening, List.mem_cons_self, h⟩

/-- A clock that has not been steady does not become so. -/
theorem stable_strays : Stable (Strays (t := t)) where
  frame u v halike h := by
    unfold Strays
    rw [halike.log]
    exact h
  setClock _ _ h := h.add _
  rewind _ h := h.add _
  preparing _ _ _ h := h.add _
  prepared _ _ _ _ _ h := h.add _

theorem strays_deliver (id : Fin t.machineCount) (wakesSleepers : Bool) (place : Coords)
    (event : Event) (h : u.Strays) : (u.deliver id wakesSleepers place event).Strays :=
  deliver_keeps stable_strays.world (fun _ _ h => h) (fun _ _ _ h => h.add _)
    (fun _ _ _ => Act.asks_any _) wakesSleepers place event u h

/-! ## Single actions -/

/-- **What the second run is to the first**, as long as the clock is
steady. -/
def Follows (epoch : Nat) (fresh : Bool) (busy : Option (Fin t.machineCount))
    (u : Tracked Traced t) (r : Tracked Nat t) : Prop :=
  InEpoch epoch fresh busy u ∧ r = u.unwrapped

/-- **The second run follows the first**, unless the clock has strayed. -/
def Shadows (epoch : Nat) (fresh : Bool) (busy : Option (Fin t.machineCount))
    (u : Tracked Traced t) (r : Tracked Nat t) : Prop :=
  u.Strays ∨ Follows epoch fresh busy u r

theorem unwrapped_setClock (h : InEpoch epoch fresh busy u) (ticks : Ticks) :
    u.unwrapped.setClock ticks = (u.setClock ticks).unwrapped := by
  unfold setClock
  simp only [unwrapped, add, Clock.advanceTo, h.now.ticks_eq h.dvd, List.map_cons,
    Happening.unwrapped]

/-- What the clock gives rise to depends on the order of times only. -/
theorem unwrapped_ring (h : InEpoch epoch fresh busy u) :
    u.unwrapped.ring = u.ring.unwrapped := by
  unfold ring
  rw [show u.unwrapped.flags = u.flags from rfl]
  split
  · split <;> rfl
  · next hsleep =>
    have hreached : Clock.atOrAfter u.now u.wakeup =
        Clock.atOrAfter u.unwrapped.now u.unwrapped.wakeup :=
      h.now.atOrAfter_eq (h.wakeup (by simpa using hsleep))
    rw [← hreached]
    split
    · exact (unwrapped_broadcast ..).symm
    · rfl

theorem follows_advance (h : Follows epoch fresh busy u r) (ticks : Ticks) :
    Shadows epoch fresh busy (u.advance ticks) (r.advance ticks) := by
  obtain ⟨h, rfl⟩ := h
  by_cases hsteady : u.now.stamp.overflow = true → u.now.stamp.ticks ≤ ticks
  · have hset := h.setClock hsteady
    refine .inr ⟨hset.frame (alike_ring _), ?_⟩
    unfold advance
    rw [unwrapped_setClock h, unwrapped_ring hset]
  · have hset : ¬(Happening.set u.now ticks : Happening Traced t.machineCount).Steady := hsteady
    exact .inl (stable_strays.frame _ _ (alike_ring _) (strays_of_unsteady hset _))

theorem follows_post (h : Follows epoch fresh busy u r) (group : UInt8) (forceNew : Bool)
    (event : Event) :
    (u.post group forceNew event).1 = (r.post group forceNew event).1 ∧
      Follows epoch fresh busy (u.post group forceNew event).2 (r.post group forceNew event).2 := by
  obtain ⟨h, rfl⟩ := h
  rw [unwrapped_post]
  exact ⟨rfl, h.frame (alike_post ..), rfl⟩

theorem follows_broadcast (h : Follows epoch fresh busy u r) (forceNew : Bool) (event : Event) :
    Follows epoch fresh busy (u.broadcast forceNew event) (r.broadcast forceNew event) := by
  obtain ⟨h, rfl⟩ := h
  exact ⟨h.frame (alike_broadcast ..), (unwrapped_broadcast ..).symm⟩

theorem follows_requestExit (h : Follows epoch fresh busy u r) :
    Follows epoch fresh busy u.requestExit r.requestExit := by
  obtain ⟨h, rfl⟩ := h
  exact ⟨h.frame ⟨rfl, rfl, rfl, rfl, rfl, rfl⟩, rfl⟩

theorem follows_wake (h : Follows epoch fresh busy u r) :
    Follows epoch fresh busy u.wake r.wake := by
  obtain ⟨h, rfl⟩ := h
  exact ⟨h.frame ⟨rfl, rfl, rfl, rfl, rfl, rfl⟩, rfl⟩

theorem follows_heartbeat (h : Follows epoch fresh busy u r) :
    Shadows epoch fresh busy u.heartbeat r.heartbeat := by
  have hticks : (Clock.shown r.now).ticks = (Clock.shown u.now).ticks := by
    obtain ⟨h, rfl⟩ := h
    exact h.now.ticks_eq h.dvd
  unfold heartbeat
  rw [hticks]
  exact follows_advance h _

/-! ## Handlers -/

/-- **On the two clocks the schedulers are worlds that agree on single
actions**, but for what they show of the time, as long as the clock is
steady. -/
theorem follows_world (start : Tracked Traced t → Tracked Traced t)
    (start' : Tracked Nat t → Tracked Nat t) :
    (world start).Simulates (world start') (fun request => request.restarts = false)
      (fun now later => now.ticks = later.ticks) Eq Strays (Follows epoch fresh busy) where
  now u r h := by
    refine ⟨?_, h⟩
    obtain ⟨h, rfl⟩ := h
    exact (h.now.ticks_eq h.dvd).symm
  post group forceNew event u r h := follows_post h group forceNew event
  ask request u r hcalm h := by
    cases request with
    | advance ticks => exact follows_advance h ticks
    | heartbeat => exact follows_heartbeat h
    | broadcast forceNew event => exact .inr (follows_broadcast h forceNew event)
    | exit => exact .inr (follows_requestExit h)
    | reset | start => cases hcalm
  consult u r h := by
    obtain ⟨h, rfl⟩ := h
    rfl
  amend change u r h := by
    obtain ⟨h, rfl⟩ := h
    exact ⟨h.frame ⟨rfl, rfl, rfl, rfl, rfl, rfl⟩, rfl⟩
  remark _ _ u r h := h

/-- So handlers run alike on the two clocks. -/
theorem follows_run (start : Tracked Traced t → Tracked Traced t)
    (start' : Tracked Nat t → Tracked Nat t) (knows : StateId → Bool) {act : Act μ}
    (hcalm : act.Asks fun request => request.restarts = false)
    (hblind : act.Blind fun now later => now.ticks = later.ticks) (wishes : Wishes)
    (h : Follows epoch fresh busy u r) :
    (act.run (world start) knows wishes u).2.Strays ∨
      ((act.run (world start) knows wishes u).1 = (act.run (world start') knows wishes r).1 ∧
        Follows epoch fresh busy (act.run (world start) knows wishes u).2
          (act.run (world start') knows wishes r).2) :=
  Act.run_simulates (follows_world start start') (stable_strays.toLasting.world start) knows act
    hcalm hblind act.overlooks_eq wishes u r h

/-! ## Startup -/

theorem unwrapped_prepared (before : StatusOn Traced) (wishes : Wishes) (now : Traced) :
    (before.prepared wishes now).unwrapped =
      before.unwrapped.prepared wishes now.elapsed := by
  obtain ⟨veto, stay, target⟩ := wishes
  cases stay <;> rfl

/-- The end of a delay is current. -/
theorem current_offset {epoch : Nat} {startup : Bool} {base now : Traced} (hbase : base.In epoch)
    (hpast : base.elapsed ≤ now.elapsed) {delay : Ticks}
    (hfits : base.stamp.value + delay.toNat < 0x2_0000_0000) {status : StatusOn Traced}
    (hwakeup : status.wakeup = Clock.offset base delay) :
    Current epoch startup now status where
  scheduled _ := by
    rw [hwakeup]
    refine ⟨hbase.offset hfits, ?_⟩
    have := delay.toNat_lt
    simp only [Clock.offset]
    omega
  startup _ := by
    rw [hwakeup]
    exact hbase.offset hfits

/-- What handlers that do not restart the machines leave between two
states: time has passed, and startup is still going on or not. -/
structure Since (u v : Tracked Traced t) : Prop where
  elapsed : u.now.elapsed ≤ v.now.elapsed
  startup : v.flags.timeoutWakesSleepers = u.flags.timeoutWakesSleepers

theorem lasting_since (u : Tracked Traced t) : Lasting (Since u) where
  frame v w halike h := by
    refine ⟨?_, halike.timeoutWakesSleepers.trans h.startup⟩
    rw [halike.now]
    exact h.elapsed
  setClock _ v h := ⟨Nat.le_trans h.elapsed (Nat.le_add_right _ _), h.startup⟩

/-- A wakeup stays current. -/
theorem Current.later {status : StatusOn Traced} {v : Tracked Traced t}
    (h : Current epoch u.flags.timeoutWakesSleepers u.now status) (hsince : Since u v) :
    Current epoch v.flags.timeoutWakesSleepers v.now status where
  scheduled hawake := by
    obtain ⟨hin, hlt⟩ := h.scheduled hawake
    exact ⟨hin, Nat.lt_of_lt_of_le hlt (Nat.add_le_add_right hsince.elapsed _)⟩
  startup := by
    rw [hsince.startup]
    exact h.startup

/-- The status after an initialization is current. -/
theorem current_prepared {before : StatusOn Traced} {wishes : Wishes}
    (hbefore : Current epoch u.flags.timeoutWakesSleepers u.now before) (hnow : u.now.In epoch)
    (hsteady : ∀ d, wishes.stay.delay? = some d → u.now.stamp.value + d.toNat < 0x2_0000_0000) :
    Current epoch u.flags.timeoutWakesSleepers u.now (before.prepared wishes u.now) := by
  obtain ⟨veto, stay, target⟩ := wishes
  cases stay with
  | byDefault => exact ⟨hbefore.scheduled, hbefore.startup⟩
  | ticks delay => exact current_offset hnow (Nat.le_refl _) (hsteady delay rfl) rfl
  | forever => exact .of_asleep rfl hbefore.startup

theorem shadows_prepared (h : InEpoch epoch fresh none u) {id : Fin t.machineCount}
    (hhosts : t.Hosts id) {before : StatusOn Traced}
    (hbefore : Current epoch u.flags.timeoutWakesSleepers u.now before) (wishes : Wishes) :
    Shadows epoch fresh none
      ((u.write id (before.prepared wishes u.now)).add (.prepared id u.now wishes.stay.delay?))
      ((u.unwrapped.write id (before.unwrapped.prepared wishes u.unwrapped.now)).add
        (.prepared id u.unwrapped.now wishes.stay.delay?)) := by
  by_cases hsteady : (Happening.prepared id u.now wishes.stay.delay? :
      Happening Traced t.machineCount).Steady
  · refine .inr ⟨?_, ?_⟩
    · have hcurrent := current_prepared hbefore h.now hsteady
      exact (h.write_idle hhosts hcurrent).add _
    · have hstatus := unwrapped_prepared before wishes u.now
      rw [show u.unwrapped.now = u.now.elapsed from rfl, ← hstatus, ← unwrapped_write]
      rfl
  · exact .inl (strays_of_unsteady hsteady _)

/-- **Initialization handlers run alike.** -/
theorem follows_prepare (hoblivious : t.Oblivious) (start : Tracked Traced t → Tracked Traced t)
    (start' : Tracked Nat t → Tracked Nat t) (h : Follows epoch fresh none u r)
    {id : Fin t.machineCount} (hhosts : t.Hosts id) (place : Coords) :
    Shadows epoch fresh none (prepare (world start) id place u)
      (prepare (world start') id place r) := by
  unfold prepare
  cases hinit : (t.machines.get id).init with
  | none => exact .inr h
  | some init =>
    obtain ⟨h, rfl⟩ := h
    have hview : initView place (u.unwrapped.statuses.get id) =
        initView place (u.statuses.get id) := by
      rw [unwrapped_status]
      rfl
    have hlogged : Follows epoch fresh none
        (u.add (.preparing id (initView place (u.statuses.get id))))
        (u.unwrapped.add (.preparing id (initView place (u.statuses.get id)))) := ⟨h.add _, rfl⟩
    have hcalm := hoblivious.calmInit id init hinit (initView place (u.statuses.get id))
    have hsince := Act.run_keeps ((lasting_since u).world start)
      (t.machines.get id).table.hasState _ hcalm .none
      (u.add (.preparing id (initView place (u.statuses.get id)))) ⟨Nat.le_refl _, rfl⟩
    have hrun := follows_run start start' (t.machines.get id).table.hasState hcalm
      (hoblivious.blindInit id init hinit _) .none hlogged
    dsimp only
    rw [hview, unwrapped_status]
    revert hsince hrun
    rcases Act.run (world start) _ _ _ _ with ⟨wishes, v⟩
    rcases Act.run (world start') _ _ _ _ with ⟨_, r'⟩
    rintro hsince (hstrays | ⟨rfl, hv, rfl⟩)
    · -- the handler itself has moved the clock too far
      refine .inl ?_
      dsimp only
      split
      · exact hstrays
      · exact Strays.add (u := v.write id _) hstrays _
    · dsimp only
      split
      · exact .inr ⟨hv, rfl⟩
      · exact shadows_prepared hv hhosts ((h.current_of_idle id).later hsince) wishes

theorem shadows_prepareAll (hoblivious : t.Oblivious)
    (start : Tracked Traced t → Tracked Traced t) (start' : Tracked Nat t → Tracked Nat t)
    (h : Follows epoch fresh none u r) :
    Shadows epoch fresh none (prepareAll (world start) u) (prepareAll (world start') r) := by
  refine List.foldl_rel (r := Shadows epoch fresh none) (.inr h) fun g _ _ _ h =>
    List.foldl_rel (r := Shadows epoch fresh none) h fun member hmem v _ h => ?_
  obtain hstrays | h := h
  · exact .inl (prepare_keeps (stable_strays.toLasting.world start) stable_strays.preparing
      stable_strays.prepared member.2 (hoblivious.calmInit member.2) member.1 v hstrays)
  · exact follows_prepare hoblivious start start' h (Topology.hosts_of_placed hmem) member.1

/-- **Starts run alike.** -/
theorem shadows_start (hoblivious : t.Oblivious) (h : Follows epoch fresh none u r) :
    Shadows epoch fresh none u.start r.start := by
  unfold start
  cases t.config.nesting with
  | zero => exact shadows_prepareAll hoblivious _ _ h
  | succ depth => exact shadows_prepareAll hoblivious _ _ h

/-! ## Deliveries -/

theorem left_unwrapped {before : StatusOn Traced} (hnow : u.now.In epoch)
    (hbefore : Current epoch u.flags.timeoutWakesSleepers u.now before) :
    before.unwrapped.left u.unwrapped.now = before.left u.now := by
  unfold StatusOn.left StatusOn.scheduled StatusOn.unwrapped
  cases hawake : before.flags.infiniteSleep with
  | true => rfl
  | false =>
    obtain ⟨hin, hlt⟩ := hbefore.scheduled hawake
    simp only [Bool.false_eq_true, if_false, Option.map_some]
    rw [hnow.span_eq hin hlt]
    rfl

theorem view_unwrapped {before : StatusOn Traced} (place : Coords) (event : Event)
    (hnow : u.now.In epoch)
    (hbefore : Current epoch u.flags.timeoutWakesSleepers u.now before) :
    view place event before.unwrapped u.unwrapped.now = view place event before u.now := by
  unfold view
  rw [left_unwrapped hnow hbefore]
  rfl

theorem isAsleep_unwrapped {before : StatusOn Traced} {wakesSleepers : Bool}
    (h : InEpoch epoch wakesSleepers none u)
    (hbefore : Current epoch u.flags.timeoutWakesSleepers u.now before) :
    before.unwrapped.isAsleep u.unwrapped.now wakesSleepers =
      before.isAsleep u.now wakesSleepers := by
  have hreached (hin : before.wakeup.In epoch) : Clock.atOrAfter u.now before.wakeup =
      Clock.atOrAfter u.unwrapped.now before.unwrapped.wakeup := h.now.atOrAfter_eq hin
  unfold StatusOn.isAsleep
  rw [show before.unwrapped.flags = before.flags from rfl]
  cases hsleep : before.flags.infiniteSleep with
  | false => rw [hreached (hbefore.scheduled hsleep).1]
  | true =>
    -- a timeout reaches the machine at startup only, when its wakeup is in the epoch
    cases hwakes : wakesSleepers with
    | false => rfl
    | true => rw [hreached (hbefore.startup (h.fresh hwakes))]

theorem unwrapped_call (h : InEpoch epoch fresh none u) (id : Fin t.machineCount)
    {before : StatusOn Traced}
    (hbefore : Current epoch u.flags.timeoutWakesSleepers u.now before) (view : View) :
    u.unwrapped.call id before.unwrapped view = (u.call id before view).unwrapped := by
  unfold call
  rw [left_unwrapped h.now hbefore]
  rw [show before.unwrapped.suspended = before.suspended.unwrapped from rfl, ← unwrapped_write]
  cases t.config.timing.delayBase <;> rfl

/-- The status that a step leads to is current. -/
theorem current_moved (h : InEpoch epoch fresh busy u) {base : Traced} {move : Move}
    (hbase : base.In epoch) (hpast : base.elapsed ≤ u.now.elapsed)
    (hsteady : ∀ d, move.delay = some d → base.stamp.value + d.toNat < 0x2_0000_0000) :
    Current epoch u.flags.timeoutWakesSleepers u.now (.moved base move) := by
  cases hdelay : move.delay with
  | none =>
    refine ⟨fun hawake => ?_, fun hstartup => ?_⟩
    · simp only [StatusOn.moved, hdelay, Option.isNone_none] at hawake
      cases hawake
    · -- without a delay the wakeup is zero, and so is the epoch
      simp only [StatusOn.moved, hdelay, Option.map_none, Option.getD_none, h.origin hstartup]
      rfl
  | some delay =>
    refine current_offset hbase hpast (hsteady delay hdelay) ?_
    simp only [StatusOn.moved, hdelay, Option.map_some, Option.getD_some]

theorem shadows_moved (h : InEpoch epoch fresh busy u) {id : Fin t.machineCount}
    (hbusy : ∀ k, k ≠ id → busy ≠ some k) (hhosts : t.Hosts id) {base : Traced}
    (hbase : base.In epoch) (hpast : base.elapsed ≤ u.now.elapsed) (move : Move) :
    Shadows epoch fresh none ((u.write id (.moved base move)).add (.moved id base move))
      ((u.unwrapped.write id (.moved base.elapsed move)).add
        (.moved id base.elapsed { move with base := Clock.shown base.elapsed })) := by
  by_cases hsteady : (Happening.moved id base move).Steady
  · have hstatus : StatusOn.moved base.elapsed move = (StatusOn.moved base move).unwrapped := by
      unfold StatusOn.moved StatusOn.unwrapped
      cases move.delay <;> rfl
    refine .inr ⟨?_, ?_⟩
    · exact (h.write hbusy hhosts (current_moved h hbase hpast hsteady)).add _
    · rw [hstatus, ← unwrapped_write]
      rfl
  · exact .inl (strays_of_unsteady hsteady _)

/-- The handler is called alike. -/
theorem follows_call (h : InEpoch epoch fresh none u) (id : Fin t.machineCount)
    {before : StatusOn Traced}
    (hbefore : Current epoch u.flags.timeoutWakesSleepers u.now before) (view : View) :
    Follows epoch fresh (some id) (u.call id before view)
      (u.unwrapped.call id before.unwrapped view) := by
  refine ⟨?_, unwrapped_call h id hbefore view⟩
  have hsuspended := (h.suspend id before.suspended).add
    (.processing id view u.now (before.left u.now))
  unfold call
  cases t.config.timing.delayBase with
  | beforeHandler => exact hsuspended.add _
  | afterHandler => exact hsuspended

theorem since_call (u : Tracked Traced t) (id : Fin t.machineCount) (before : StatusOn Traced)
    (view : View) : Since u (u.call id before view) := by
  unfold call
  cases t.config.timing.delayBase with
  | beforeHandler => exact ⟨Nat.le_refl _, rfl⟩
  | afterHandler => exact ⟨Nat.le_refl _, rfl⟩

theorem strays_base (h : u.Strays) (id : Fin t.machineCount) (now : Traced) :
    (u.base id now).2.Strays := by
  unfold base
  cases t.config.timing.delayBase with
  | beforeHandler => exact h
  | afterHandler => exact h.add _

/-- **Handlers run alike**, from the call to the step or the veto. -/
theorem shadows_handle (hoblivious : t.Oblivious) (h : InEpoch epoch fresh none u)
    {id : Fin t.machineCount} (hhosts : t.Hosts id) {handler : Handler μ}
    (hhandles : (t.machines.get id).Handles handler) (target : StateId) {before : StatusOn Traced}
    (hbefore : Current epoch u.flags.timeoutWakesSleepers u.now before) (view : View) :
    Shadows epoch fresh none (u.handle id handler target before view)
      (u.unwrapped.handle id handler target before.unwrapped view) := by
  have hcalm := hoblivious.calm id handler hhandles view
  have hsince := Act.run_keeps ((lasting_since u).world start) (t.machines.get id).table.hasState _
    hcalm .none _ (since_call u id before view)
  have hrun := follows_run start start (t.machines.get id).table.hasState hcalm
    (hoblivious.blind id handler hhandles view) .none (follows_call h id hbefore view)
  have hbusy (k : Fin t.machineCount) (hk : k ≠ id) : some id ≠ some k :=
    fun hsame => hk (Option.some.inj hsame).symm
  unfold handle
  dsimp only
  revert hsince hrun
  rcases Act.run (world Tracked.start) _ _ _ (u.call id before view) with ⟨wishes, v⟩
  rcases Act.run (world Tracked.start) _ _ _ (u.unwrapped.call id before.unwrapped view)
    with ⟨_, r'⟩
  rintro hsince (hstrays | ⟨rfl, hv, rfl⟩)
  · refine .inl ?_
    dsimp only
    split
    · exact hstrays
    · exact Strays.add (u := (v.base id u.now).2.write id _) (strays_base hstrays id u.now) _
  · dsimp only
    split
    · -- a veto brings back the old wakeup, which is still current
      have hrestored : Current epoch v.flags.timeoutWakesSleepers v.now before.restored :=
        ⟨(hbefore.later hsince).scheduled, (hbefore.later hsince).startup⟩
      refine .inr ⟨hv.write hbusy hhosts hrestored, ?_⟩
      rw [unwrapped_write]
      rfl
    · unfold base
      cases t.config.timing.delayBase with
      | beforeHandler => exact shadows_moved hv hbusy hhosts h.now hsince.elapsed _
      | afterHandler =>
        exact shadows_moved (hv.add (.based id v.now)) hbusy hhosts hv.now (Nat.le_refl _) _

/-- **Deliveries run alike.** -/
theorem shadows_deliver (hoblivious : t.Oblivious) {wakesSleepers : Bool}
    (h : Shadows epoch wakesSleepers none u r) {id : Fin t.machineCount} (hhosts : t.Hosts id)
    (place : Coords) (event : Event) :
    Shadows epoch wakesSleepers none (u.deliver id wakesSleepers place event)
      (r.deliver id wakesSleepers place event) := by
  obtain hstrays | ⟨h, rfl⟩ := h
  · exact .inl (strays_deliver id wakesSleepers place event hstrays)
  · have hcurrent := h.current_of_idle id
    unfold deliver
    split
    · dsimp only
      rw [unwrapped_status,
        show (u.statuses.get id).unwrapped.state = (u.statuses.get id).state from rfl,
        isAsleep_unwrapped h hcurrent]
      cases hcell : (t.machines.get id).table.get? (u.statuses.get id).state event.code with
      | none => exact .inr ⟨h, rfl⟩
      | some cell =>
        obtain ⟨_ | handler, target⟩ := cell
        · dsimp only
          split
          · have hforever : Current epoch u.flags.timeoutWakesSleepers u.now
                (u.statuses.get id).sleepForever := .of_asleep rfl hcurrent.startup
            refine .inr ⟨h.write_idle hhosts hforever, ?_⟩
            rw [unwrapped_write]
            rfl
          · exact .inr ⟨h, rfl⟩
        · dsimp only
          split
          · exact .inr ⟨h, rfl⟩
          · rw [view_unwrapped place event h.now hcurrent]
            exact shadows_handle hoblivious h hhosts ⟨_, _, target, hcell⟩ target hcurrent _
    · exact .inr ⟨h, rfl⟩

end Tracked

end TimedMachines
