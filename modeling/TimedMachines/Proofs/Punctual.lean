import TimedMachines.Proofs.Agreement
import TimedMachines.Proofs.Alarm

/-!
# No timeout comes early

A single bit has to stand for all the turns that the counter has made: it
is dropped only when a pass ends in sleep, while the clock may go round
any number of times without a pass. This module shows what that can do
to a timeout: it may come late, but not early.

The reason is that timestamps are never faster than the truth
(`value_advanceTo_le`). The way from a base instant to the present is at
least as long in true ticks as on the line of timestamps, and a wakeup is
a delay away from its base on that line. A change of epoch moves the
clock by a whole turn, and a wakeup by no more than that – unless nothing
is scheduled at all, and then no machine waits for a timeout.

One exception is by design. A delay that would wrap a second time ends at
the last timestamp, so such a wakeup is closer to its base than the delay
says, on the line and in truth (`Traced.deadline`).
-/

namespace TimedMachines

/-- **When a delay is over at the earliest**, in true time: it may be cut
short by the end of the line of timestamps. -/
def Traced.deadline (base : Traced) (delay : Ticks) : Nat :=
  base.elapsed + min delay.toNat (0x1_FFFF_FFFF - base.stamp.value)

/-- The deadline comes no earlier in truth than the wakeup does on the
line of timestamps, with both seen from the present. -/
theorem deadline_add_le {base now : Traced} (delay : Ticks)
    (h : base.elapsed + now.stamp.value ≤ now.elapsed + base.stamp.value) :
    base.deadline delay + now.stamp.value ≤
      now.elapsed + (Clock.offset base delay).stamp.value := by
  have hbase := base.stamp.value_lt
  have hoffset : (Clock.offset base delay).stamp.value = _ := base.stamp.value_offset delay
  unfold Traced.deadline
  omega

variable {μ : Type} {t : Topology μ}

/-! ## What the log says about a machine -/

/-- Whether an entry of the log changes the machine's status: a step, an
initialization, or a return to startup. -/
def Happening.Unsettles {machines : Nat} (id : Fin machines) : Happening Traced machines → Prop
  | .rewound => True
  | .prepared k _ _ | .moved k _ _ => k = id
  | _ => False

/-- Whether an entry of the log is about the machine, other than that its
initialization handler was called. -/
def Happening.Concerns {machines : Nat} (id : Fin machines) : Happening Traced machines → Prop
  | .rewound => True
  | .prepared k _ _ | .processing k _ _ _ | .based k _ | .moved k _ _ => k = id
  | .set .. | .preparing .. => False

/-- **The machine's delays count from `base`**, a time that was read for it
since the last return to startup. -/
inductive Based {machines : Nat} (id : Fin machines) (base : Traced) :
    List (Happening Traced machines) → Prop where
  /-- The time has just been read. -/
  | read (older : List (Happening Traced machines)) : Based id base (.based id base :: older)
  /-- Anything but a return to startup has happened since. -/
  | later {happening : Happening Traced machines} {older : List (Happening Traced machines)}
    (hne : happening ≠ .rewound) (h : Based id base older) : Based id base (happening :: older)

/-- **The machine waits for a timeout**, since it took a step with a delay
from `base`. -/
inductive Waits {machines : Nat} (id : Fin machines) (base : Traced) (delay : Ticks) :
    List (Happening Traced machines) → Prop where
  /-- It has just taken the step. -/
  | moved {move : Move} {older : List (Happening Traced machines)}
    (hdelay : move.delay = some delay) (h : Based id base older) :
    Waits id base delay (.moved id base move :: older)
  /-- Nothing has changed its status since. -/
  | later {happening : Happening Traced machines} {older : List (Happening Traced machines)}
    (hsettled : ¬happening.Unsettles id) (h : Waits id base delay older) :
    Waits id base delay (happening :: older)

/-- **No timeout came early**: whenever one called a handler of the machine
while it was waiting, the deadline had come. -/
def Punctual {machines : Nat} (id : Fin machines) : List (Happening Traced machines) → Prop
  | [] => True
  | .processing k view now _ :: older =>
    (k = id → view.event.isTimeout = true →
        ∀ base delay, Waits id base delay older → base.deadline delay ≤ now.elapsed) ∧
      Punctual id older
  | _ :: older => Punctual id older

section Log

variable {machines : Nat} {id : Fin machines} {base : Traced} {delay : Ticks}
  {happening : Happening Traced machines} {older : List (Happening Traced machines)}

theorem Based.of_later (h : Based id base (happening :: older))
    (hconcerns : ¬happening.Concerns id) : Based id base older := by
  cases h with
  | read => exact absurd rfl hconcerns
  | later _ h => exact h

theorem Waits.of_later (h : Waits id base delay (happening :: older))
    (hconcerns : ¬happening.Concerns id) : Waits id base delay older := by
  cases h with
  | moved => exact absurd rfl hconcerns
  | later _ h => exact h

theorem not_waits_of_unsettles (hunsettles : happening.Unsettles id)
    (hne : ∀ base move, happening ≠ .moved id base move) :
    ¬Waits id base delay (happening :: older) := by
  intro h
  cases h with
  | moved => exact hne _ _ rfl
  | later hsettled _ => exact hsettled hunsettles

theorem punctual_cons (h : Punctual id older) (hconcerns : ¬happening.Concerns id) :
    Punctual id (happening :: older) := by
  cases happening with
  | processing k view now left => exact ⟨fun hk => absurd hk hconcerns, h⟩
  | set _ _ | rewound | preparing _ _ | prepared _ _ _ | based _ _ | moved _ _ _ => exact h

/-- What a punctual log says about each call. -/
theorem Punctual.deadline_le {newer : List (Happening Traced machines)} {view : View} {now : Traced}
    {left : Option Nat} (h : Punctual id (newer ++ .processing id view now left :: older))
    (htimeout : view.event.isTimeout = true) (hwaits : Waits id base delay older) :
    base.deadline delay ≤ now.elapsed := by
  induction newer with
  | nil => exact h.1 rfl htimeout _ _ hwaits
  | cons happening newer ih =>
    cases happening with
    | processing _ _ _ _ => exact ih h.2
    | set _ _ | rewound | preparing _ _ | prepared _ _ _ | based _ _ | moved _ _ _ => exact ih h

end Log

namespace Tracked

/-! ## The invariant -/

/-- **A machine in wait of a timeout**: its wakeup is still as far away as
the deadline, or farther. -/
structure Armed (id : Fin t.machineCount) (base : Traced) (delay : Ticks)
    (status : StatusOn Traced) (now : Traced) : Prop where
  hosts : t.Hosts id
  awake : status.flags.infiniteSleep = false
  handles : (t.machines.get id).table.handlesTimeout status.state = true
  ahead : base.deadline delay + now.stamp.value ≤ now.elapsed + status.wakeup.stamp.value

/-- **The invariant**, for one machine. While a handler of the machine
runs, `saved` is the status it had before, and the present one is without
meaning. -/
structure OnTime (id : Fin t.machineCount) (saved : Option (StatusOn Traced))
    (u : Tracked Traced t) : Prop where
  based : ∀ base, Based id base u.log →
    base.elapsed + u.now.stamp.value ≤ u.now.elapsed + base.stamp.value
  armed : ∀ base delay, Waits id base delay u.log →
    Armed id base delay (saved.getD (u.statuses.get id)) u.now
  punctual : Punctual id u.log

variable {id : Fin t.machineCount} {saved : Option (StatusOn Traced)} {u v : Tracked Traced t}

/-- The invariant is about the time, the machine and the log only. -/
theorem OnTime.congr (h : OnTime id saved u) (hnow : v.now = u.now)
    (hstatus : v.statuses.get id = u.statuses.get id) (hlog : v.log = u.log) :
    OnTime id saved v where
  based := by
    rw [hnow, hlog]
    exact h.based
  armed := by
    rw [hnow, hlog, hstatus]
    exact h.armed
  punctual := by
    rw [hlog]
    exact h.punctual

/-- Entries of the log that do not concern the machine do not matter. -/
theorem OnTime.add (h : OnTime id saved u) {happening : Happening Traced t.machineCount}
    (hconcerns : ¬happening.Concerns id) : OnTime id saved (u.add happening) where
  based base hbased := h.based base (hbased.of_later hconcerns)
  armed base delay hwaits := h.armed base delay (hwaits.of_later hconcerns)
  punctual := punctual_cons h.punctual hconcerns

/-- Nor do other machines. -/
theorem OnTime.write (h : OnTime id saved u) {other : Fin t.machineCount} (hne : other ≠ id)
    (status : StatusOn Traced) : OnTime id saved (u.write other status) :=
  h.congr rfl (Vector.get_put_of_ne _ _ hne.symm) rfl

/-- **Handlers keep the invariant**, whatever they make of the clock, also
if they reset or start the scheduler. -/
theorem stable_onTime (id : Fin t.machineCount) (saved : Option (StatusOn Traced)) :
    Stable (OnTime (t := t) id saved) where
  frame u v halike h := h.congr halike.now (by rw [halike.statuses]) halike.log
  setClock ticks u h := by
    have hslow := u.now.stamp.value_advanceTo_le ticks
    have hadd : OnTime id saved { u with now := Clock.advanceTo u.now ticks } :=
      { based := fun base hbased => by
          have := h.based base hbased
          simp only [Clock.advanceTo]
          omega
        armed := fun base delay hwaits => by
          obtain ⟨hhosts, hawake, hhandles, hahead⟩ := h.armed base delay hwaits
          refine ⟨hhosts, hawake, hhandles, ?_⟩
          simp only [Clock.advanceTo]
          omega
        punctual := h.punctual }
    have hconcerns : ¬(Happening.set u.now ticks).Concerns id := fun h => h
    exact hadd.add hconcerns
  rewind u h :=
    { based := fun base hbased => by
        cases hbased with
        | later hne _ => exact absurd rfl hne
      armed := fun base delay hwaits =>
        absurd hwaits (not_waits_of_unsettles trivial fun _ _ => nofun)
      punctual := h.punctual }
  preparing k view u h := h.add fun hconcerns => hconcerns
  prepared k status base delay u h := by
    by_cases hk : k = id
    · exact
        { based := fun base hbased => by
            cases hbased with
            | later _ hbased => exact h.based base hbased
          armed := fun base delay hwaits =>
            absurd hwaits (not_waits_of_unsettles hk fun _ _ => nofun)
          punctual := h.punctual }
    · exact (h.write hk status).add hk

/-! ## Deliveries to other machines -/

/-- **Kept by whatever other machines do.** -/
structure Aside (id : Fin t.machineCount) (P : Tracked Traced t → Prop) : Prop
    extends Stable P where
  write : ∀ (other : Fin t.machineCount) status u, other ≠ id → P u → P (u.write other status)
  add : ∀ (happening : Happening Traced t.machineCount) u, ¬happening.Concerns id → P u →
    P (u.add happening)

theorem aside_onTime (id : Fin t.machineCount) (saved : Option (StatusOn Traced)) :
    Aside id (OnTime (t := t) id saved) where
  toStable := stable_onTime id saved
  write _ status _ hne h := h.write hne status
  add _ _ hconcerns h := h.add hconcerns

/-- Only its own steps make a machine wait. -/
theorem aside_waits (id : Fin t.machineCount) (C : Prop) :
    Aside id fun u : Tracked Traced t => ∀ base delay, Waits id base delay u.log → C where
  frame u v halike h := by
    rw [halike.log]
    exact h
  setClock _ _ h base delay hwaits := h base delay (hwaits.of_later fun hconcerns => hconcerns)
  rewind _ _ _ _ hwaits := absurd hwaits (not_waits_of_unsettles trivial fun _ _ => nofun)
  preparing _ _ _ h base delay hwaits := h base delay (hwaits.of_later fun hconcerns => hconcerns)
  prepared k _ _ _ u h base delay hwaits := by
    by_cases hk : k = id
    · exact absurd hwaits (not_waits_of_unsettles hk fun _ _ => nofun)
    · exact h base delay (hwaits.of_later hk)
  write _ _ _ _ h := h
  add _ _ hconcerns h base delay hwaits := h base delay (hwaits.of_later hconcerns)

theorem Aside.deliver {P : Tracked Traced t → Prop} (hP : Aside id P) {other : Fin t.machineCount}
    (hne : other ≠ id) (wakesSleepers : Bool) (place : Coords) (event : Event)
    (u : Tracked Traced t) (h : P u) :
    P (u.deliver other wakesSleepers place event) := by
  refine deliver_keeps hP.world (fun status u => hP.write other status u hne)
    (fun happening u hdelivery => hP.add happening u fun hconcerns => hne ?_)
    (fun _ _ _ => Act.asks_any _) wakesSleepers place event u h
  cases happening with
  | processing _ _ _ _ | based _ _ | moved _ _ _ => exact hdelivery.symm.trans hconcerns
  | set _ _ | rewound | preparing _ _ | prepared _ _ _ => exact absurd hdelivery (fun h => h)

/-! ## Deliveries to the machine -/

/-- The base of the machine's next delay can be read at any time. -/
theorem OnTime.add_based (h : OnTime id saved u) : OnTime id saved (u.add (.based id u.now)) where
  based base hbased := by
    cases hbased with
    | read => exact Nat.le_refl _
    | later _ hbased => exact h.based base hbased
  armed base delay hwaits := by
    cases hwaits with
    | later _ hwaits => exact h.armed base delay hwaits
  punctual := h.punctual

/-- **A handler is called on time**: by a timeout only if the wakeup has
been reached. -/
theorem onTime_call (h : OnTime id none u) (view : View)
    (hreached : view.event.isTimeout = true →
      (u.statuses.get id).wakeup.stamp.value ≤ u.now.stamp.value) :
    OnTime id (some (u.statuses.get id)) (u.call id (u.statuses.get id) view) := by
  have hlogged : OnTime id (some (u.statuses.get id))
      ((u.write id (u.statuses.get id).suspended).add
      (.processing id view u.now ((u.statuses.get id).left u.now))) :=
    { based := fun base hbased => by
        cases hbased with
        | later _ hbased => exact h.based base hbased
      armed := fun base delay hwaits => by
        cases hwaits with
        | later _ hwaits => exact h.armed base delay hwaits
      punctual := by
        refine ⟨fun _ htimeout base delay hwaits => ?_, h.punctual⟩
        have hahead := (h.armed base delay hwaits).ahead
        have := hreached htimeout
        simp only [Option.getD_none] at hahead
        omega }
  unfold call
  cases t.config.timing.delayBase with
  | beforeHandler => exact hlogged.add_based
  | afterHandler => exact hlogged

/-- After a veto the machine waits as it did before. -/
theorem onTime_restored {before : StatusOn Traced} (h : OnTime id (some before) u) :
    OnTime id none (u.write id before.restored) where
  based := h.based
  armed base delay hwaits := by
    obtain ⟨hhosts, hawake, hhandles, hahead⟩ := h.armed base delay hwaits
    have hstatus : (u.write id before.restored).statuses.get id = before.restored :=
      Vector.get_put_self ..
    rw [Option.getD_none, hstatus]
    exact ⟨hhosts, hawake, hhandles, hahead⟩
  punctual := h.punctual

/-- **A step with a delay arms the machine**, if the state it leads to
handles timeouts. -/
theorem onTime_moved (hhosts : t.Hosts id) (h : OnTime id saved u) (base : Traced) {move : Move}
    (hhandles : ∀ delay, move.delay = some delay →
      (t.machines.get id).table.handlesTimeout move.target = true) :
    OnTime id none ((u.write id (.moved base move)).add (.moved id base move)) where
  based base hbased := by
    cases hbased with
    | later _ hbased => exact h.based base hbased
  armed base delay hwaits := by
    have hstatus : ((u.write id (.moved base move)).add
        (.moved id base move)).statuses.get id = .moved base move := Vector.get_put_self ..
    cases hwaits with
    | later hsettled _ => exact absurd rfl hsettled
    | moved hdelay hbased =>
      rw [Option.getD_none, hstatus]
      refine ⟨hhosts, ?_, hhandles delay hdelay, ?_⟩
      · simp only [StatusOn.moved, hdelay, Option.isNone_some]
      · simp only [StatusOn.moved, hdelay, Option.map_some, Option.getD_some]
        exact deadline_add_le delay (h.based base hbased)
  punctual := h.punctual

/-- A delay is only given to states that handle timeouts. -/
theorem handlesTimeout_of_delay {machine : Machine μ} {timing : Timing} {view : View}
    {target : StateId} {wishes : Wishes} {base : Timestamp} {delay : Ticks}
    (h : (machine.move timing view target wishes base).delay = some delay) :
    machine.table.handlesTimeout (machine.move timing view target wishes base).target = true := by
  unfold Machine.move Machine.delayFor at *
  dsimp only at *
  split at h
  · assumption
  · cases h

theorem onTime_handle (hhosts : t.Hosts id) (h : OnTime id none u) (handler : Handler μ)
    (target : StateId) (view : View)
    (hreached : view.event.isTimeout = true →
      (u.statuses.get id).wakeup.stamp.value ≤ u.now.stamp.value) :
    OnTime id none (u.handle id handler target (u.statuses.get id) view) := by
  have hrun := Act.run_keeps (stable_onTime id (some (u.statuses.get id))).world
    (t.machines.get id).table.hasState _ (Act.asks_any (handler view)) .none _
    (onTime_call h view hreached)
  unfold handle
  dsimp only
  split
  · exact onTime_restored hrun
  · unfold base
    cases t.config.timing.delayBase with
    | beforeHandler => exact onTime_moved hhosts hrun _ fun _ => handlesTimeout_of_delay
    | afterHandler => exact onTime_moved hhosts hrun.add_based _ fun _ => handlesTimeout_of_delay

/-- **Deliveries keep the invariant.** -/
theorem onTime_deliver (hhosts : t.Hosts id) (h : OnTime id none u) (wakesSleepers : Bool)
    (place : Coords) (event : Event) :
    OnTime id none (u.deliver id wakesSleepers place event) := by
  unfold deliver
  split
  · dsimp only
    split
    · exact h
    · next target hcell =>
      split
      · next htimeout =>
        -- the machine does not wait in a state that does not handle the timeout
        have hcode : event.code = 0 := by
          simpa [Event.isTimeout, EventCode.isTimeout] using htimeout
        have hidle (base : Traced) (delay : Ticks) : ¬Waits id base delay u.log := fun hwaits => by
          have hhandles := (h.armed base delay hwaits).handles
          rw [hcode] at hcell
          rw [Option.getD_none, Table.handlesTimeout, hcell] at hhandles
          exact Bool.false_ne_true hhandles
        exact
          { based := h.based
            armed := fun base delay hwaits => absurd hwaits (hidle base delay)
            punctual := h.punctual }
      · exact h
    · next handler target hcell =>
      split
      · exact h
      · next hawake =>
        refine onTime_handle hhosts h handler target _ fun htimeout => ?_
        have htimeout' : event.isTimeout = true := htimeout
        simp only [htimeout', Bool.true_and, StatusOn.isAsleep, Bool.or_eq_true, not_or,
          Bool.not_eq_true', Bool.not_eq_false] at hawake
        exact Timestamp.atOrAfter_iff.mp hawake.2
  · exact h

/-! ## Passes -/

theorem isSome_sooner (a b : Option Traced) :
    (Clock.sooner a b).isSome = (a.isSome || b.isSome) := by
  cases a <;> cases b <;> rfl

/-- What a pass has so far: the invariant, and a wakeup in the consensus –
the present group's, or that of the groups before – if the machine waits
and has had its turn. -/
def Counted (id : Fin t.machineCount) (outer : Option Traced) (seen : List (Fin t.machineCount))
    (acc : Option Traced × Tracked Traced t) : Prop :=
  OnTime id none acc.2 ∧
    (id ∈ seen → ∀ base delay, Waits id base delay acc.2.log →
      (Clock.sooner outer acc.1).isSome = true)

/-- The machine's own turn: its wakeup is in the consensus if it waits. -/
theorem counted_own_turn (h : OnTime id none u) (outer earliest : Option Traced)
    (seen : List (Fin t.machineCount)) :
    Counted id outer seen (Clock.sooner earliest (u.statuses.get id).scheduled, u) := by
  refine ⟨h, fun _ base delay hwaits => ?_⟩
  have hawake := (h.armed base delay hwaits).awake
  rw [Option.getD_none] at hawake
  have hscheduled : (u.statuses.get id).scheduled.isSome = true := by
    rw [StatusOn.scheduled, hawake]
    rfl
  rw [isSome_sooner, isSome_sooner, hscheduled, Bool.or_true, Bool.or_true]

/-- Another machine's turn: whatever was in the consensus stays. -/
theorem counted_other_turn {outer earliest : Option Traced} {seen : List (Fin t.machineCount)}
    (h : Counted id outer seen (earliest, u)) {machine : Fin t.machineCount} (hne : machine ≠ id) :
    Counted id outer (seen ++ [machine])
      (Clock.sooner earliest (u.statuses.get machine).scheduled, u) := by
  refine ⟨h.1, fun hid base delay hwaits => ?_⟩
  have hseen : id ∈ seen := by simpa [hne.symm] using hid
  have hcounted := h.2 hseen base delay hwaits
  rw [isSome_sooner, Bool.or_eq_true] at hcounted ⊢
  exact hcounted.imp_right fun hsome => by rw [isSome_sooner, hsome, Bool.true_or]

theorem counted_visitMember (wakesSleepers : Bool) (event : Option Event) {outer : Option Traced}
    {seen : List (Fin t.machineCount)} {acc : Option Traced × Tracked Traced t}
    {member : Coords × Fin t.machineCount} (hhosts : t.Hosts member.2)
    (h : Counted id outer seen acc) :
    Counted id outer (seen ++ [member.2]) (visitMember wakesSleepers event acc member) := by
  obtain ⟨earliest, u⟩ := acc
  obtain ⟨place, machine⟩ := member
  by_cases hsame : machine = id
  · subst hsame
    cases event with
    | none => exact counted_own_turn h.1 ..
    | some event => exact counted_own_turn (onTime_deliver hhosts h.1 wakesSleepers place event) ..
  · cases event with
    | none => exact counted_other_turn h hsame
    | some event =>
      refine counted_other_turn ⟨?_, fun hseen => ?_⟩ hsame
      · exact (aside_onTime id none).deliver hsame wakesSleepers place event u h.1
      · exact (aside_waits id _).deliver hsame wakesSleepers place event u (h.2 hseen)

theorem counted_visitGroup (wakesSleepers : Bool) {seen : List (Fin t.machineCount)}
    {acc : Option Traced × Tracked Traced t} (g : Fin t.groupCount)
    (h : Counted id none seen acc) :
    Counted id none (seen ++ (t.groups.get g).members) (visitGroup wakesSleepers acc g) := by
  obtain ⟨earliest, u⟩ := acc
  have hpop : OnTime id none (u.popFrom g).2.2 ∧ (u.popFrom g).2.2.log = u.log := by
    unfold popFrom
    split
    · exact ⟨h.1.congr rfl rfl rfl, rfl⟩
    · exact ⟨h.1, rfl⟩
  have hfold : Counted id earliest (seen ++ (t.groups.get g).members)
      ((t.placed g).foldl (visitMember wakesSleepers (u.popFrom g).1)
        (none, (u.popFrom g).2.2)) := by
    refine Scheduler.foldl_placed
      (fun _ _ _ hmember hown =>
        counted_visitMember wakesSleepers _ (Topology.hosts_of_placed hmember) hown)
      ⟨hpop.1, fun hid base delay hwaits => ?_⟩
    rw [hpop.2] at hwaits
    have := h.2 hid base delay hwaits
    rwa [isSome_sooner, Option.isSome_none, Bool.or_false]
  unfold visitGroup
  dsimp only
  refine ⟨?_, fun hid base delay hwaits => ?_⟩
  · split
    · exact hfold.1.congr rfl rfl rfl
    · exact hfold.1
  · have hlog (more : Bool) (v : Tracked Traced t) :
        (if more then v.markQueued else v).log = v.log := by
      split <;> rfl
    rw [hlog] at hwaits
    exact hfold.2 hid base delay hwaits

theorem counted_visitAll (h : OnTime id none u) :
    OnTime id none u.visitAll.2 ∧
      ∀ base delay, Waits id base delay u.visitAll.2.log → u.visitAll.1.isSome = true := by
  obtain ⟨seen, hseen, hcounted⟩ := Scheduler.foldl_allGroups (P := Counted id none)
    (f := visitGroup u.flags.timeoutWakesSleepers) (b := (none, u))
    (fun _ _ g hacc => counted_visitGroup _ g hacc) ⟨h, fun hid => nomatch hid⟩
  refine ⟨hcounted.1, fun base delay hwaits => ?_⟩
  exact hcounted.2 (hseen id (hcounted.1.armed base delay hwaits).hosts) base delay hwaits

/-- **A change of epoch takes nothing from a machine that waits**, since
the clock itself is past the wrap then. -/
theorem onTime_rebase (h : OnTime id none u)
    (hwrapped : ∀ base delay, Waits id base delay u.log → u.now.stamp.overflow = true) :
    OnTime id none u.rebase where
  based base hbased := by
    have := h.based base hbased
    have hnow : u.now.stamp.rebased.value ≤ u.now.stamp.value := u.now.stamp.rebased_le_value
    simp only [rebase, Clock.rebased]
    omega
  armed base delay hwaits := by
    obtain ⟨hhosts, hawake, hhandles, hahead⟩ := h.armed base delay hwaits
    rw [Option.getD_none] at hawake hhandles hahead
    have hnow := u.now.stamp.value_rebased (hwrapped base delay hwaits)
    -- the clock loses a whole turn, and the wakeup no more than that
    have hwakeup := (u.statuses.get id).wakeup.stamp.value_le_rebased
    have hstatus : u.rebase.statuses.get id = (u.statuses.get id).rebased := Vector.get_mapped ..
    rw [Option.getD_none, hstatus]
    refine ⟨hhosts, hawake, hhandles, ?_⟩
    simp only [rebase, StatusOn.rebased, Clock.rebased]
    omega
  punctual := h.punctual

/-- Going to sleep keeps the invariant, if the machine is counted when it
waits. -/
theorem onTime_settle {earliest : Option Traced} (h : OnTime id none u)
    (hcounted : ∀ base delay, Waits id base delay u.log → earliest.isSome = true) :
    OnTime id none (u.settle earliest) := by
  have hscheduled : OnTime id none (u.schedule earliest) := h.congr rfl rfl rfl
  unfold settle
  dsimp only
  split
  · next hover =>
    refine onTime_rebase hscheduled fun base delay hwaits => ?_
    have hsome := hcounted base delay hwaits
    rw [← Option.not_isNone, Bool.not_eq_true'] at hsome
    simp only [epochOver, schedule, hsome, Bool.false_or, Bool.and_eq_true] at hover
    exact hover.1
  · exact hscheduled

/-- **Passes keep the invariant.** -/
theorem onTime_pass (h : OnTime id none u) : OnTime id none u.pass.2 := by
  have hstart : OnTime id none u.inPass := h.congr rfl rfl rfl
  obtain ⟨hvisited, hcounted⟩ := counted_visitAll hstart
  unfold pass
  dsimp only
  split
  · exact hstart
  · split
    · exact hvisited
    · unfold commit
      split
      · exact (stable_onTime id none).broadcast _ _ _ hvisited
      · exact onTime_settle hvisited hcounted

/-! ## Runs -/

theorem onTime_perform (h : OnTime id none u) (operation : Operation) :
    OnTime id none (u.perform operation) := by
  have hstable := stable_onTime (t := t) id none
  cases operation with
  | start => exact hstable.start u h
  | reset => exact hstable.start _ (hstable.rewind u h)
  | post group forceNew event => exact hstable.post _ _ _ u h
  | broadcast forceNew event => exact hstable.broadcast _ _ u h
  | advance ticks => exact hstable.advance ticks u h
  | heartbeat => exact hstable.advance _ u h
  | requestExit => exact hstable.requestExit u h
  | wake => exact hstable.wake u h
  | takeWake => exact h.congr rfl rfl rfl
  | pass => exact onTime_pass h

theorem onTime_performAll (id : Fin t.machineCount) (memory : μ) (operations : List Operation) :
    OnTime id none ((initial t memory).performAll operations) :=
  List.foldlRecOn operations perform
    { based := fun _ hbased => by cases hbased
      armed := fun _ _ hwaits => by cases hwaits
      punctual := trivial }
    fun _ h operation _ => onTime_perform h operation

/-- **No timeout comes early.** A scheduler was put together and anything
was done to it, with any handlers. Then the traced one, which agrees with
it, shows that no timeout has called a handler of a machine before its
deadline: if the machine was waiting since a step with a delay from some
base instant, then the true time of the call is that of the base plus the
delay, or later – plus what was left of the line of timestamps, if the
delay did not fit on it. -/
theorem no_timeout_early {memory : μ} {s : Scheduler t} (h : Scheduler.build t memory = .ok s)
    (operations : List Operation) :
    Agrees (s.performAll operations) ((initial t memory).performAll operations) ∧
      ∀ (id : Fin t.machineCount) (newer older : List (Happening Traced t.machineCount))
        (view : View) (now base : Traced) (left : Option Nat) (delay : Ticks),
        ((initial t memory).performAll operations).log =
            newer ++ .processing id view now left :: older →
          view.event.isTimeout = true → Waits id base delay older →
            base.elapsed + min delay.toNat (0x1_FFFF_FFFF - base.stamp.value) ≤ now.elapsed := by
  refine ⟨agrees_performAll h operations, ?_⟩
  intro id newer older view now base left delay hlog htimeout hwaits
  have hpunctual := (onTime_performAll id memory operations).punctual
  rw [hlog] at hpunctual
  exact hpunctual.deadline_le htimeout hwaits

/-! ## The end of the line -/

/-- The alarm with the longest delay is set when the clock has wrapped, so
that the delay would wrap it again. -/
def secondWrap : List Operation :=
  [.advance 10, .advance 5, .post 0 false ⟨1, 0⟩, .pass, .takeWake, .advance 0xFFFFFFFF, .pass]

/-- When that alarm was set. -/
def alarmSet : Traced := ⟨⟨5, true⟩, 0x1_0000_0000 + 5⟩

/-- When it went off. -/
def alarmOff : Traced := ⟨⟨0xFFFFFFFF, false⟩, 0x1_FFFF_FFFF⟩

/-- What had happened before it went off. -/
def beforeAlarm : List (Happening Traced (Alarm.topology 0xFFFFFFFF).machineCount) :=
  [.set ⟨⟨5, false⟩, 0x1_0000_0000 + 5⟩ 0xFFFFFFFF,
    .moved Alarm.clock alarmSet ⟨⟨0, 0⟩, 0, ⟨1, 0⟩, 0, false, some 0xFFFFFFFF, alarmSet.stamp⟩,
    .based Alarm.clock alarmSet,
    .processing Alarm.clock ⟨⟨0, 0⟩, 0, ⟨1, 0⟩, infiniteTicks⟩ alarmSet none,
    .set ⟨⟨10, false⟩, 10⟩ 5, .set ⟨⟨0, false⟩, 0⟩ 10]

theorem log_secondWrap :
    ((initial (Alarm.topology 0xFFFFFFFF) ()).performAll secondWrap).log =
      [.moved Alarm.clock alarmOff ⟨⟨0, 0⟩, 0, .timeout, 0, false, none, alarmOff.stamp⟩,
        .based Alarm.clock alarmOff] ++
      .processing Alarm.clock ⟨⟨0, 0⟩, 0, .timeout, 0⟩ alarmOff (some 0) :: beforeAlarm := by
  decide +kernel

theorem waits_beforeAlarm : Waits Alarm.clock alarmSet 0xFFFFFFFF beforeAlarm :=
  .later (fun h => h) (.moved rfl (.read _))

/-- The bound is attained: the alarm goes off with the last timestamp. -/
theorem no_timeout_early_secondWrap :
    Scheduler.build (Alarm.topology 0xFFFFFFFF) () = .ok (Alarm.scheduler 0xFFFFFFFF) ∧
      Agrees ((Alarm.scheduler 0xFFFFFFFF).performAll secondWrap)
        ((initial (Alarm.topology 0xFFFFFFFF) ()).performAll secondWrap) ∧
      alarmSet.elapsed + min (0xFFFFFFFF : Ticks).toNat (0x1_FFFF_FFFF - alarmSet.stamp.value) ≤
        alarmOff.elapsed ∧
      alarmOff.elapsed = alarmSet.elapsed +
        min (0xFFFFFFFF : Ticks).toNat (0x1_FFFF_FFFF - alarmSet.stamp.value) := by
  have hbuild := Alarm.build_topology 0xFFFFFFFF
  obtain ⟨hagrees, hearly⟩ := no_timeout_early hbuild secondWrap
  exact ⟨hbuild, hagrees, hearly _ _ _ _ _ _ _ _ log_secondWrap rfl waits_beforeAlarm, by decide⟩

/-- **The delay itself is not a bound**: the alarm goes off five ticks
before it is over. -/
theorem timeout_early_secondWrap :
    ¬∀ (id : Fin (Alarm.topology 0xFFFFFFFF).machineCount)
        (newer older : List (Happening Traced (Alarm.topology 0xFFFFFFFF).machineCount))
        (view : View) (now base : Traced) (left : Option Nat) (delay : Ticks),
        ((initial (Alarm.topology 0xFFFFFFFF) ()).performAll secondWrap).log =
            newer ++ .processing id view now left :: older →
          view.event.isTimeout = true → Waits id base delay older →
            base.elapsed + delay.toNat ≤ now.elapsed := by
  intro hbound
  have hle := hbound _ _ _ _ _ _ _ _ log_secondWrap rfl waits_beforeAlarm
  exact absurd hle (by decide)

end Tracked

end TimedMachines
