import TimedMachines.Proofs.Response

/-!
# Infinite sleep is left through an event

Once a scheduler has slept, timeouts no longer reach the machines that are
in infinite sleep. They may be given any number of them – by producers,
by the clock, by the wakeup of another machine that shares their group –
and sleep on in their state until they are roused: handed an event that is
no timeout and that their state has a handler for (`sleeps_until_roused`).

The argument goes from one moment of a run to the next (`Soundly`). A
response changes a sleeping machine only if it calls a handler. It does
not call one on a timeout, and what handlers of other machines do leaves
the sleepers alone. No more is said after the first restart.
-/

namespace TimedMachines

variable {μ : Type} {t : Topology μ}

namespace Scheduler

variable {s u v : Scheduler t} {id : Fin t.machineCount}

/-- The machine is in infinite sleep, in the given state. -/
def SleepsIn (id : Fin t.machineCount) (state : StateId) (s : Scheduler t) : Prop :=
  (s.statuses.get id).flags.infiniteSleep = true ∧ (s.statuses.get id).state = state

/-- **If the machine sleeps, it sleeps on** in the same state. -/
def SleepsOn (id : Fin t.machineCount) (s u : Scheduler t) : Prop :=
  ∀ state, s.SleepsIn id state → u.SleepsIn id state

instance (id : Fin t.machineCount) (state : StateId) (s : Scheduler t) :
    Decidable (s.SleepsIn id state) :=
  inferInstanceAs (Decidable (_ ∧ _))

theorem SleepsOn.trans (h : SleepsOn id s u) (h' : SleepsOn id u v) : SleepsOn id s v :=
  fun state hs => h' state (h state hs)

theorem sleepsOn_of_get_eq (h : u.statuses.get id = s.statuses.get id) : SleepsOn id s u :=
  fun _ hs => ⟨h ▸ hs.1, h ▸ hs.2⟩

theorem Unmoved.sleepsOn (h : Unmoved s u) (id : Fin t.machineCount) : SleepsOn id s u :=
  sleepsOn_of_get_eq (congrArg (Vector.get · id) h.statuses)

theorem Unmoved.symm (h : Unmoved s u) : Unmoved u s :=
  ⟨h.statuses.symm, h.wakes.symm, h.told.symm⟩

/-- A machine that is not in infinite sleep has nothing to keep. -/
theorem sleepsOn_of_awake (h : (s.statuses.get id).flags.infiniteSleep = false) :
    SleepsOn id s u :=
  fun _ hs => absurd (h.symm.trans hs.1) Bool.false_ne_true

/-- The scheduler's going to sleep wakes nobody. -/
theorem sleepsOn_settle (consensus : Consensus) (s : Scheduler t) (id : Fin t.machineCount) :
    SleepsOn id s (s.settle consensus) := by
  unfold settle
  dsimp only
  split
  · intro state hs
    have hrebased : ((s.schedule consensus).rebase.endStartup).statuses.get id =
        (s.statuses.get id).rebased := Vector.get_mapped ..
    exact ⟨hrebased ▸ hs.1, hrebased ▸ hs.2⟩
  · exact sleepsOn_of_get_eq rfl

/-- From then on timeouts do not reach sleepers. -/
theorem wakes_settle (consensus : Consensus) (s : Scheduler t) :
    (s.settle consensus).flags.timeoutWakesSleepers = false :=
  rfl

end Scheduler

open Scheduler (SleepsOn sleepsOn_of_get_eq sleepsOn_of_awake)

/-! ## From one moment to the next -/

/-- The coordinates of the machine whose handler is about to run. -/
def Incident.call? : Incident t → Option Coords
  | .reported (.note (.processing place ..)) | .reported (.note (.preparing place)) => some place
  | _ => none

/-- A handler of the machine is about to run. -/
def Incident.Calls (id : Fin t.machineCount) (incident : Incident t) : Prop :=
  incident.call?.bind t.at? = some id

theorem Incident.not_calls {id : Fin t.machineCount} {incident : Incident t}
    (h : incident.call? = none) : ¬incident.Calls id := by
  unfold Calls
  rw [h]
  exact nofun

theorem Incident.not_calls_of_place? {id : Fin t.machineCount} {incident : Incident t}
    (h : incident.place? = none) : ¬incident.Calls id := by
  refine not_calls ?_
  unfold call?
  split
  · cases h
  · cases h
  · rfl

/-- **Whether the machine is roused**: it is handed an event that is no
timeout, and its state has a handler for it. -/
def Moment.rouses (id : Fin t.machineCount) (m : Moment t) : Bool :=
  match m.incident with
  | .handed _ other event =>
    decide (other = id) && !event.isTimeout &&
      (t.machines.get id).answers (m.scheduler.statuses.get id).state event
  | _ => false

namespace Chronicled

/-- The scheduler after the moments of a chronicle, which was `first`
before them. -/
def latest (first : Scheduler t) : List (Moment t) → Scheduler t
  | [] => first
  | m :: _ => m.scheduler

/-- **The machine sleeps soundly**: up to the first restart, if it is in
infinite sleep at one moment and is not roused then, it sleeps on at the
next, and no handler of it is called. -/
def Soundly (id : Fin t.machineCount) (first : Scheduler t) : List (Moment t) → Prop
  | [] => True
  | m :: older =>
    (Uninterrupted (m :: older) → (∃ r ∈ older.head?, r.rouses id = true) ∨
      SleepsOn id (latest first older) m.scheduler ∧
        (m.incident.Calls id → ∀ state, ¬(latest first older).SleepsIn id state)) ∧
      Soundly id first older

theorem Soundly.of_append {id : Fin t.machineCount} {first : Scheduler t}
    {newest older : List (Moment t)} (h : Soundly id first (newest ++ older)) :
    Soundly id first older := by
  induction newest with
  | nil => exact h
  | cons m newest ih => exact ih h.2

/-- **So it goes on** until it is roused. -/
theorem Soundly.sleeps {id : Fin t.machineCount} {first : Scheduler t}
    {recent older : List (Moment t)} (h : Soundly id first (recent ++ older))
    (hcalm : Uninterrupted (recent ++ older)) {state : StateId}
    (hsleeps : (latest first older).SleepsIn id state)
    (hroused : ∀ m ∈ recent ++ older.take 1, m.rouses id = false) :
    (latest first (recent ++ older)).SleepsIn id state ∧
      ∀ m ∈ recent, m.scheduler.SleepsIn id state ∧ ¬m.incident.Calls id := by
  induction recent with
  | nil => exact ⟨hsleeps, List.forall_mem_nil _⟩
  | cons m recent ih =>
    obtain ⟨hnext, hsoundly⟩ := h
    obtain ⟨hbefore, hmoments⟩ := ih hsoundly (uninterrupted_cons.mp hcalm).2
      fun m hm => hroused m (List.mem_cons_of_mem _ hm)
    have hhead : ¬∃ r ∈ (recent ++ older).head?, r.rouses id = true := by
      rintro ⟨r, hr, hrouses⟩
      refine absurd ((hroused r (List.mem_cons_of_mem _ ?_)).symm.trans hrouses) Bool.false_ne_true
      cases recent with
      | nil =>
        cases older with
        | nil => cases hr
        | cons k rest => exact Option.mem_some.mp hr ▸ List.mem_cons_self
      | cons k rest => exact Option.mem_some.mp hr ▸ List.mem_cons_self
    obtain ⟨hon, hcalls⟩ := (hnext hcalm).resolve_left hhead
    have hnow := hon state hbefore
    exact ⟨hnow, List.forall_mem_cons.mpr
      ⟨⟨hnow, fun hcall => hcalls hcall state hbefore⟩, hmoments⟩⟩

/-- A machine has slept soundly, and sleeps on since the last moment. -/
structure Slumbers (id : Fin t.machineCount) (first : Scheduler t) (u : Chronicled t) : Prop where
  soundly : Soundly id first u.chronicle
  now : Uninterrupted u.chronicle → SleepsOn id (latest first u.chronicle) u.scheduler

namespace Slumbers

variable {id : Fin t.machineCount} {first : Scheduler t} {u v : Chronicled t}

theorem update (h : Slumbers id first u) {f : Scheduler t → Scheduler t}
    (hf : Uninterrupted u.chronicle → SleepsOn id u.scheduler (f u.scheduler)) :
    Slumbers id first (u.update f) where
  soundly := h.soundly
  now hcalm := (h.now hcalm).trans (hf hcalm)

/-- A moment more at which no handler of the machine is called. -/
theorem add (h : Slumbers id first u) {incident : Incident t}
    (hcall : ¬incident.Calls id) : Slumbers id first (u.add incident) where
  soundly := ⟨fun hcalm => .inr ⟨h.now (uninterrupted_cons.mp hcalm).2,
    fun hcalled => absurd hcalled hcall⟩, h.soundly⟩
  now _ := sleepsOn_of_get_eq rfl

/-- A machine reports something else. -/
theorem tell (h : Slumbers id first u) {entry : Entry}
    (hcall : ¬(Incident.reported entry : Incident t).Calls id) :
    Slumbers id first (u.tell entry) :=
  (h.update fun _ => sleepsOn_of_get_eq rfl).add hcall

/-- A machine changes: another one, or one that is awake, or one that sleeps
on. -/
theorem set (h : Slumbers id first u) {other : Fin t.machineCount} {status : Status}
    (hstatus : Uninterrupted u.chronicle → id = other →
      (u.status id).flags.infiniteSleep = true →
      status.flags.infiniteSleep = true ∧ status.state = (u.status id).state) :
    Slumbers id first (u.set other status) := by
  refine h.update fun hcalm => ?_
  by_cases hid : id = other
  · rintro state ⟨hflag, rfl⟩
    obtain ⟨hsleeps, hstate⟩ := hstatus hcalm hid hflag
    subst hid
    have hset := status_set_self id status u
    exact ⟨(congrArg (·.flags.infiniteSleep) hset).trans hsleeps,
      (congrArg Status.state hset).trans hstate⟩
  · exact sleepsOn_of_get_eq (status_set_of_ne hid status u)

/-- **The machine sleeps through interludes.** -/
theorem interlude (h : Slumbers id first u) (hinterlude : Interlude u v) :
    Slumbers id first v := by
  obtain ⟨recent, hrecent, -, hstill, hunmoved⟩ := hinterlude
  have hlatest {older : List (Moment t)} (hstill : Still u.scheduler older)
      (hcalm : Uninterrupted (older ++ u.chronicle)) :
      SleepsOn id (latest first (older ++ u.chronicle)) u.scheduler := by
    cases older with
    | nil => exact h.now hcalm
    | cons m older =>
      exact (hstill.1 (uninterrupted_append.mp hcalm).1).2.symm.sleepsOn id
  have hsoundly : Soundly id first (recent ++ u.chronicle) := by
    clear hrecent hunmoved
    induction recent with
    | nil => exact h.soundly
    | cons m older ih =>
      refine ⟨fun hcalm => .inr ?_, ih hstill.2⟩
      obtain ⟨hplace, hmoment⟩ := hstill.1 (uninterrupted_append.mp hcalm).1
      exact ⟨(hlatest hstill.2 (uninterrupted_cons.mp hcalm).2).trans (hmoment.sleepsOn id),
        fun hcalled => absurd hcalled (Incident.not_calls_of_place? hplace)⟩
  refine ⟨hrecent ▸ hsoundly, fun hcalm => ?_⟩
  rw [hrecent] at hcalm ⊢
  exact (hlatest hstill hcalm).trans ((hunmoved (uninterrupted_append.mp hcalm).1).sleepsOn id)

/-- **Whoever calls a handler was awake or is roused**, if timeouts do not
reach sleepers. -/
theorem call (h : Slumbers id first u) {g : Fin t.groupCount}
    {member : Coords × Fin t.machineCount} (hmember : member ∈ t.placed g) {event : Event}
    (hanswers : (t.machines.get member.2).answers (u.status member.2).state event = true)
    (hawake : Uninterrupted u.chronicle → event.isTimeout = true →
      (u.status member.2).flags.infiniteSleep = false) :
    Slumbers id first ((u.add (.handed member.1 member.2 event)).call member.1 member.2 event) := by
  have hhanded : Slumbers id first (u.add (.handed member.1 member.2 event)) :=
    h.add (Incident.not_calls rfl)
  by_cases hid : id = member.2
  · subst hid
    refine ⟨⟨fun hcalm => ?_, hhanded.soundly⟩, fun _ => sleepsOn_of_get_eq rfl⟩
    cases htimeout : event.isTimeout with
    | true =>
      have hflag := hawake (uninterrupted_cons.mp (uninterrupted_cons.mp hcalm).2).2 htimeout
      exact .inr ⟨sleepsOn_of_awake hflag, fun _ state hsleeps =>
        absurd (hflag.symm.trans hsleeps.1) Bool.false_ne_true⟩
    | false =>
      have hrouses :
          Moment.rouses member.2 ⟨.handed member.1 member.2 event, u.scheduler⟩ = true := by
        simp only [Moment.rouses, htimeout, decide_true, Bool.not_false, Bool.and_self,
          Bool.true_and]
        exact hanswers
      exact .inl ⟨_, rfl, hrouses⟩
  · refine (hhanded.set fun _ heq => absurd heq hid).tell fun hcalls => hid ?_
    exact (Option.some.inj ((t.at?_placed hmember).symm.trans hcalls)).symm

/-- **A machine that is not roused sleeps through deliveries**, its own and
those of others, if timeouts do not reach sleepers. -/
theorem respond (h : Slumbers id first u) {wakesSleepers : Bool}
    (hwakes : Uninterrupted u.chronicle → wakesSleepers = false) {g : Fin t.groupCount}
    {member : Coords × Fin t.machineCount} (hmember : member ∈ t.placed g) {event : Event}
    (hresponse : Response wakesSleepers member.1 member.2 event
      (u.add (.handed member.1 member.2 event)) v) : Slumbers id first v := by
  have hhanded : Slumbers id first (u.add (.handed member.1 member.2 event)) :=
    h.add (Incident.not_calls rfl)
  cases hresponse with
  | ignored hnote => exact hhanded.tell (Incident.not_calls (by obtain rfl | rfl := hnote <;> rfl))
  | unhandled =>
    refine (hhanded.set fun _ heq hflag => ?_).tell (Incident.not_calls rfl)
    subst heq
    split
    · exact ⟨rfl, rfl⟩
    · exact ⟨hflag, rfl⟩
  | asleep hnote =>
    refine (hhanded.tell (Incident.not_calls ?_)).tell (Incident.not_calls rfl)
    obtain rfl | ⟨_, rfl⟩ := hnote <;> rfl
  | @handled ran status r hruns hawake _ =>
    have hcalled := h.call hmember hruns.answers fun hcalm htimeout => by
      have hdue := hawake htimeout
      rw [hwakes hcalm] at hdue
      unfold Status.isAsleep at hdue
      exact (Bool.or_eq_false_iff.mp hdue).1 ▸ (Bool.and_true _).symm
    refine ((hcalled.interlude hruns.interlude).set fun hcalm heq hflag => ?_).tell (Incident.not_calls rfl)
    -- a machine whose handler runs is not in infinite sleep
    obtain ⟨recent, hrecent, -, -, hunmoved⟩ := hruns.interlude
    rw [hrecent, uninterrupted_append] at hcalm
    subst heq
    have hstatus : ran.status member.2 = _ :=
      (congrArg (Vector.get · member.2) (hunmoved hcalm.1).statuses).trans
        (status_set_self member.2 _ _)
    rw [hstatus] at hflag
    cases hflag

end Slumbers

theorem enduring_slumbers (first : Scheduler t) :
    Enduring fun u : Chronicled t => Wakes false u ∧ ∀ id, Slumbers id first u where
  interlude hinterlude h :=
    ⟨h.1.interlude hinterlude, fun id => (h.2 id).interlude hinterlude⟩
  respond hmember hwakes hresponse h :=
    ⟨(h.1.add _).response hresponse, fun id =>
      (h.2 id).respond (fun hcalm => (hwakes hcalm).symm.trans (h.1 hcalm)) hmember hresponse⟩
  settle consensus _ h :=
    ⟨fun _ => Scheduler.wakes_settle consensus _, fun id =>
      (h.2 id).update fun _ => Scheduler.sleepsOn_settle consensus _ id⟩

/-- **Infinite sleep is only left through an event** that is no timeout. A
pass ends in sleep, and nothing restarts the machines after that. If a
machine is in infinite sleep at some moment, then it sleeps on in the same
state and no handler of it is called, through all passes and until a pass
hands it an event that is no timeout and that this state has a handler
for, whatever timeouts it is handed. If a handler restarts the machines,
this holds up to that moment. -/
theorem sleeps_until_roused {s asleep : Scheduler t} {wakeup : Option Timestamp}
    (hpass : s.pass = (.sleep wakeup, asleep)) {operations : List Operation}
    (hcalm : ∀ operation ∈ operations, operation.restarts = false) :
    let u := (of asleep).performAll operations
    u.scheduler = asleep.performAll operations ∧
      ∀ id state newest recent older, u.chronicle = newest ++ (recent ++ older) →
        Uninterrupted (recent ++ older) → (latest asleep older).SleepsIn id state →
        (∀ m ∈ recent ++ older.take 1, m.rouses id = false) →
        (∀ m ∈ recent, m.scheduler.SleepsIn id state ∧ ¬m.incident.Calls id) ∧
          (newest = [] → u.scheduler.SleepsIn id state) := by
  intro u
  have hwakes : asleep.flags.timeoutWakesSleepers = false := by
    obtain ⟨consensus, visited, -, -, -, -, rfl⟩ := Scheduler.sleep_of_pass hpass
    exact Scheduler.wakes_settle consensus visited
  obtain ⟨-, hslumbers⟩ := (enduring_slumbers asleep).performAll (u := of asleep) hcalm
    ⟨fun _ => hwakes, fun _ => ⟨trivial, fun _ => sleepsOn_of_get_eq rfl⟩⟩
  refine ⟨scheduler_performAll _ _, fun id state newest recent older hsplit huninterrupted hsleeps
    hroused => ?_⟩
  obtain ⟨hsoundly, hnow⟩ := hslumbers id
  change Soundly id asleep u.chronicle at hsoundly
  rw [hsplit] at hsoundly
  obtain ⟨hlatest, hmoments⟩ := hsoundly.of_append.sleeps huninterrupted hsleeps hroused
  refine ⟨hmoments, ?_⟩
  rintro rfl
  change Uninterrupted u.chronicle → SleepsOn id (latest asleep u.chronicle) u.scheduler at hnow
  rw [hsplit] at hnow
  exact hnow huninterrupted state hlatest

/-- An alarm that is not set sleeps through two timeouts, one of its own
and one for all groups. -/
theorem sleeps_until_roused_alarm :
    let asleep := (Alarm.scheduler 3).pass.2
    let operations : List Operation :=
      [.post 0 false .timeout, .pass, .heartbeat, .broadcast false .timeout, .pass]
    let u := (of asleep).performAll operations
    (Alarm.scheduler 3).pass = (.sleep none, asleep) ∧
      (∀ operation ∈ operations, operation.restarts = false) ∧ Uninterrupted u.chronicle ∧
      asleep.SleepsIn Alarm.clock 0 ∧ (∀ m ∈ u.chronicle, m.rouses Alarm.clock = false) ∧
      (u.scheduler.journal.toList.count (.record (.suppressed ⟨0, 0⟩ 0 .timeout .asleep)) = 2) ∧
      (∀ m ∈ u.chronicle, m.scheduler.SleepsIn Alarm.clock 0 ∧ ¬m.incident.Calls Alarm.clock) ∧
      u.scheduler.SleepsIn Alarm.clock 0 := by
  intro asleep operations u
  have hsleep : (Alarm.scheduler 3).pass.1 = .sleep none := by decide +kernel
  have hpass : (Alarm.scheduler 3).pass = (.sleep none, asleep) := by rw [← hsleep]
  have hcalm : ∀ operation ∈ operations, operation.restarts = false := by decide
  have huninterrupted : Uninterrupted u.chronicle := by decide +kernel
  have hsleeps : asleep.SleepsIn Alarm.clock 0 := by decide +kernel
  have hroused : ∀ m ∈ u.chronicle, m.rouses Alarm.clock = false := by decide +kernel
  obtain ⟨-, hslumbers⟩ := sleeps_until_roused hpass hcalm
  have hwhole : u.chronicle ++ [] = u.chronicle := List.append_nil _
  obtain ⟨hmoments, hnow⟩ := hslumbers Alarm.clock 0 [] u.chronicle [] hwhole.symm
    (hwhole.symm ▸ huninterrupted) hsleeps (hwhole.symm ▸ hroused)
  exact ⟨hpass, hcalm, huninterrupted, hsleeps, hroused, by decide +kernel, hmoments, hnow rfl⟩

end Chronicled

end TimedMachines
