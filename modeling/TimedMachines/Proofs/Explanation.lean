import Mathlib.Data.List.Basic
import TimedMachines.Proofs.Decision
import TimedMachines.Proofs.Response
import TimedMachines.Proofs.Restart

/-!
# The journal explains every machine

Nothing moves a machine behind the back of the journal. Whoever reads the
records of a machine from a start on, under whatever coordinates they name
it, knows the state that each of them found it in, the state that it is in
now, and when it is to be woken up (`journal_explains`).

What makes this hold is that each response to an event writes just the
record that describes it (`Accounts.snoc`): a veto restores the machine,
and an event without a handler leaves it in its state, but puts it to
sleep for good if it was a timeout. A change of epoch writes nothing, and
changes no more of a wakeup than the flag beside its counter.
-/

namespace TimedMachines

variable {μ : Type} {t : Topology μ}

/-! ## Reading a record -/

namespace Record

/-- The state in which a record found its machine. -/
def found? : Record → Option StateId
  | .transition move => some move.source
  | .vetoed _ state _ | .suppressed _ state .. => some state
  | _ => none

/-- The state of a machine after a record of it. -/
def leads (state : StateId) : Record → StateId
  | .transition move => move.target
  | _ => state

/-- Whether a record says when its machine is to be woken up: a step does,
and so does a timeout that nothing handles. -/
def decides : Record → Bool
  | .transition _ => true
  | .suppressed _ _ event .noHandler => event.isTimeout
  | _ => false

/-- What a record says about that, `none` meaning infinite sleep. -/
def wakeup? : Record → Option Timestamp
  | .transition move => move.delay.map move.base.offset
  | _ => none

end Record

/-- **The wakeup that some records lead to**: what the last of them says
that says something, or else the wakeup before. -/
def lastWakeup (before : Option Timestamp) (records : List Record) : Option Timestamp :=
  ((records.filter Record.decides).getLast?).elim before Record.wakeup?

theorem lastWakeup_append (before : Option Timestamp) (records : List Record) (r : Record) :
    lastWakeup before (records ++ [r]) =
      if r.decides then r.wakeup? else lastWakeup before records := by
  unfold lastWakeup
  cases hdecides : r.decides with
  | true => simp [List.filter_append, hdecides]
  | false => simp [List.filter_append, hdecides]

/-- **Some records account for a machine** that was `first` before them and
is `last` now. -/
structure Accounts (first : Status) (records : List Record) (last : Status) : Prop where
  found : ∀ older r newer, records = older ++ r :: newer →
    r.found? = some (older.foldl Record.leads first.state)
  state : last.state = records.foldl Record.leads first.state
  scheduled : last.scheduled.map (·.ticks) = (lastWakeup first.scheduled records).map (·.ticks)

namespace Accounts

variable {first last next : Status} {records : List Record} {r : Record}

theorem nil (first : Status) : Accounts first [] first where
  found older _ _ h := absurd h.symm (List.append_ne_nil_of_right_ne_nil older nofun)
  state := rfl
  scheduled := rfl

/-- **One record more**, which found the machine as it was and describes
what became of it. -/
theorem snoc (h : Accounts first records last) (hfound : r.found? = some last.state)
    (hstate : next.state = Record.leads last.state r)
    (hscheduled : next.scheduled = if r.decides then r.wakeup? else last.scheduled) :
    Accounts first (records ++ [r]) next where
  found older r' newer hsplit := by
    obtain rfl | ⟨newer, newest, rfl⟩ := List.eq_nil_or_concat' newer
    · obtain ⟨rfl, hr⟩ := List.append_inj' hsplit rfl
      rw [← List.singleton_inj.mp hr, ← h.state]
      exact hfound
    · rw [← List.cons_append, ← List.append_assoc] at hsplit
      exact h.found older r' newer (List.append_inj' hsplit rfl).1
  state := by
    rw [List.foldl_append, ← h.state]
    exact hstate
  scheduled := by
    rw [lastWakeup_append, hscheduled]
    split
    · rfl
    · exact h.scheduled

/-- A change of epoch changes no counter value. -/
theorem rebased (h : Accounts first records last) : Accounts first records last.rebased where
  found := h.found
  state := h.state
  scheduled := by
    rw [Status.scheduled_rebased, Option.map_map]
    exact h.scheduled

theorem infiniteSleep_iff (h : Accounts first records last) :
    last.flags.infiniteSleep = true ↔ lastWakeup first.scheduled records = none := by
  have hnone := congrArg (· = none) h.scheduled
  simp only [Option.map_eq_none_iff] at hnone
  rw [← Status.scheduled_eq_none_iff, hnone]

theorem ticks_eq (h : Accounts first records last) {wakeup : Timestamp}
    (hwakeup : lastWakeup first.scheduled records = some wakeup) :
    last.wakeup.ticks = wakeup.ticks := by
  have hscheduled := h.scheduled
  rw [hwakeup] at hscheduled
  obtain ⟨now, hnow, hticks⟩ := Option.map_eq_some_iff.mp hscheduled
  unfold Status.scheduled at hnow
  split at hnow
  · cases hnow
  · cases hnow
    exact hticks

end Accounts

/-- A machine that took a step is scheduled as the record of the step
says. -/
theorem Move.scheduled_status (move : Move) :
    move.status.scheduled = (Record.transition move).wakeup? := by
  obtain ⟨_, _, _, _, _, _ | delay, _⟩ := move
  · rfl
  · rfl

/-- **What a handler's run ends with is on record.** -/
theorem Ending.accounts {place : Coords} {event : Event} {first before status : Status}
    {records : List Record} {r : Record} (h : Ending place event before status r)
    (hbefore : Accounts first records before) : Accounts first (records ++ [r]) status := by
  cases h with
  | vetoed => exact hbefore.snoc rfl rfl rfl
  | moved move _ hsource _ =>
    exact hbefore.snoc (congrArg some hsource) rfl move.scheduled_status

/-- So is an event without a handler. -/
theorem Accounts.unhandled {first last : Status} {records : List Record}
    (h : Accounts first records last) (place : Coords) (event : Event) :
    Accounts first (records ++ [.suppressed place last.state event .noHandler])
      (if event.isTimeout then last.sleepForever else last) := by
  cases htimeout : event.isTimeout with
  | true => exact h.snoc rfl rfl (by simp [Record.decides, Record.wakeup?, htimeout]; rfl)
  | false => exact h.snoc rfl rfl (by simp [Record.decides, htimeout])

/-! ## The records of a machine -/

/-- Whether a record is about the machine, under any of its coordinates. -/
def Topology.names (t : Topology μ) (id : Fin t.machineCount) (r : Record) : Bool :=
  decide (r.place?.bind t.at? = some id)

namespace Scheduler

/-- **The records of a machine**, in order. -/
def recordsOf (id : Fin t.machineCount) (s : Scheduler t) : List Record :=
  s.journal.records.toList.filter (t.names id)

/-- They are among the entries that are about machines. -/
theorem recordsOf_eq (id : Fin t.machineCount) (s : Scheduler t) :
    s.recordsOf id = s.told.filterMap fun entry => entry.record?.filter (t.names id) := by
  rw [filterMap_told, recordsOf, Journal.records, Array.toList_filterMap, List.filter_filterMap]
  rintro (r | n) hplace
  · have hr : r.place? = none := hplace
    simp [Entry.record?, Topology.names, hr]
  · rfl

theorem Unmoved.recordsOf {s u : Scheduler t} (h : Unmoved s u) (id : Fin t.machineCount) :
    u.recordsOf id = s.recordsOf id := by
  rw [recordsOf_eq, recordsOf_eq, h.told]

theorem recordsOf_report (id : Fin t.machineCount) (entry : Entry) (s : Scheduler t) :
    (s.report entry).recordsOf id =
      s.recordsOf id ++ entry.record?.toList.filter (t.names id) := by
  unfold recordsOf Journal.records report
  rw [Array.toList_filterMap, Array.toList_push, List.filterMap_append, List.filter_append,
    ← Array.toList_filterMap]
  cases entry with
  | note n => rfl
  | record r => rfl

/-- Going to sleep rebases the wakeups of all machines, or of none. -/
theorem statuses_settle (consensus : Consensus) (s : Scheduler t) :
    (s.settle consensus).statuses = s.statuses ∨
      (s.settle consensus).statuses = s.statuses.map Status.rebased := by
  unfold settle
  dsimp only
  split
  · exact .inr rfl
  · exact .inl rfl

theorem told_settle (consensus : Consensus) (s : Scheduler t) :
    (s.settle consensus).told = s.told := by
  unfold settle
  dsimp only
  split <;> rfl

end Scheduler

namespace Chronicled

variable {first : Fin t.machineCount → Status} {u v : Chronicled t}

/-- **The journal explains all machines**, which were `first` before it. -/
def Explains (first : Fin t.machineCount → Status) (u : Chronicled t) : Prop :=
  ∀ id, Accounts (first id) (u.scheduler.recordsOf id) (u.status id)

/-- A note explains nothing and needs no explanation. -/
theorem Explains.note (h : Explains first u) (n : Note) : Explains first (u.tell (.note n)) := by
  intro id
  have hrecords : (u.tell (.note n)).scheduler.recordsOf id = u.scheduler.recordsOf id :=
    (Scheduler.recordsOf_report id (.note n) u.scheduler).trans (List.append_nil _)
  rw [hrecords]
  exact h id

/-- **A machine changes and says how**, after something happened to it that
is overridden now. -/
theorem Explains.record (h : Explains first u) {g : Fin t.groupCount}
    {member : Coords × Fin t.machineCount} (hmember : member ∈ t.placed g)
    (hothers : ∀ other, other ≠ member.2 → v.status other = u.status other)
    (hrecords : ∀ id, v.scheduler.recordsOf id = u.scheduler.recordsOf id) {r : Record}
    (hplace : r.place? = some member.1) {next : Status}
    (hnext : Accounts (first member.2) (u.scheduler.recordsOf member.2 ++ [r]) next) :
    Explains first ((v.set member.2 next).tell (.record r)) := by
  intro id
  have hreported : ((v.set member.2 next).tell (.record r)).scheduler.recordsOf id =
      u.scheduler.recordsOf id ++ [r].filter (t.names id) :=
    (Scheduler.recordsOf_report id (.record r) _).trans (congrArg (· ++ _) (hrecords id))
  have hnames : t.names id r = decide (member.2 = id) := by
    simp [Topology.names, hplace, t.at?_placed hmember]
  by_cases hid : id = member.2
  · subst hid
    rw [hreported, List.filter_singleton, hnames, decide_eq_true rfl, cond_true]
    exact (status_set_self member.2 next v).symm ▸ hnext
  · rw [hreported, List.filter_singleton, hnames, decide_eq_false (Ne.symm hid),
      cond_false, List.append_nil]
    exact ((status_set_of_ne hid next v).trans (hothers id hid)).symm ▸ h id

/-- **The journal goes on explaining the machines** as long as they are not
restarted. -/
theorem enduring_explains (first : Fin t.machineCount → Status) :
    Enduring fun u : Chronicled t => Uninterrupted u.chronicle → Explains first u where
  interlude hinterlude h hcalm := by
    obtain ⟨recent, hrecent, -, -, hunmoved⟩ := hinterlude
    rw [hrecent, uninterrupted_append] at hcalm
    intro id
    unfold status
    rw [(hunmoved hcalm.1).recordsOf, (hunmoved hcalm.1).statuses]
    exact h hcalm.2 id
  respond {_ event g member u v} hmember _ hresponse h hcalm := by
    have hbefore {m : Moment t} {older : List (Moment t)} (hcalm : Uninterrupted (m :: older)) :
        Uninterrupted older := (uninterrupted_cons.mp hcalm).2
    cases hresponse with
    | ignored => exact (h (hbefore (hbefore hcalm))).note _
    | unhandled =>
      have hu := h (hbefore (hbefore hcalm))
      exact hu.record hmember (fun _ _ => rfl) (fun _ => rfl) rfl ((hu member.2).unhandled _ _)
    | @asleep note _ _ _ =>
      have hu := (h (hbefore (hbefore (hbefore hcalm)))).note note
      rw [← set_status member.2 ((u.add _).tell (.note note))]
      exact hu.record hmember (fun _ _ => rfl) (fun _ => rfl) rfl
        ((hu member.2).snoc rfl rfl rfl)
    | @handled ran status r hruns _ hending =>
      obtain ⟨recent, hrecent, -, -, hunmoved⟩ := hruns.interlude
      have hran : Uninterrupted ran.chronicle := hbefore hcalm
      rw [hrecent, uninterrupted_append] at hran
      have hu := h (hbefore (hbefore hran.2))
      -- the handler ran for a machine that was suspended
      have hunmoved := hunmoved hran.1
      refine hu.record hmember (fun other hother => ?_) (fun id => ?_) hending.place?_eq
        (hending.accounts (hu member.2))
      · exact (congrArg (Vector.get · other) hunmoved.statuses).trans (status_set_of_ne hother _ u)
      · exact (hunmoved.recordsOf id).trans
          ((Scheduler.recordsOf_report id _ _).trans (List.append_nil _))
  settle consensus u h hcalm id := by
    have hrecords : (u.scheduler.settle consensus).recordsOf id = u.scheduler.recordsOf id := by
      rw [Scheduler.recordsOf_eq, Scheduler.recordsOf_eq, Scheduler.told_settle]
    have haccounts := h hcalm id
    rw [← hrecords] at haccounts
    obtain hsame | hrebased := Scheduler.statuses_settle consensus u.scheduler
    · have hstatus : (u.update (Scheduler.settle consensus)).status id = u.status id :=
        congrArg (Vector.get · id) hsame
      exact hstatus ▸ haccounts
    · have hstatus : (u.update (Scheduler.settle consensus)).status id = (u.status id).rebased :=
        (congrArg (Vector.get · id) hrebased).trans (Vector.get_mapped ..)
      exact hstatus ▸ haccounts.rebased

/-- Starting writes no record of a machine. -/
theorem recordsOf_start (id : Fin t.machineCount) (s : Scheduler t) :
    s.start.recordsOf id = s.recordsOf id := by
  obtain ⟨_, _, _, hrecords⟩ := (Aloof.refl (of s)).start
  rw [scheduler_start] at hrecords
  rw [Scheduler.recordsOf_eq, Scheduler.recordsOf_eq, ← List.filter_filterMap,
    ← List.filter_filterMap]
  exact congrArg (List.filter _) hrecords

/-- There is none yet when a scheduler has just been put together. -/
theorem recordsOf_of_build {memory : μ} {s : Scheduler t} (h : Scheduler.build t memory = .ok s)
    (id : Fin t.machineCount) : s.recordsOf id = [] := by
  obtain ⟨-, rfl⟩ := Scheduler.eq_of_build h
  rfl

/-- **The journal explains every machine.** A scheduler is started, and
nothing restarts its machines after that. Then each record of a machine,
under whatever coordinates it names it, tells the state that the records
before it led to; the machine is in the state that all of them lead to;
it is in infinite sleep exactly if the last record that says something
about its wakeup says so; and otherwise its wakeup is that of the record,
seen from the present epoch. -/
theorem journal_explains {memory : μ} {s : Scheduler t} (h : Scheduler.build t memory = .ok s)
    {operations : List Operation}
    (hcalm : ∀ operation ∈ operations, operation.restarts = false) :
    let u := (of s.start).performAll operations
    u.scheduler = s.start.performAll operations ∧
      (Uninterrupted u.chronicle → ∀ id,
        let records := u.scheduler.recordsOf id
        let started := s.start.statuses.get id
        let now := u.scheduler.statuses.get id
        (∀ older r newer, records = older ++ r :: newer →
          r.found? = some (older.foldl Record.leads started.state)) ∧
        now.state = records.foldl Record.leads started.state ∧
        (now.flags.infiniteSleep = true ↔ lastWakeup started.scheduled records = none) ∧
        ∀ wakeup, lastWakeup started.scheduled records = some wakeup →
          now.wakeup.ticks = wakeup.ticks) := by
  intro u
  refine ⟨scheduler_performAll _ _, fun huninterrupted id => ?_⟩
  have hstarted : Explains (fun id => s.start.statuses.get id) (of s.start) := by
    intro id
    rw [scheduler_of, recordsOf_start, recordsOf_of_build h]
    exact .nil _
  have haccounts : Accounts (s.start.statuses.get id) (u.scheduler.recordsOf id) (u.status id) :=
    (enduring_explains _).performAll hcalm (fun _ => hstarted) huninterrupted id
  exact ⟨haccounts.found, haccounts.state, haccounts.infiniteSleep_iff,
    fun _ => haccounts.ticks_eq⟩

/-- A machine in two groups is given an event in either of them, the first
to wake up later and the second to sleep for good, and then a timeout that
leaves it asleep. -/
theorem journal_explains_dozing :
    ∃ s, Scheduler.build Scheduler.dozing () = .ok s ∧
      let operations : List Operation :=
        [.post 0 false ⟨1, 0⟩, .pass, .post 1 false ⟨2, 0⟩, .pass, .post 0 false .timeout, .pass]
      let u := (of s.start).performAll operations
      let machine : Fin Scheduler.dozing.machineCount := (0 : Fin 1)
      (∀ operation ∈ operations, operation.restarts = false) ∧ Uninterrupted u.chronicle ∧
        u.scheduler.recordsOf machine =
          [.transition ⟨⟨0, 0⟩, 0, ⟨1, 0⟩, 0, false, some 5, .zero⟩,
            .transition ⟨⟨1, 0⟩, 0, ⟨2, 0⟩, 0, false, none, .zero⟩,
            .suppressed ⟨0, 0⟩ 0 .timeout .asleep] ∧
        (u.scheduler.statuses.get machine).state = 0 ∧
        (u.scheduler.statuses.get machine).flags.infiniteSleep = true := by
  have hbuild : Scheduler.build Scheduler.dozing () = .ok _ := rfl
  refine ⟨_, hbuild, ?_⟩
  intro operations u machine
  have hcalm : ∀ operation ∈ operations, operation.restarts = false := by decide
  have huninterrupted : Uninterrupted u.chronicle := by decide +kernel
  have hrecords : u.scheduler.recordsOf machine =
      [.transition ⟨⟨0, 0⟩, 0, ⟨1, 0⟩, 0, false, some 5, .zero⟩,
        .transition ⟨⟨1, 0⟩, 0, ⟨2, 0⟩, 0, false, none, .zero⟩,
        .suppressed ⟨0, 0⟩ 0 .timeout .asleep] := by decide +kernel
  obtain ⟨-, hexplains⟩ := journal_explains hbuild hcalm
  obtain ⟨-, hstate, hsleep, -⟩ := hexplains huninterrupted machine
  rw [hrecords] at hstate hsleep
  exact ⟨hcalm, huninterrupted, hrecords, hstate, hsleep.mpr rfl⟩

end Chronicled

end TimedMachines
