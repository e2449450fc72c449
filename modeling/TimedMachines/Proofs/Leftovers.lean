import TimedMachines.Proofs.Decision
import TimedMachines.Proofs.Outcome

/-!
# Wakeups left behind

The wakeup of a machine in infinite sleep is left over from before, and
should not matter. A delivery hardly ever looks at it: two machines in
infinite sleep that differ in nothing but their wakeups call the same
handler with the same view, or none, and end up in the same status or again
in two that differ in nothing else. The handler cannot tell them apart,
since while it runs both have no wakeup at all.

There is one exception. While timeouts wake machines in infinite sleep, a
timeout is also held against the wakeup, and one that is ahead keeps the
timeout away. So the law needs both wakeups on the same side of the clock
then (`leftover_wakeup_overlooked`), and a machine whose initialization
asks for a delay at one place and for none at another sleeps through the
timeout of its start (`timeout_kept_away_torn`).
-/

namespace TimedMachines

variable {σ μ : Type}

/-- **The same but for a wakeup without meaning**: equal, or both in
infinite sleep and different in nothing but the wakeup. -/
def Status.Tantamount (status other : Status) : Prop :=
  status = other ∨
    status.flags.infiniteSleep = true ∧ other = { status with wakeup := other.wakeup }

/-! ## Slots -/

/-- **A slot that nothing else depends on**: neither the clock nor the
journal notices what is written there, and what is written last counts. -/
structure Slot.Isolated (slot : Slot σ) (w : World σ μ) : Prop extends slot.Steady w where
  write_read : ∀ s, slot.write (slot.read s) s = s
  write_write : ∀ first last s, slot.write last (slot.write first s) = slot.write last s
  now_write : ∀ status s, w.now (slot.write status s) = ((w.now s).1, slot.write status (w.now s).2)
  report_write : ∀ entry status s,
    w.report entry (slot.write status s) = slot.write status (w.report entry s)

/-- An account is kept elsewhere. -/
theorem Slot.Isolated.audited {slot : Slot σ} {w : World σ μ} (h : slot.Isolated w) :
    slot.audited.Isolated w.audited where
  read_write status a := h.read_write status a.state
  read_now a := h.read_now a.state
  read_report entry a := h.read_report entry a.state
  write_read a := congrArg (Audited.mk · a.readings a.entries) (h.write_read a.state)
  write_write first last a := congrArg (Audited.mk · a.readings a.entries)
    (h.write_write first last a.state)
  now_write status a := by
    simp only [World.audited, Slot.audited, h.now_write]
  report_write entry status a := by
    simp only [World.audited, Slot.audited, h.report_write]

theorem Scheduler.isolated_slot {t : Topology μ} (start : Scheduler t → Scheduler t)
    (id : Fin t.machineCount) : (slot id).Isolated (world start) where
  toSteady := steady_slot start id
  write_read s := congrArg (fun statuses => { s with statuses := statuses }) (s.statuses.put_get id)
  write_write first last s := congrArg (fun statuses => { s with statuses := statuses })
    (s.statuses.put_put id first last)
  now_write _ _ := rfl
  report_write _ _ _ := rfl

theorem Bench.isolated_slot : Slot.Isolated (Bench.slot (μ := μ)) Bench.world where
  toSteady := steady_slot
  write_read _ := rfl
  write_write _ _ _ := rfl
  now_write _ _ := rfl
  report_write _ _ _ := rfl

/-! ## Deliveries -/

namespace Machine

variable {w : World σ μ} {slot : Slot σ} {machine : Machine μ} {wakesSleepers : Bool}
  {event : Event} {status : Status}

/-- Whether a timeout leaves a machine in infinite sleep asleep depends on
its wakeup only where it might be woken. -/
theorem isAsleep_leftover (hasleep : status.flags.infiniteSleep = true) {now wakeup : Timestamp}
    (hside : wakesSleepers = true → wakeup.after now = status.wakeup.after now) :
    { status with wakeup := wakeup }.isAsleep now wakesSleepers =
      status.isAsleep now wakesSleepers := by
  unfold Status.isAsleep
  cases wakesSleepers with
  | true => rw [hside rfl]
  | false => simp [hasleep]

/-- Nor is a handler shown the wakeup. -/
theorem left_leftover (hasleep : status.flags.infiniteSleep = true) (now wakeup : Timestamp) :
    { status with wakeup := wakeup }.left now = status.left now :=
  (if_pos hasleep).trans (if_pos hasleep).symm

/-- **A handler that runs** ends a machine's infinite sleep or restores
it. -/
theorem handle_leftover (hslot : slot.Isolated w) (hasleep : status.flags.infiniteSleep = true)
    (machine : Machine μ) (timing : Timing) (wakeup now : Timestamp) (view : View)
    (handler : Handler μ) (target : StateId) (s : σ) :
    ∃ after other u,
      machine.handle w slot timing handler target status now view (slot.write status s) =
          slot.write after u ∧
        machine.handle w slot timing handler target { status with wakeup := wakeup } now view
            (slot.write { status with wakeup := wakeup } s) = slot.write other u ∧
        after.Tantamount other := by
  -- both are suspended alike, so the handler runs only once
  have hsuspended : ({ status with wakeup := wakeup } : Status).suspended = status.suspended := rfl
  unfold handle
  simp only [hslot.write_write, hsuspended]
  generalize Act.run w _ _ _ _ = ran
  cases ran.1.veto with
  | true =>
    exact ⟨status.restored, _, _, hslot.report_write .., hslot.report_write .., .inr ⟨hasleep, rfl⟩⟩
  | false => exact ⟨_, _, _, hslot.report_write .., hslot.report_write .., .inl rfl⟩

/-- **A delivery leaves the wakeup where it was or ends the sleep**, and
does the same in both cases, if a timeout that would wake the machine finds
both wakeups on the same side of the clock. -/
theorem deliver_leftover (hslot : slot.Isolated w) (hasleep : status.flags.infiniteSleep = true)
    (machine : Machine μ) (timing : Timing) (place : Coords) {wakeup : Timestamp} {s : σ}
    (hside : event.isTimeout = true → wakesSleepers = true →
      machine.table.handlesTimeout status.state = true →
        wakeup.after (w.now s).1 = status.wakeup.after (w.now s).1) :
    ∃ after other u,
      machine.deliver w slot timing wakesSleepers place event (slot.write status s) =
          slot.write after u ∧
        machine.deliver w slot timing wakesSleepers place event
            (slot.write { status with wakeup := wakeup } s) = slot.write other u ∧
        after.Tantamount other := by
  have hkept : status.Tantamount { status with wakeup := wakeup } := .inr ⟨hasleep, rfl⟩
  unfold deliver
  simp only [hslot.now_write, hslot.read_write, left_leftover hasleep]
  cases machine.table.hasEvent event.code with
  | false => exact ⟨_, _, _, hslot.report_write .., hslot.report_write .., hkept⟩
  | true =>
    rcases hcell : machine.table.get? status.state event.code with _ | ⟨_ | handler, target⟩
    · exact ⟨_, _, _, hslot.report_write .., hslot.report_write .., hkept⟩
    · cases event.isTimeout with
      | true =>
        simp only [if_true, hslot.write_write]
        exact ⟨_, _, _, hslot.report_write .., hslot.report_write .., .inr ⟨rfl, rfl⟩⟩
      | false => exact ⟨_, _, _, hslot.report_write .., hslot.report_write .., hkept⟩
    · have hruns := handle_leftover hslot hasleep machine timing wakeup (w.now s).1
        ⟨place, status.state, event, status.left (w.now s).1⟩ handler target (w.now s).2
      cases htimeout : event.isTimeout with
      | true =>
        have hhandles : machine.table.handlesTimeout status.state = true := by
          rw [show event.code = 0 from beq_iff_eq.mp htimeout] at hcell
          unfold Table.handlesTimeout
          rw [hcell]
          rfl
        rw [isAsleep_leftover hasleep fun hwakes => hside htimeout hwakes hhandles]
        cases status.isAsleep (w.now s).1 wakesSleepers with
        | true =>
          simp only [Bool.and_true, if_true, hasleep, hslot.report_write]
          exact ⟨_, _, _, rfl, rfl, hkept⟩
        | false => exact hruns
      | false => exact hruns

/-- A machine after some deliveries in which timeouts wake nobody from
infinite sleep. -/
def deliverAll (w : World σ μ) (slot : Slot σ) (machine : Machine μ) (timing : Timing)
    (deliveries : List (Coords × Event)) (s : σ) : σ :=
  deliveries.foldl (fun s (place, event) =>
    machine.deliver w slot timing false place event s) s

/-- **It is overlooked for good** once timeouts wake nobody from infinite
sleep: no number of deliveries makes more of the difference. -/
theorem deliverAll_tantamount (hslot : slot.Isolated w) (machine : Machine μ) (timing : Timing)
    (deliveries : List (Coords × Event)) {other : Status} (h : status.Tantamount other) (s : σ) :
    ∃ after after' u,
      machine.deliverAll w slot timing deliveries (slot.write status s) = slot.write after u ∧
        machine.deliverAll w slot timing deliveries (slot.write other s) = slot.write after' u ∧
        after.Tantamount after' := by
  induction deliveries generalizing status other s with
  | nil => exact ⟨status, other, s, rfl, rfl, h⟩
  | cons delivery rest ih =>
    obtain ⟨place, event⟩ := delivery
    obtain rfl | ⟨hasleep, hother⟩ := h
    · -- from one status there is only one run
      exact ⟨_, _, _, (hslot.write_read _).symm, (hslot.write_read _).symm, .inl rfl⟩
    · have hside : event.isTimeout = true → false = true →
          machine.table.handlesTimeout status.state = true →
            other.wakeup.after (w.now s).1 = status.wakeup.after (w.now s).1 :=
        fun _ hwakes => absurd hwakes Bool.false_ne_true
      obtain ⟨after, after', u, hstatus, hleft, htantamount⟩ :=
        deliver_leftover hslot hasleep machine timing place hside
      rw [hother]
      simp only [deliverAll, List.foldl_cons] at ih ⊢
      rw [hstatus, hleft]
      exact ih htantamount u

/-- **While timeouts wake everybody**, a timeout reaches its handler unless
the machine's wakeup is ahead, also where it is left over. -/
theorem calls_of_woken (hslot : slot.Isolated w) (timing : Timing) (place : Coords)
    (htimeout : event.isTimeout = true) {handler : Handler μ} {target : StateId}
    (hcell : machine.table.get? status.state event.code = some ⟨some handler, target⟩) (s : σ) :
    (machine.deliver w.audited slot.audited timing true place event
        (.opening (slot.write status s))).calls =
      if status.wakeup.after (w.now s).1 then [] else [⟨place, status.state, event⟩] := by
  have hread : slot.read (slot.write status s) = status := hslot.read_write status s
  have hundue : Undue w slot true event (slot.write status s) ↔
      status.wakeup.after (w.now s).1 = true := by
    unfold Undue
    rw [hread, hslot.now_write]
    simp [htimeout]
  obtain ⟨hstate, hevent⟩ := Table.has_of_get? hcell
  have houtcome : Outcome w slot machine timing true place event (slot.write status s)
      (machine.deliver w.audited slot.audited timing true place event
        (.opening (slot.write status s))) :=
    (deliver_outcome hslot.toSteady (hread.symm ▸ hstate)).2
  have hcalled (h : ¬Undue w slot true event (slot.write status s)) :
      ([⟨place, (slot.read (slot.write status s)).state, event⟩] : List Call) =
        if status.wakeup.after (w.now s).1 then [] else [⟨place, status.state, event⟩] := by
    rw [hread, if_neg (mt hundue.mpr h)]
  cases houtcome with
  | unexpected hnone => exact absurd (hnone.symm.trans hevent) Bool.false_ne_true
  | unhandled hnone =>
    rw [hread, hcell] at hnone
    cases hnone
  | asleep _ hsleeps haccount =>
    rw [if_pos (hundue.mp hsleeps)]
    exact congrArg Account.calls haccount
  | vetoed _ hdue _ _ haccount => exact (congrArg Account.calls haccount).trans (hcalled hdue)
  | moved _ hdue _ _ _ _ haccount => exact (congrArg Account.calls haccount).trans (hcalled hdue)

/-- **A wakeup left behind is overlooked.** Of two machines in infinite
sleep that differ in nothing but their wakeups, either both call a handler
for an event or neither does, they show it the same and write the same
records, and they leave the same world behind, but for a status that is
the same or differs in nothing but the wakeup again. That holds unless the
event is a timeout that the machines' state handles, timeouts wake machines
in infinite sleep, and one of the wakeups is ahead while the other is not:
then the handler of a machine is called exactly if its own wakeup is not
ahead. -/
theorem leftover_wakeup_overlooked (hslot : slot.Isolated w) (machine : Machine μ)
    (timing : Timing) (wakesSleepers : Bool) (place : Coords) (event : Event)
    (hasleep : status.flags.infiniteSleep = true) (wakeup : Timestamp) (s : σ) :
    let other : Status := { status with wakeup := wakeup }
    let deliver (status : Status) :=
      machine.deliver w slot timing wakesSleepers place event (slot.write status s)
    let audit (status : Status) :=
      machine.deliver w.audited slot.audited timing wakesSleepers place event
        (.opening (slot.write status s))
    ((event.isTimeout = true → wakesSleepers = true →
        machine.table.handlesTimeout status.state = true →
          wakeup.after (w.now s).1 = status.wakeup.after (w.now s).1) →
      (audit status).calls = (audit other).calls ∧
        shown w slot place event (slot.write status s) =
          shown w slot place event (slot.write other s) ∧
        (audit status).records = (audit other).records ∧
        ∃ after after' u, deliver status = slot.write after u ∧ deliver other = slot.write after' u ∧
          after.Tantamount after') ∧
      (event.isTimeout = true → wakesSleepers = true → ∀ handler target,
        machine.table.get? status.state event.code = some ⟨some handler, target⟩ →
          (audit status).calls =
            if status.wakeup.after (w.now s).1 then [] else [⟨place, status.state, event⟩]) := by
  refine ⟨fun hside => ?_, ?_⟩
  · have hview : shown w slot place event (slot.write status s) =
        shown w slot place event (slot.write { status with wakeup := wakeup } s) := by
      simp only [shown, hslot.read_write, hasleep, if_true]
    -- the accounts are in the part of the audited world that is the same
    obtain ⟨_, _, u, haudit, haudit', -⟩ := deliver_leftover hslot.audited hasleep machine timing
      place (s := .opening s) hside
    have hentries := (congrArg Audited.entries haudit).trans (congrArg Audited.entries haudit').symm
    exact ⟨congrArg (List.filterMap Entry.call?) hentries, hview,
      congrArg (List.filterMap Entry.record?) hentries,
      deliver_leftover hslot hasleep machine timing place hside⟩
  · rintro htimeout rfl handler target hcell
    exact calls_of_woken hslot timing place htimeout hcell s

end Machine

/-! ## A machine that is initialized twice -/

namespace Scheduler

/-- A machine in two groups, whose initialization wants it to be woken
after five ticks in one, and not at all in the other. -/
def torn : Topology Unit :=
  { dozing with
    machines := #v[{ dozer with
      init := some fun view => if view.place.group = 0 then .delay 5 .done
        else .delayForever .done }] }

/-- Its index. -/
def tornId : Fin torn.machineCount := ⟨0, Nat.one_pos⟩

/-- Where its status is. -/
def tornSlot : Slot (Scheduler torn) := slot tornId

/-- What becomes of an event for it, with an account. -/
def tornAfter (wakesSleepers : Bool) (event : Event) (s : Scheduler torn) :
    Audited (Scheduler torn) :=
  (torn.machines.get tornId).deliver (world start).audited tornSlot.audited torn.config.timing
    wakesSleepers ⟨0, 0⟩ event (.opening s)

/-- The wakeup that is left behind makes no difference for event 1, which
sets the alarm. -/
theorem leftover_wakeup_overlooked_torn :
    ∃ s, build torn () = .ok s ∧
      let started := s.performAll [.start]
      let status := tornSlot.read started
      let other : Status := { status with wakeup := .zero }
      tornSlot.Isolated (world start) ∧ status = ⟨0, ⟨5, false⟩, ⟨true, false, false⟩⟩ ∧
        started = tornSlot.write status started ∧
        (tornAfter true ⟨1, 0⟩ (tornSlot.write other started)).calls =
          [⟨⟨0, 0⟩, 0, ⟨1, 0⟩⟩] := by
  refine ⟨_, rfl, ?_⟩
  intro started status other
  have hisolated : tornSlot.Isolated (world start) := isolated_slot start _
  have hasleep : status.flags.infiniteSleep = true := by decide +kernel
  have hcalls := ((Machine.leftover_wakeup_overlooked hisolated (torn.machines.get tornId)
    torn.config.timing true ⟨0, 0⟩ ⟨1, 0⟩ hasleep .zero started).1 (by decide)).1
  have hstarted : (tornAfter true ⟨1, 0⟩ (tornSlot.write status started)).calls =
      [⟨⟨0, 0⟩, 0, ⟨1, 0⟩⟩] := by decide +kernel
  exact ⟨hisolated, by decide +kernel, (hisolated.write_read started).symm,
    hcalls.symm.trans hstarted⟩

/-- **A wakeup that is left behind keeps a timeout away.** The machine is in
infinite sleep after the start, timeouts are to wake it, and it has a
handler for them; but they do not reach it, as they would if the wakeup
that its first initialization left behind were not ahead. -/
theorem timeout_kept_away_torn :
    ∃ s, build torn () = .ok s ∧
      let started := s.performAll [.start]
      let status := tornSlot.read started
      Reachable started ∧ started.flags.timeoutWakesSleepers = true ∧
        status.flags.infiniteSleep = true ∧
        (torn.machines.get tornId).table.handlesTimeout status.state = true ∧
        (tornAfter true .timeout started).calls = [] ∧
        (tornAfter true .timeout
          (tornSlot.write { status with wakeup := .zero } started)).calls =
          [⟨⟨0, 0⟩, 0, .timeout⟩] := by
  refine ⟨_, rfl, ?_⟩
  intro started status
  exact ⟨(Reachable.built rfl).performAll _, by decide +kernel, by decide +kernel,
    by decide +kernel, by decide +kernel, by decide +kernel⟩

end Scheduler

end TimedMachines
