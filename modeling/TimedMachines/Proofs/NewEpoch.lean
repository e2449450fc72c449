import TimedMachines.Proofs.Decision

/-!
# A new epoch goes unnoticed

A pass that ends in sleep may start a new epoch: the clock, the wakeup that
is committed to and all machines forget that the counter has wrapped. The
scheduler decides that on the evidence of a single time, the earliest
wakeup. It is evidence enough, since every member of a group that is awake
has a wakeup that is not earlier (`covers_visitAll`): no wakeup in use is
left on the other side of the wrap (`get_settle_of_awake`), and times on the
same side compare as their counters do. So no machine can tell from the
time whether the epoch is a new one (`new_epoch_unnoticed`), and each sleep
begins before the wrap.
-/

namespace TimedMachines

namespace Timestamp

variable {a b : Timestamp}

/-! ## Times on the same side of the wrap -/

theorem atOrAfter_rebased (h : a.overflow = b.overflow) :
    a.rebased.atOrAfter b.rebased = a.atOrAfter b :=
  (if_pos rfl).trans (if_pos h).symm

theorem after_rebased (h : a.overflow = b.overflow) : a.rebased.after b.rebased = a.after b :=
  (if_pos rfl).trans (if_pos h).symm

theorem ticksUntil_rebased (h : a.overflow = b.overflow) :
    a.rebased.ticksUntil b.rebased = a.ticksUntil b := by
  simp only [ticksUntil, after_rebased h.symm]
  rfl

theorem order_rebased (h : a.overflow = b.overflow) : a.rebased.order b.rebased = a.order b := by
  simp [order, rebased, h]

end Timestamp

/-- **A machine cannot tell two times apart**, `now` with one status and
`later` with another: it is in the same state with the same flags, and as
far from its wakeup. -/
structure SameOutlook (now : Timestamp) (status : Status) (later : Timestamp) (seen : Status) :
    Prop where
  state : seen.state = status.state
  flags : seen.flags = status.flags
  ticks : seen.wakeup.ticks = status.wakeup.ticks
  left : later.ticksUntil seen.wakeup = now.ticksUntil status.wakeup
  reached : later.atOrAfter seen.wakeup = now.atOrAfter status.wakeup
  ahead : seen.wakeup.atOrAfter later = status.wakeup.atOrAfter now

theorem SameOutlook.refl (now : Timestamp) (status : Status) :
    SameOutlook now status now status :=
  ⟨rfl, rfl, rfl, rfl, rfl, rfl⟩

/-- A new epoch is the same outlook where clock and wakeup are on the same
side of the wrap. -/
theorem sameOutlook_rebased {now : Timestamp} {status : Status}
    (h : now.overflow = status.wakeup.overflow) :
    SameOutlook now status now.rebased status.rebased where
  state := rfl
  flags := rfl
  ticks := rfl
  left := Timestamp.ticksUntil_rebased h
  reached := Timestamp.atOrAfter_rebased h
  ahead := Timestamp.atOrAfter_rebased h.symm

namespace Scheduler

variable {μ : Type} {t : Topology μ}

/-! ## Settling -/

/-- **When an epoch ends**: nothing is scheduled, or the clock has wrapped.
The earliest wakeup has then wrapped too, since it is ahead. -/
theorem epochOver_schedule {consensus : Consensus} {s : Scheduler t}
    (hdue : s.isDue consensus = false) :
    (s.schedule consensus).epochOver = true ↔
      consensus.earliest = none ∨ s.now.overflow = true := by
  cases he : consensus.earliest with
  | none => simp [epochOver, schedule, Consensus.isInfiniteSleep, he]
  | some e =>
    have hwrapped (h : s.now.overflow = true) : e.overflow = true :=
      Timestamp.overflow_of_value_le h (Nat.le_of_lt (lt_of_isDue_eq_false hdue he))
    simpa [epochOver, schedule, Consensus.isInfiniteSleep, he] using hwrapped

/-- Past the wrap an epoch begins. -/
theorem settle_of_wrapped {consensus : Consensus} {s : Scheduler t}
    (hdue : s.isDue consensus = false) (hnow : s.now.overflow = true) :
    s.settle consensus = (s.schedule consensus).rebase.endStartup := by
  unfold settle
  dsimp only
  rw [if_pos ((epochOver_schedule hdue).mpr (.inr hnow))]

/-- Before the wrap a wakeup keeps the epoch. -/
theorem settle_of_unwrapped {consensus : Consensus} {s : Scheduler t} {e : Timestamp}
    (hdue : s.isDue consensus = false) (he : consensus.earliest = some e)
    (hnow : s.now.overflow = false) :
    s.settle consensus = (s.schedule consensus).endStartup := by
  have hstays : (s.schedule consensus).epochOver ≠ true := fun hover => by
    obtain hnone | hwrapped := (epochOver_schedule hdue).mp hover
    · exact nomatch he.symm.trans hnone
    · exact Bool.false_ne_true (hnow.symm.trans hwrapped)
  unfold settle
  dsimp only
  rw [if_neg hstays]

/-- **Every sleep begins before the wrap.** -/
theorem now_settle_eq_rebased {consensus : Consensus} {s : Scheduler t}
    (hdue : s.isDue consensus = false) :
    (s.settle consensus).now = s.now.rebased := by
  unfold settle
  dsimp only
  split
  · rfl
  · next hover =>
    rw [epochOver_schedule hdue, not_or, Bool.not_eq_true] at hover
    exact (s.now.rebased_eq_self hover.2).symm

/-- **What is committed to is ahead**, whether a machine has that wakeup or
not. -/
theorem after_now_settle {consensus : Consensus} {s : Scheduler t} {w : Timestamp}
    (hdue : s.isDue consensus = false) (hw : (s.settle consensus).scheduled = some w) :
    w.after (s.settle consensus).now = true := by
  cases he : consensus.earliest with
  | none =>
    obtain ⟨seen, hscheduled, -⟩ := scheduled_settle consensus s
    rw [hscheduled, he] at hw
    cases hw
  | some e =>
    have hlt := lt_of_isDue_eq_false hdue he
    have hcommitted : (s.schedule consensus).scheduled = some e := by
      simp [schedule, scheduled, Consensus.isInfiniteSleep, he]
    cases hnow : s.now.overflow with
    | false =>
      rw [settle_of_unwrapped hdue he hnow] at hw ⊢
      cases hcommitted.symm.trans hw
      exact Timestamp.after_iff.mpr hlt
    | true =>
      -- clock and wakeup are both past the wrap, so that both go back alike
      have hwrapped := Timestamp.overflow_of_value_le hnow (Nat.le_of_lt hlt)
      have hrebased : (s.schedule consensus).rebase.endStartup.scheduled = some e.rebased := by
        simp [schedule, rebase, endStartup, scheduled, Consensus.isInfiniteSleep, he]
      rw [settle_of_wrapped hdue hnow] at hw ⊢
      cases hrebased.symm.trans hw
      exact (Timestamp.after_rebased (hwrapped.trans hnow.symm)).trans
        (Timestamp.after_iff.mpr hlt)

/-- **A machine that is awake when a pass settles** changes its epoch if
the clock does, and only with a wakeup that is past the wrap as the clock
is. -/
theorem get_settle_of_awake {consensus : Consensus} {s : Scheduler t} {id : Fin t.machineCount}
    (hdue : s.isDue consensus = false) (hcovers : consensus.Covers (s.statuses.get id))
    (hawake : (s.statuses.get id).flags.infiniteSleep = false) :
    let status := s.statuses.get id
    let settled := (s.settle consensus).statuses.get id
    (s.now.overflow = false → settled = status) ∧
      (s.now.overflow = true → status.wakeup.overflow = true ∧ settled = status.rebased) := by
  intro status settled
  obtain ⟨e, he, hle⟩ := hcovers status.wakeup (if_neg (ne_true_of_eq_false hawake))
  have hlt : s.now.value < e.value := lt_of_isDue_eq_false hdue he
  refine ⟨fun hnow => ?_, fun hnow => ⟨Timestamp.overflow_of_value_le hnow (by omega), ?_⟩⟩
  · simp only [settled, settle_of_unwrapped hdue he hnow]
    rfl
  · simp only [settled, settle_of_wrapped hdue hnow]
    exact Vector.get_mapped ..

/-- A pass that ends in sleep ends with its commitment. -/
theorem commit_of_sleep {s asleep : Scheduler t} {wakeup : Option Timestamp}
    (hpass : s.pass = (.sleep wakeup, asleep)) :
    let consensus := s.inPass.visitAll.1
    let before := s.inPass.visitAll.2
    s.pass = before.commit consensus ∧ before.isDue consensus = false ∧
      asleep.now = (before.settle consensus).now ∧
      asleep.statuses = (before.settle consensus).statuses ∧
      wakeup = (before.settle consensus).scheduled := by
  obtain ⟨consensus, visited, hvisit, -, hdue, rfl, rfl⟩ := sleep_of_pass hpass
  rw [hvisit]
  refine ⟨hpass.trans ?_, hdue, rfl, rfl, rfl⟩
  unfold commit
  rw [hdue]
  rfl

/-- **A member of a group that is awake.** -/
def IsAwake (s : Scheduler t) (id : Fin t.machineCount) : Prop :=
  t.Hosts id ∧ (s.statuses.get id).flags.infiniteSleep = false

/-- **A new epoch goes unnoticed.** A pass ends in sleep, and no handler
resets the scheduler or starts it again. For every member of a group that
is awake when all groups had their turns, nothing changes when the
scheduler commits: it is in the same state with the same flags, as far from
its wakeup, and its wakeup compares to the others' as before. The sleep
begins before the wrap, and all these wakeups are ahead, as is the one
that is committed to. -/
theorem new_epoch_unnoticed (hcalm : t.Calm) {s asleep : Scheduler t} {wakeup : Option Timestamp}
    (hpass : s.pass = (.sleep wakeup, asleep)) :
    let before := s.inPass.visitAll.2
    s.pass = before.commit s.inPass.visitAll.1 ∧
      (∀ id, before.IsAwake id →
        SameOutlook before.now (before.statuses.get id) asleep.now (asleep.statuses.get id)) ∧
      (∀ i j, before.IsAwake i → before.IsAwake j →
        (asleep.statuses.get i).wakeup.order (asleep.statuses.get j).wakeup =
          (before.statuses.get i).wakeup.order (before.statuses.get j).wakeup) ∧
      asleep.now.overflow = false ∧
      (∀ id, before.IsAwake id → (asleep.statuses.get id).wakeup.after asleep.now = true) ∧
      asleep.scheduled = wakeup ∧ ∀ w, wakeup = some w → w.after asleep.now = true := by
  intro before
  obtain ⟨hcommit, hdue, hnow, hstatuses, hwakeup⟩ := commit_of_sleep hpass
  have hsettled (id : Fin t.machineCount) (h : before.IsAwake id) :=
    get_settle_of_awake hdue (covers_visitAll hcalm s.inPass h.1) h.2
  simp only [← hstatuses] at hsettled
  rw [now_settle_eq_rebased hdue] at hnow
  have houtlook (id : Fin t.machineCount) (h : before.IsAwake id) :
      SameOutlook before.now (before.statuses.get id) asleep.now (asleep.statuses.get id) := by
    rw [hnow]
    cases hwrapped : before.now.overflow with
    | false =>
      rw [(hsettled id h).1 hwrapped, Timestamp.rebased_eq_self _ hwrapped]
      exact .refl _ _
    | true =>
      obtain ⟨hwakeup, hrebased⟩ := (hsettled id h).2 hwrapped
      rw [hrebased]
      exact sameOutlook_rebased (hwrapped.trans hwakeup.symm)
  refine ⟨hcommit, houtlook, fun i j hi hj => ?_, by rw [hnow]; rfl, fun id h => ?_,
    scheduled_of_sleep hpass, fun w hw => ?_⟩
  · cases hwrapped : before.now.overflow with
    | false => rw [(hsettled i hi).1 hwrapped, (hsettled j hj).1 hwrapped]
    | true =>
      obtain ⟨hiwakeup, hirebased⟩ := (hsettled i hi).2 hwrapped
      obtain ⟨hjwakeup, hjrebased⟩ := (hsettled j hj).2 hwrapped
      rw [hirebased, hjrebased]
      exact Timestamp.order_rebased (hiwakeup.trans hjwakeup.symm)
  · have hawake : (asleep.statuses.get id).flags.infiniteSleep = false :=
      (congrArg MachineFlags.infiniteSleep (houtlook id h).flags).trans h.2
    obtain ⟨-, hle, hlt⟩ := guarded_of_sleep hcalm hpass id h.1 (asleep.statuses.get id).wakeup
      (if_neg (ne_true_of_eq_false hawake))
    exact Timestamp.after_iff.mpr (Nat.lt_of_lt_of_le hlt hle)
  · rw [hnow, ← now_settle_eq_rebased hdue]
    exact after_now_settle hdue (hwakeup.symm.trans hw)

/-- An alarm that is set right after a wrap is three ticks ahead before the
new epoch begins and after. -/
theorem new_epoch_unnoticed_alarm :
    let s := (Alarm.scheduler 3).performAll
      [.advance 0xFFFFFFFE, .post 0 false ⟨1, 0⟩, .pass, .advance 0, .post 0 false ⟨1, 0⟩]
    let before := s.inPass.visitAll.2
    (Alarm.topology 3).Calm ∧ s.pass = (.sleep (some ⟨3, false⟩), s.pass.2) ∧
      before.now = ⟨0, true⟩ ∧ (before.statuses.get Alarm.clock).wakeup = ⟨3, true⟩ ∧
      before.IsAwake Alarm.clock ∧
      s.pass.2.now.ticksUntil (s.pass.2.statuses.get Alarm.clock).wakeup = 3 ∧
      s.pass.2.now.overflow = false := by
  intro s before
  have hcalm : (Alarm.topology 3).Calm := fun _ _ h view => Alarm.asks_of_handles h _ view
  have hsleep : s.pass.1 = .sleep (some ⟨3, false⟩) := by decide +kernel
  have hpass : s.pass = (.sleep (some ⟨3, false⟩), s.pass.2) := by rw [← hsleep]
  have hawake : before.IsAwake Alarm.clock :=
    ⟨⟨Alarm.group, List.mem_cons_self⟩, by decide +kernel⟩
  obtain ⟨-, houtlook, -, hearly, -⟩ := new_epoch_unnoticed hcalm hpass
  exact ⟨hcalm, hpass, by decide +kernel, by decide +kernel, hawake,
    (houtlook Alarm.clock hawake).left.trans (by decide +kernel), hearly⟩

end Scheduler

end TimedMachines
