import TimedMachines.Proofs.Operation

/-!
# What everything keeps

Some properties speak of the machines and the journal alone, and then all
that matters is what the machines do and report. `Scheduler.Perpetual` is
the premise about a property of this kind: what a machine does in a world
that upholds the property upholds it, and so do the return to startup and
the change of epoch. Everything else a scheduler does leaves the machines
alone and adds routine entries to the journal, so the property holds in
every state that can be reached, if it holds at first
(`Perpetual.reachable`).

Which entries are legal is part of the premise, since the journal may be
what the property is about: routine entries are, and whatever else the
machines are shown to report.
-/

namespace TimedMachines

/-- Whether an entry says nothing of where a machine went, as a step does
or the lack of a row. -/
def Entry.isRoutine : Entry → Bool
  | .record (.transition _) | .note (.missingRow ..) => false
  | _ => true

variable {μ : Type} {t : Topology μ}

namespace Scheduler

/-- **Kept by all that a scheduler does**: a property of the machines and
the journal. -/
structure Perpetual (legal : Entry → Prop) (P : Scheduler t → Prop) : Prop where
  only : ∀ s u : Scheduler t, P s → s.statuses = u.statuses → s.journal = u.journal → P u
  routine : ∀ entry : Entry, entry.isRoutine = true → legal entry
  report : ∀ (entry : Entry) (s : Scheduler t), legal entry → P s → P (s.report entry)
  rewind : ∀ s : Scheduler t, P s → P s.rewind
  rebase : ∀ s : Scheduler t, P s → P s.rebase
  prepare : ∀ w : World (Scheduler t) μ, w.Upholds (fun _ => True) legal P →
    ∀ g, ∀ member ∈ t.placed g, ∀ s : Scheduler t,
      P s → P ((t.machines.get member.2).prepare w (slot member.2) member.1 s)
  deliver : ∀ w : World (Scheduler t) μ, w.Upholds (fun _ => True) legal P →
    ∀ g, ∀ member ∈ t.placed g, ∀ (wakesSleepers : Bool) (event : Event) (s : Scheduler t),
      P s → P ((t.machines.get member.2).deliver w (slot member.2) t.config.timing wakesSleepers
        member.1 event s)

/-- Where all entries are legal, what producers and machines keep needs
only to survive the changes of epoch. -/
theorem Steady.perpetual {P : Scheduler t → Prop} (hP : Steady P)
    (honly : ∀ s u : Scheduler t, P s → s.statuses = u.statuses → s.journal = u.journal → P u)
    (hrebase : ∀ s : Scheduler t, P s → P s.rebase) :
    Perpetual (fun _ => True) P where
  only := honly
  routine _ _ := trivial
  report entry s _ := hP.report entry s
  rewind := hP.rewind
  rebase := hrebase
  prepare w hw _ _ _ :=
    hP.prepare w ⟨hw.now, hw.post, hw.ask, hw.amend, fun entry s => hw.report entry s trivial⟩ _ _
  deliver w hw _ _ _ wakesSleepers event :=
    hP.deliver w ⟨hw.now, hw.post, hw.ask, hw.amend, fun entry s => hw.report entry s trivial⟩ _
      wakesSleepers _ event

namespace Perpetual

variable {legal : Entry → Prop} {P : Scheduler t → Prop}

/-! ## Producers -/

theorem report_routine (hP : Perpetual legal P) {entry : Entry} (hentry : entry.isRoutine = true)
    {s : Scheduler t} (h : P s) : P (s.report entry) :=
  hP.report entry s (hP.routine entry hentry) h

theorem post (hP : Perpetual legal P) (group : UInt8) (forceNew : Bool) (event : Event)
    (s : Scheduler t) (h : P s) :
    P (s.post group forceNew event).2 := by
  obtain ⟨e, -, hpost⟩ | ⟨g, -, ⟨-, hpost⟩ | ⟨-, hpost⟩ | ⟨-, hpost⟩⟩ :=
    s.post_cases group forceNew event
  · exact hpost ▸ hP.report_routine rfl h
  · exact hpost ▸ hP.report_routine rfl (hP.only _ _ h rfl rfl)
  · rw [hpost]
    refine hP.report_routine rfl ?_
    split <;> exact hP.only _ _ h rfl rfl
  · exact hpost ▸ hP.report_routine rfl (hP.only _ _ h rfl rfl)

theorem broadcast (hP : Perpetual legal P) (forceNew : Bool) (event : Event) (s : Scheduler t)
    (h : P s) :
    P (s.broadcast forceNew event) :=
  List.foldlRecOn _ _ h fun _ h _ _ => hP.post _ _ _ _ (hP.report_routine rfl h)

theorem fireTimeout (hP : Perpetual legal P) (s : Scheduler t) (h : P s) : P s.fireTimeout :=
  hP.broadcast _ _ _ (hP.report_routine rfl h)

theorem advance (hP : Perpetual legal P) (ticks : Ticks) (s : Scheduler t) (h : P s) :
    P (s.advance ticks) := by
  have hnow : P { s with now := s.now.advanceTo ticks } := hP.only _ _ h rfl rfl
  unfold Scheduler.advance
  dsimp only
  split
  · split
    · exact hP.only _ _ hnow rfl rfl
    · exact hnow
  · split
    · exact hP.fireTimeout _ hnow
    · exact hnow

/-! ## Starts -/

/-- All handlers uphold it, if what they mean by a start keeps it. -/
theorem world (hP : Perpetual legal P) {start : Scheduler t → Scheduler t}
    (hstart : ∀ s, P s → P (start s)) :
    (Scheduler.world start).Upholds (fun _ => True) legal P where
  now _ h := h
  post := hP.post
  ask request s _ h := by
    cases request with
    | advance ticks => exact hP.advance ticks s h
    | heartbeat => exact hP.advance _ s h
    | broadcast forceNew event => exact hP.broadcast forceNew event s h
    | exit => exact hP.only _ _ h rfl rfl
    | reset => exact hstart _ (hP.rewind _ (hP.report_routine rfl h))
    | start => exact hstart s h
  amend _ s h := hP.only _ _ h rfl rfl
  report := hP.report

/-- **Starts keep it**, however deep they nest. -/
theorem start (hP : Perpetual legal P) (s : Scheduler t) (h : P s) : P s.start := by
  have hprepare {w : World (Scheduler t) μ} (hw : w.Upholds (fun _ => True) legal P)
      (s : Scheduler t) (h : P s) : P (prepareAll w s) :=
    List.foldlRecOn _ _ h fun _ h g _ =>
      List.foldlRecOn _ _ h fun s h member hmember => hP.prepare w hw g member hmember s h
  have hwithin (depth : Nat) : ∀ s : Scheduler t, P s → P (s.startWithin depth) := by
    induction depth with
    | zero => exact hprepare (hP.world fun _ h => h)
    | succ depth ih => exact hprepare (hP.world ih)
  exact hwithin _ s h

/-! ## Passes -/

theorem visitGroup (hP : Perpetual legal P) (wakesSleepers : Bool) (acc : Consensus × Scheduler t)
    (g : Fin t.groupCount) (h : P acc.2) :
    P (visitGroup wakesSleepers acc g).2 := by
  have hmembers (event : Option Event) (s : Scheduler t) (hs : P s) :
      P ((t.placed g).foldl (visitMember wakesSleepers event) (.idle, s)).2 := by
    refine List.foldlRecOn (motive := fun acc : Consensus × Scheduler t => P acc.2) _ _ hs
      fun acc hacc member hmember => ?_
    cases event with
    | none => exact hacc
    | some event => exact hP.deliver _ (hP.world hP.start) g member hmember _ _ _ hacc
  have hnoted : P (acc.2.note (.visiting (t.groupId g))) := hP.report_routine rfl h
  obtain ⟨event, rest, -, hturn⟩ | ⟨-, hturn⟩ := visitGroup_cases wakesSleepers acc g
  · have hpopped : P { acc.2.note (.visiting (t.groupId g)) with
        queues := acc.2.queues.put g rest } := hP.only _ _ hnoted rfl rfl
    have hown := hmembers (some event) _ hpopped
    rw [hturn]
    split
    · exact hP.only _ _ hown rfl rfl
    · exact hown
  · rw [hturn]
    exact hmembers none _ (hP.report_routine rfl hnoted)

theorem settle (hP : Perpetual legal P) (consensus : Consensus) {s : Scheduler t} (h : P s) :
    P (s.settle consensus) := by
  have hscheduled : P (s.schedule consensus) := hP.only _ _ h rfl rfl
  unfold Scheduler.settle
  dsimp only
  split
  · exact hP.only _ _ (hP.rebase _ hscheduled) rfl rfl
  · exact hP.only _ _ hscheduled rfl rfl

/-- **Passes keep it.** -/
theorem pass (hP : Perpetual legal P) (s : Scheduler t) (h : P s) : P s.pass.2 := by
  have hbegun : P s.inPass := hP.only _ _ h rfl rfl
  have hvisited : P s.inPass.visitAll.2 :=
    List.foldlRecOn (motive := fun acc : Consensus × Scheduler t => P acc.2) _ _ hbegun
      fun acc hacc g _ => hP.visitGroup _ acc g hacc
  obtain ⟨-, hpass⟩ | ⟨consensus, visited, -, hvisit, hcases⟩ := s.pass_cases
  · exact hpass ▸ hP.report_routine rfl hbegun
  · rw [hvisit] at hvisited
    obtain ⟨-, hpass⟩ | ⟨-, -, hpass⟩ | ⟨-, -, hpass⟩ := hcases
    · exact hpass ▸ hP.report_routine rfl hvisited
    · exact hpass ▸ hP.fireTimeout _ hvisited
    · exact hpass ▸ hP.report_routine rfl (hP.report_routine rfl (hP.settle consensus hvisited))

/-! ## Runs -/

theorem perform (hP : Perpetual legal P) (operation : Operation) (s : Scheduler t) (h : P s) :
    P (s.perform operation) := by
  cases operation with
  | start => exact hP.start s h
  | reset => exact hP.start _ (hP.rewind _ (hP.report_routine rfl h))
  | post group forceNew event => exact hP.post group forceNew event s h
  | broadcast forceNew event => exact hP.broadcast forceNew event s h
  | advance ticks => exact hP.advance ticks s h
  | heartbeat => exact hP.advance _ s h
  | requestExit | wake | takeWake => exact hP.only _ _ h rfl rfl
  | pass => exact hP.pass s h

/-- **So it holds of every state that can be reached**, if it holds of
every scheduler that was just put together. -/
theorem reachable (hP : Perpetual legal P)
    (hbuilt : ∀ (memory : μ) (s : Scheduler t), build t memory = .ok s → P s) {s : Scheduler t}
    (h : Reachable s) : P s := by
  induction h with
  | built hbuild => exact hbuilt _ _ hbuild
  | performed operation _ ih => exact hP.perform operation _ ih

end Perpetual

end Scheduler

end TimedMachines
