import TimedMachines.Proofs.World
import TimedMachines.Scheduler.Pass

/-!
# Operations on a scheduler

What the surroundings of a scheduler can do to it, one `Operation` at a
time, and the states that any sequence of operations leads to
(`Scheduler.Reachable`). A run of passes with sleeps in between is such a
sequence, whose operations are `pass` and `takeWake`.

Everything that is not a pass is made of a few elementary changes, so
what those keep is kept by handlers, by starts nested in handlers, and by
operations. `Scheduler.Lasting` has the changes that producers and most
handlers make, `Scheduler.Stable` also those of a reset and of a machine
that moves.
-/

namespace TimedMachines

variable {μ : Type} {t : Topology μ}

/-- Whether a request takes the machines back to their startup or runs
their initialization handlers. -/
def Request.restarts : Request → Bool
  | .reset | .start => true
  | _ => false

/-- **What can be done to a scheduler from outside.** -/
inductive Operation where
  /-- Run the initialization handlers. -/
  | start
  /-- Go back to startup and start. -/
  | reset
  /-- Post an event to a group. -/
  | post (group : UInt8) (forceNew : Bool) (event : Event)
  /-- Post an event to every group. -/
  | broadcast (forceNew : Bool) (event : Event)
  /-- Set the clock's counter. -/
  | advance (ticks : Ticks)
  /-- Advance the clock by one tick. -/
  | heartbeat
  /-- Ask the scheduler to stop. -/
  | requestExit
  /-- Set the latch. -/
  | wake
  /-- Clear the latch, as the end of a sleep does. -/
  | takeWake
  /-- Run one pass. -/
  | pass
deriving DecidableEq, Repr

namespace Operation

/-- Whether an operation comes from a producer: it may arrive while the
scheduler sleeps, and the scheduler has no part in it. -/
def isProducers : Operation → Bool
  | .post .. | .broadcast .. | .advance .. | .heartbeat | .requestExit | .wake => true
  | _ => false

/-- Whether an operation neither runs a pass nor clears the latch. -/
def leavesAsleep : Operation → Bool
  | .takeWake | .pass => false
  | _ => true

/-- Whether an operation takes the machines back to their startup or runs
their initialization handlers. -/
def restarts : Operation → Bool
  | .start | .reset => true
  | _ => false

end Operation

namespace Scheduler

/-- The scheduler after an operation. -/
def perform (s : Scheduler t) : Operation → Scheduler t
  | .start => s.start
  | .reset => s.reset
  | .post group forceNew event => (s.post group forceNew event).2
  | .broadcast forceNew event => s.broadcast forceNew event
  | .advance ticks => s.advance ticks
  | .heartbeat => s.heartbeat
  | .requestExit => s.requestExit
  | .wake => s.wake
  | .takeWake => s.clearWake
  | .pass => s.pass.2

/-- The scheduler after some operations, the first of the list first. -/
def performAll (s : Scheduler t) (operations : List Operation) : Scheduler t :=
  operations.foldl perform s

/-- **A scheduler that was just put together** has not done anything yet;
it takes a group to put one together. -/
theorem eq_of_build {memory : μ} {s : Scheduler t} (h : build t memory = .ok s) :
    t.groupCount ≠ 0 ∧ s = {
      flags := .startup
      wakeup := .zero
      now := .zero
      statuses := .replicate t.machineCount .startup
      queues := t.groups.map (·.queue)
      latch := .clear
      memory := memory
      journal := #[.note (.assembled t.config.name t.groupCount t.machineCount)] } := by
  unfold build at h
  split at h
  · cases h
  · next hgroups => exact ⟨hgroups, (Except.ok.inj h).symm⟩

/-- **The states of a scheduler between passes.** -/
inductive Reachable : Scheduler t → Prop where
  /-- A scheduler that was just put together. -/
  | built {memory : μ} {s : Scheduler t} (h : build t memory = .ok s) : Reachable s
  /-- A state after one operation more. -/
  | performed {s : Scheduler t} (operation : Operation) (h : Reachable s) :
    Reachable (s.perform operation)

theorem Reachable.performAll {s : Scheduler t} (h : Reachable s) (operations : List Operation) :
    Reachable (s.performAll operations) := by
  induction operations generalizing s with
  | nil => exact h
  | cons operation rest ih => exact ih (h.performed operation)

/-! ## Posting -/

/-- The pending events of a group. -/
def waiting (g : Fin t.groupCount) (s : Scheduler t) : List Event :=
  (s.queues.get g).toList

/-- **What posting can do**: the group does not exist, or its queue takes
the event, merges it, or has no room for it. -/
theorem post_cases (group : UInt8) (forceNew : Bool) (event : Event) (s : Scheduler t) :
    (∃ e, t.group? group = .error e ∧
        s.post group forceNew event = (.error e, s.note (.noSuchGroup group event))) ∨
      ∃ g, t.group? group = .ok g ∧
        (((s.queues.get g).full = false ∧
            s.post group forceNew event = (.ok .appended,
              { s with
                queues := s.queues.put g ((s.queues.get g).append event) }.markQueued.wake.record
                (.enqueued group event .appended))) ∨
          ((s.queues.get g).isEmpty = false ∧
            s.post group forceNew event = (.ok .coalesced,
              (if t.config.wakeOnCoalesce then
                { s with queues := s.queues.put g ((s.queues.get g).replaceNewest event.data) }.wake
              else
                { s with
                  queues := s.queues.put g ((s.queues.get g).replaceNewest event.data) }).record
                (.enqueued group event .coalesced))) ∨
          ((s.queues.get g).full = true ∧
            s.post group forceNew event =
              (.error .queueFull, s.wake.record (.dropped group event)))) := by
  unfold post
  cases hgroup : t.group? group with
  | error e => exact .inl ⟨e, rfl, rfl⟩
  | ok g =>
    refine .inr ⟨g, rfl, ?_⟩
    obtain ⟨hfree, hpush⟩ | ⟨hfull, hpush⟩ | ⟨hfree, hpush⟩ :=
      (s.queues.get g).push_cases forceNew event
    · exact .inr (.inl ⟨hfree, by simp only [hpush]⟩)
    · exact .inr (.inr ⟨hfull, by simp only [hpush, s.queues.put_get]⟩)
    · exact .inl ⟨hfree, by simp only [hpush]⟩

/-! ## Passes -/

/-- **What a group's turn can be**: its oldest event goes to every member,
and further events are announced afterwards; or nothing is pending, and the
members are only asked for their wakeups. -/
theorem visitGroup_cases (wakesSleepers : Bool) (acc : Consensus × Scheduler t)
    (g : Fin t.groupCount) :
    (∃ event rest, (acc.2.queues.get g).pop = some (event, rest) ∧
        let s := { acc.2.note (.visiting (t.groupId g)) with queues := acc.2.queues.put g rest }
        let own := (t.placed g).foldl (visitMember wakesSleepers (some event)) (.idle, s)
        visitGroup wakesSleepers acc g =
          (acc.1.merge own.1, if !rest.isEmpty then own.2.markQueued else own.2)) ∨
      ((acc.2.queues.get g).pop = none ∧
        let s := (acc.2.note (.visiting (t.groupId g))).note (.nothingPending (t.groupId g))
        let own := (t.placed g).foldl (visitMember wakesSleepers none) (.idle, s)
        visitGroup wakesSleepers acc g = (acc.1.merge own.1, own.2)) := by
  obtain ⟨consensus, s⟩ := acc
  have hqueues : (s.note (.visiting (t.groupId g))).queues = s.queues := rfl
  unfold visitGroup
  dsimp only
  rw [hqueues]
  cases (s.queues.get g).pop with
  | none => exact .inr ⟨rfl, rfl⟩
  | some popped => exact .inl ⟨popped.1, popped.2, rfl, rfl⟩

/-- **What a pass can end with**: an exit, a backlog, a wakeup that is
due, or sleep. -/
theorem pass_cases (s : Scheduler t) :
    (s.flags.exitRequested = true ∧ s.pass = (.exit, s.inPass.note .exiting)) ∨
      ∃ consensus visited, s.flags.exitRequested = false ∧
        s.inPass.visitAll = (consensus, visited) ∧
        ((visited.flags.eventQueued = true ∧ s.pass = (.again, visited.note .backlog)) ∨
          (visited.flags.eventQueued = false ∧ visited.isDue consensus = true ∧
            s.pass = (.again, visited.fireTimeout)) ∨
          (visited.flags.eventQueued = false ∧ visited.isDue consensus = false ∧
            s.pass = (.sleep (visited.settle consensus).scheduled,
              ((visited.settle consensus).note
                (.enteringSleep ((visited.settle consensus).scheduled.map (·.ticks)))).record
                (.sleep (visited.settle consensus).scheduled)))) := by
  unfold pass commit
  cases hexit : s.flags.exitRequested with
  | true =>
    have : s.inPass.flags.exitRequested = true := hexit
    exact .inl ⟨rfl, by simp only [this, if_true]⟩
  | false =>
    have : s.inPass.flags.exitRequested = false := hexit
    rcases hvisit : s.inPass.visitAll with ⟨consensus, visited⟩
    refine .inr ⟨consensus, visited, rfl, rfl, ?_⟩
    simp only [this, hvisit, Bool.false_eq_true, if_false]
    cases visited.flags.eventQueued with
    | true => exact .inl ⟨rfl, rfl⟩
    | false =>
      cases visited.isDue consensus with
      | true => exact .inr (.inl ⟨rfl, rfl, rfl⟩)
      | false => exact .inr (.inr ⟨rfl, rfl, rfl⟩)

/-- **How a pass that ends in sleep went**: all groups had their turns, no
event was queued, no wakeup was due, and the consensus was committed to. -/
theorem sleep_of_pass {s asleep : Scheduler t} {wakeup : Option Timestamp}
    (h : s.pass = (.sleep wakeup, asleep)) :
    ∃ consensus visited, s.inPass.visitAll = (consensus, visited) ∧
      visited.flags.eventQueued = false ∧ visited.isDue consensus = false ∧
      wakeup = (visited.settle consensus).scheduled ∧
      asleep = ((visited.settle consensus).note
        (.enteringSleep (wakeup.map (·.ticks)))).record (.sleep wakeup) := by
  obtain ⟨-, hpass⟩ | ⟨consensus, visited, -, hvisit, hcases⟩ := s.pass_cases
  · rw [hpass] at h
    cases h
  · obtain ⟨-, hpass⟩ | ⟨-, -, hpass⟩ | ⟨hqueued, hdue, hpass⟩ := hcases
    · rw [hpass] at h
      cases h
    · rw [hpass] at h
      cases h
    · rw [hpass] at h
      cases h
      exact ⟨consensus, visited, hvisit, hqueued, hdue, rfl, rfl⟩

/-! ## What the elementary changes keep -/

/-- **Kept while the clock stands still**: by producers that only post. -/
structure Standing (P : Scheduler t → Prop) : Prop where
  post : ∀ group forceNew event s, P s → P (s.post group forceNew event).2
  wake : ∀ s : Scheduler t, P s → P s.wake
  requestExit : ∀ s : Scheduler t, P s → P s.requestExit
  report : ∀ (entry : Entry) (s : Scheduler t), P s → P (s.report entry)

/-- **Kept by producers**, and by every handler that does not restart the
machines. -/
structure Lasting (P : Scheduler t → Prop) : Prop extends Standing P where
  setClock : ∀ (now : Timestamp) (s : Scheduler t), P s → P { s with now := now }
  amend : ∀ (change : μ → μ) (s : Scheduler t), P s → P { s with memory := change s.memory }

/-- **Kept by everything but a pass**: also by a return to startup, and by
the initializations of a world that keeps it. -/
structure Starting (P : Scheduler t → Prop) : Prop extends Lasting P where
  rewind : ∀ s : Scheduler t, P s → P s.rewind
  prepare : ∀ (w : World (Scheduler t) μ), w.Keeps (fun _ => True) P →
    ∀ (id : Fin t.machineCount) (place : Coords) (s : Scheduler t),
      P s → P ((t.machines.get id).prepare w (slot id) place s)

/-- **Kept by the deliveries of a pass too**, in a world that keeps it. -/
structure Steady (P : Scheduler t → Prop) : Prop extends Starting P where
  deliver : ∀ (w : World (Scheduler t) μ), w.Keeps (fun _ => True) P →
    ∀ (id : Fin t.machineCount) (wakesSleepers : Bool) (place : Coords) (event : Event)
      (s : Scheduler t), P s → P ((t.machines.get id).deliver w (slot id) t.config.timing
        wakesSleepers place event s)

/-- **Kept whatever the machines do**: also by a return to startup and by
a change of a machine's status. -/
structure Stable (P : Scheduler t → Prop) : Prop extends Lasting P where
  rewind : ∀ s : Scheduler t, P s → P s.rewind
  write : ∀ (id : Fin t.machineCount) (status : Status) (s : Scheduler t),
    P s → P ((slot id).write status s)

/-- **A fold that knows where it is**: what holds of the elements seen so
far, and goes on to hold when the next one is seen, holds of all of them
in the end. -/
theorem foldl_split {α β : Type} {P : List α → β → Prop} {f : β → α → β} {l : List α}
    (hf : ∀ seen a rest b, l = seen ++ a :: rest → P seen b → P (seen ++ [a]) (f b a)) {b : β}
    (h : P [] b) :
    P l (l.foldl f b) := by
  have hrest (rest : List α) : ∀ seen b, l = seen ++ rest → P seen b → P l (rest.foldl f b) := by
    induction rest with
    | nil =>
      intro seen b hl h
      rwa [hl, List.append_nil]
    | cons a rest ih =>
      intro seen b hl h
      exact ih _ _ (hl.trans (List.append_cons ..)) (hf seen a rest b hl h)
  exact hrest l [] b rfl h

/-- The same where only the element itself matters. -/
theorem foldl_seen {α β : Type} {P : List α → β → Prop} {f : β → α → β} {l : List α}
    (hf : ∀ seen b, ∀ a ∈ l, P seen b → P (seen ++ [a]) (f b a)) {b : β} (h : P [] b) :
    P l (l.foldl f b) :=
  foldl_split (fun seen a rest b hl => hf seen b a (by
    rw [hl]
    exact List.mem_append_right _ List.mem_cons_self)) h

/-- What the turns of a group's members keep, one member more each. -/
theorem foldl_placed {β : Type} {P : List (Fin t.machineCount) → β → Prop}
    {f : β → Coords × Fin t.machineCount → β} {g : Fin t.groupCount}
    (hf : ∀ seen b, ∀ member ∈ t.placed g, P seen b → P (seen ++ [member.2]) (f b member))
    {seen : List (Fin t.machineCount)} {b : β} (h : P seen b) :
    P (seen ++ (t.groups.get g).members) ((t.placed g).foldl f b) := by
  have hfold := foldl_seen (l := t.placed g) (f := f) (b := b)
    (P := fun placed b => P (seen ++ placed.map Prod.snd) b)
    (fun placed b member hmem hb => by
      rw [List.map_append, ← List.append_assoc]
      exact hf _ b member hmem hb)
    (by rwa [List.map_nil, List.append_nil])
  rwa [t.map_snd_placed] at hfold

/-- What all groups' turns keep, one group's members more each, holds of
every machine that is a member of a group. -/
theorem foldl_allGroups {β : Type} {P : List (Fin t.machineCount) → β → Prop}
    {f : β → Fin t.groupCount → β}
    (hf : ∀ seen b g, P seen b → P (seen ++ (t.groups.get g).members) (f b g)) {b : β}
    (h : P [] b) :
    ∃ seen, (∀ id, t.Hosts id → id ∈ seen) ∧ P seen (t.allGroups.foldl f b) := by
  refine ⟨t.allGroups.flatMap fun g => (t.groups.get g).members, fun id hid => ?_, ?_⟩
  · obtain ⟨g, hg⟩ := hid
    exact List.mem_flatMap.mpr ⟨g, List.mem_finRange g, hg⟩
  · exact foldl_seen (P := fun (seen : List (Fin t.groupCount)) b =>
      P (seen.flatMap fun g : Fin t.groupCount => (t.groups.get g).members) b)
      (fun seen b g _ hb => by
        rw [List.flatMap_append, List.flatMap_singleton]
        exact hf _ b g hb) h

/-- Posting asks for no exit and does not move the clock. -/
theorem post_leaves (group : UInt8) (forceNew : Bool) (event : Event) (s : Scheduler t) :
    let v := (s.post group forceNew event).2
    v.now = s.now ∧ v.flags.exitRequested = s.flags.exitRequested := by
  obtain ⟨e, -, hpost⟩ | ⟨g, -, ⟨-, hpost⟩ | ⟨-, hpost⟩ | ⟨-, hpost⟩⟩ :=
    s.post_cases group forceNew event
  · rw [hpost]
    exact ⟨rfl, rfl⟩
  · rw [hpost]
    exact ⟨rfl, rfl⟩
  · rw [hpost]
    split <;> exact ⟨rfl, rfl⟩
  · rw [hpost]
    exact ⟨rfl, rfl⟩

/-- Posting leaves the machines alone. -/
theorem statuses_post (group : UInt8) (forceNew : Bool) (event : Event) (s : Scheduler t) :
    (s.post group forceNew event).2.statuses = s.statuses := by
  obtain ⟨e, -, hpost⟩ | ⟨g, -, ⟨-, hpost⟩ | ⟨-, hpost⟩ | ⟨-, hpost⟩⟩ :=
    s.post_cases group forceNew event
  · rw [hpost]
    rfl
  · rw [hpost]
    rfl
  · rw [hpost]
    split <;> rfl
  · rw [hpost]
    rfl

/-- The status of a machine that has not run. -/
theorem get_startup (id : Fin t.machineCount) :
    (Vector.replicate t.machineCount Status.startup).get id = .startup :=
  Vector.getElem_replicate ..

/-- What is said of the machines alone lasts as long as none of them
moves. -/
theorem Lasting.of_statuses (P : Vector Status t.machineCount → Prop) :
    Lasting fun s : Scheduler t => P s.statuses where
  post group forceNew event s h := (statuses_post group forceNew event s).symm ▸ h
  wake _ h := h
  requestExit _ h := h
  report _ _ h := h
  setClock _ _ h := h
  amend _ _ h := h

/-- Producers leave what was committed to, and the machines. -/
theorem lasting_commitment (s : Scheduler t) :
    Lasting fun u : Scheduler t => u.flags.infiniteSleep = s.flags.infiniteSleep ∧
      u.flags.timeoutWakesSleepers = s.flags.timeoutWakesSleepers ∧ u.wakeup = s.wakeup ∧
      u.statuses = s.statuses where
  post group forceNew event u h := by
    obtain ⟨e, -, hpost⟩ | ⟨g, -, ⟨-, hpost⟩ | ⟨-, hpost⟩ | ⟨-, hpost⟩⟩ :=
      u.post_cases group forceNew event
    · exact hpost ▸ h
    · exact hpost ▸ h
    · rw [hpost]
      split <;> exact h
    · exact hpost ▸ h
  wake _ h := h
  requestExit _ h := h
  report _ _ h := h
  setClock _ _ h := h
  amend _ _ h := h

/-- A broadcast is nothing but posts. -/
theorem Standing.broadcast {P : Scheduler t → Prop} (hP : Standing P) (forceNew : Bool)
    (event : Event) (s : Scheduler t) (h : P s) :
    P (s.broadcast forceNew event) :=
  List.foldlRecOn _ _ h fun s h _ _ => hP.post _ _ _ _ (hP.report _ s h)

theorem standing_now (now : Timestamp) : Standing fun s : Scheduler t => s.now = now where
  post group forceNew event s h := (s.post_leaves group forceNew event).1.trans h
  wake _ h := h
  requestExit _ h := h
  report _ _ h := h

theorem now_broadcast (forceNew : Bool) (event : Event) (s : Scheduler t) :
    (s.broadcast forceNew event).now = s.now :=
  (standing_now s.now).broadcast forceNew event s rfl

/-- Setting the clock sets the clock, whatever it brings about. -/
theorem now_advance (ticks : Ticks) (s : Scheduler t) :
    (s.advance ticks).now = s.now.advanceTo ticks := by
  unfold advance
  dsimp only
  split
  · split <;> rfl
  · split
    · exact now_broadcast _ _ _
    · rfl

namespace Lasting

variable {P : Scheduler t → Prop}

theorem advance (hP : Lasting P) (ticks : Ticks) (s : Scheduler t) (h : P s) :
    P (s.advance ticks) := by
  have hnow := hP.setClock (s.now.advanceTo ticks) s h
  unfold Scheduler.advance
  dsimp only
  split
  · split
    · exact hP.wake _ hnow
    · exact hnow
  · split
    · exact hP.broadcast _ _ _ (hP.report _ _ hnow)
    · exact hnow

/-- Handlers that do not restart the machines keep it. -/
theorem world (hP : Lasting P) (start : Scheduler t → Scheduler t) :
    (world start).Keeps (fun request => request.restarts = false) P where
  now _ h := h
  post := hP.post
  ask request s hcalm h := by
    cases request with
    | advance ticks => exact hP.advance ticks s h
    | heartbeat => exact hP.advance _ s h
    | broadcast forceNew event => exact hP.broadcast forceNew event s h
    | exit => exact hP.requestExit s h
    | reset | start => cases hcalm
  amend := hP.amend
  report := hP.report

/-- Producers keep it. -/
theorem perform (hP : Lasting P) {operation : Operation} (hproducer : operation.isProducers = true)
    (s : Scheduler t) (h : P s) :
    P (s.perform operation) := by
  cases operation with
  | post group forceNew event => exact hP.post group forceNew event s h
  | broadcast forceNew event => exact hP.broadcast forceNew event s h
  | advance ticks => exact hP.advance ticks s h
  | heartbeat => exact hP.advance _ s h
  | requestExit => exact hP.requestExit s h
  | wake => exact hP.wake s h
  | start | reset | takeWake | pass => cases hproducer

end Lasting

namespace Starting

variable {P : Scheduler t → Prop}

/-- All handlers keep it, if what they mean by a start does. -/
theorem keeps_world (hP : Starting P) {start : Scheduler t → Scheduler t}
    (hstart : ∀ s, P s → P (start s)) :
    (Scheduler.world start).Keeps (fun _ => True) P where
  now _ h := h
  post := hP.post
  ask request s _ h := by
    cases hrequest : request.restarts with
    | false => exact (hP.toLasting.world start).ask request s hrequest h
    | true =>
      cases request with
      | start => exact hstart s h
      | reset => exact hstart _ (hP.rewind _ (hP.report _ s h))
      | advance _ | heartbeat | broadcast _ _ | exit => cases hrequest
  amend := hP.amend
  report := hP.report

theorem prepareAll (hP : Starting P) {w : World (Scheduler t) μ} (hw : w.Keeps (fun _ => True) P)
    (s : Scheduler t) (h : P s) :
    P (prepareAll w s) :=
  List.foldlRecOn _ _ h fun _ h _ _ =>
    List.foldlRecOn _ _ h fun s h member _ => hP.prepare w hw member.2 _ s h

/-- **Starts keep it**, however deep they nest. -/
theorem startWithin (hP : Starting P) (depth : Nat) (s : Scheduler t) (h : P s) :
    P (s.startWithin depth) := by
  induction depth generalizing s with
  | zero => exact hP.prepareAll (hP.keeps_world fun _ h => h) s h
  | succ depth ih => exact hP.prepareAll (hP.keeps_world ih) s h

theorem start (hP : Starting P) (s : Scheduler t) (h : P s) :
    P s.start :=
  hP.startWithin _ s h

theorem reset (hP : Starting P) (s : Scheduler t) (h : P s) :
    P s.reset :=
  hP.start _ (hP.rewind _ (hP.report _ s h))

/-- Operations that let the scheduler sleep on keep it. -/
theorem perform (hP : Starting P) {operation : Operation} (hasleep : operation.leavesAsleep = true)
    (s : Scheduler t) (h : P s) :
    P (s.perform operation) := by
  cases hproducer : operation.isProducers with
  | true => exact hP.toLasting.perform hproducer s h
  | false =>
    cases operation with
    | start => exact hP.start s h
    | reset => exact hP.reset s h
    | takeWake | pass => cases hasleep
    | post _ _ _ | broadcast _ _ | advance _ | heartbeat | requestExit | wake => cases hproducer

end Starting

namespace Steady

variable {P : Scheduler t → Prop}

/-- What the members of a group do with an event keeps it. -/
theorem visitMembers (hP : Steady P) (wakesSleepers : Bool) (event : Option Event)
    (members : List (Coords × Fin t.machineCount)) (acc : Consensus × Scheduler t) (h : P acc.2) :
    P (members.foldl (visitMember wakesSleepers event) acc).2 := by
  induction members generalizing acc with
  | nil => exact h
  | cons member rest ih =>
    refine ih _ ?_
    cases event with
    | none => exact h
    | some event => exact hP.deliver _ (hP.keeps_world hP.start) _ _ _ _ _ h

end Steady

namespace Stable

variable {P : Scheduler t → Prop}

theorem steady (hP : Stable P) : Steady P where
  toLasting := hP.toLasting
  rewind := hP.rewind
  prepare _ hw id place s h :=
    Machine.prepare_keeps hw (hP.write id) (fun _ _ _ => Act.asks_any _) place s h
  deliver _ hw id wakesSleepers place event s h :=
    Machine.deliver_keeps hw (hP.write id) (fun _ _ _ => Act.asks_any _) _ wakesSleepers place
      event s h

theorem start (hP : Stable P) (s : Scheduler t) (h : P s) :
    P s.start :=
  hP.steady.start s h

theorem visitMembers (hP : Stable P) (wakesSleepers : Bool) (event : Option Event)
    (members : List (Coords × Fin t.machineCount)) (acc : Consensus × Scheduler t) (h : P acc.2) :
    P (members.foldl (visitMember wakesSleepers event) acc).2 :=
  hP.steady.visitMembers wakesSleepers event members acc h

theorem perform (hP : Stable P) {operation : Operation} (hasleep : operation.leavesAsleep = true)
    (s : Scheduler t) (h : P s) :
    P (s.perform operation) :=
  hP.steady.perform hasleep s h

theorem performAll (hP : Stable P) {operations : List Operation}
    (hasleep : ∀ operation ∈ operations, operation.leavesAsleep = true) (s : Scheduler t)
    (h : P s) :
    P (s.performAll operations) :=
  List.foldlRecOn _ _ h fun s h operation hmem => hP.perform (hasleep operation hmem) s h

end Stable

end Scheduler

end TimedMachines
