import Mathlib
import TimedMachines.Proofs.Alarm
import TimedMachines.Proofs.Queues

/-!
# Timeouts are sparse

A queue does not fill up with timeouts, however many are pushed. A timeout
behind a timeout merges with it, also if it insists on a slot, and where it
cannot merge – in a full ring, if it insists – it is refused. So between
any two timeouts that are pending another event is pending
(`Sparse`), and at most every other pending event is a timeout
(`Sparse.countP_le`).

The invariant is about the list of pending events, and so it is shown for
the list that the ring refines: what a push does is decided by its last
event, and a pop takes its first.
-/

namespace TimedMachines

/-! ## Lists without adjacent timeouts -/

/-- **No two timeouts in a row.** -/
def Sparse (events : List Event) : Prop :=
  events.IsChain fun earlier late => ¬(earlier.isTimeout = true ∧ late.isTimeout = true)

namespace Sparse

variable {events : List Event}

theorem nil : Sparse [] :=
  List.IsChain.nil

/-- An event can be added unless it is a timeout behind a timeout. -/
theorem concat_iff {event : Event} :
    Sparse (events ++ [event]) ↔ Sparse events ∧
      ∀ newest ∈ events.getLast?, ¬(newest.isTimeout = true ∧ event.isTimeout = true) := by
  unfold Sparse
  rw [List.isChain_append]
  simp only [List.IsChain.singleton, true_and, List.head?_cons, Option.mem_def,
    Option.some.injEq, forall_eq']

/-- An event of the same kind can take the place of the last one. -/
theorem replaceNewest {newest event : Event} (h : Sparse events)
    (hlast : events.getLast? = some newest) (hkind : event.isTimeout = newest.isTimeout) :
    Sparse (events.dropLast ++ [event]) := by
  obtain ⟨earlier, rfl⟩ := List.getLast?_eq_some_iff.mp hlast
  rw [List.dropLast_concat, concat_iff, hkind]
  exact concat_iff.mp h

/-- **Every timeout needs another event before it**, but for one at the
head. -/
theorem two_mul_countP_le (h : Sparse events) :
    2 * events.countP Event.isTimeout ≤
      events.length + (events.head?.any Event.isTimeout).toNat := by
  induction events with
  | nil => exact Nat.le_refl 0
  | cons event rest ih =>
    obtain ⟨hnext, hrest⟩ := List.isChain_cons.mp h
    have hcount := ih hrest
    rw [List.countP_cons, List.length_cons, List.head?_cons, Option.any_some]
    cases hevent : event.isTimeout with
    | false =>
      have := Bool.toNat_le (rest.head?.any Event.isTimeout)
      simp only [Bool.false_eq_true, if_false, Bool.toNat_false]
      omega
    | true =>
      -- behind a timeout the rest begins with another event
      have hother : rest.head?.any Event.isTimeout = false := by
        cases hhead : rest.head? with
        | none => rfl
        | some next =>
          exact Bool.eq_false_iff.mpr fun htimeout => hnext next hhead ⟨hevent, htimeout⟩
      rw [hother, Bool.toNat_false] at hcount
      simp only [if_true, Bool.toNat_true]
      omega

/-- **At most every other event is a timeout.** -/
theorem countP_le (h : Sparse events) :
    events.countP Event.isTimeout ≤ (events.length + 1) / 2 := by
  have := h.two_mul_countP_le
  have := Bool.toNat_le (events.head?.any Event.isTimeout)
  omega

end Sparse

/-! ## Queues -/

namespace BoundedList

/-- **A push leaves timeouts apart**: it is the newest event that decides
whether a timeout is added, and a timeout keeps it from that. -/
theorem sparse_push {l : BoundedList} (h : Sparse l.events) (forceNew : Bool) (event : Event) :
    Sparse (l.push forceNew event).2.events := by
  unfold push
  split
  · next hnone =>
    refine Sparse.concat_iff.mpr ⟨h, fun newest hlast => ?_⟩
    rw [hnone] at hlast
    cases hlast
  · next newest hnewest =>
    split
    · split
      · exact h.replaceNewest hnewest rfl
      · next happart =>
        refine Sparse.concat_iff.mpr
          ⟨h, fun last hlast htimeouts => happart ⟨?_, .inr htimeouts.2⟩⟩
        obtain rfl := Option.some.inj (hnewest.symm.trans hlast)
        exact (beq_iff_eq.mp htimeouts.1).trans (beq_iff_eq.mp htimeouts.2).symm
    · split
      · exact h.replaceNewest hnewest rfl
      · exact h

/-- **So does any operation.** -/
theorem sparse_perform {l : BoundedList} (h : Sparse l.events) (operation : QueueOperation) :
    Sparse (l.perform operation).2.events := by
  cases operation with
  | push forceNew event => exact sparse_push h forceNew event
  | pop =>
    unfold perform pop
    dsimp only
    split
    · exact h
    · next oldest rest hevents =>
      rw [hevents] at h
      exact List.IsChain.tail h
  | clear => exact .nil

theorem sparse_performAll {l : BoundedList} (h : Sparse l.events)
    (operations : List QueueOperation) : Sparse (l.performAll operations).2.events := by
  induction operations generalizing l with
  | nil => exact h
  | cons operation rest ih => exact ih (sparse_perform h operation)

end BoundedList

namespace EventQueue

/-- Whatever is done to an empty queue, its timeouts stay apart. -/
theorem sparse_performAll {q : EventQueue} (h : q.toList = []) (operations : List QueueOperation) :
    Sparse (q.performAll operations).2.toList := by
  have hempty : Sparse q.contents.events := by
    rw [show q.contents.events = [] from h]
    exact .nil
  have hlist : (q.performAll operations).2.toList = (q.contents.performAll operations).2.events :=
    congrArg BoundedList.events (q.performAll_contents operations).2
  rw [hlist]
  exact BoundedList.sparse_performAll hempty operations

end EventQueue

/-- **Timeouts cannot fill a queue.** Whatever is pushed on an empty queue
of any capacity, popped from it and cleared, no two timeouts are ever
pending one right behind the other, so at most half of the pending events,
rounded up, are timeouts. The same is true of every queue of a scheduler,
whatever is done to the scheduler, however often its clock makes it queue
a timeout, and whatever its handlers post. -/
theorem timeouts_never_fill :
    (∀ capacity, 0 < capacity → capacity ≤ 255 →
        ∃ q, EventQueue.create capacity = .ok q ∧ ∀ operations : List QueueOperation,
          let pending := (q.performAll operations).2.toList
          Sparse pending ∧ pending.countP Event.isTimeout ≤ (pending.length + 1) / 2) ∧
      ∀ (μ : Type) (t : Topology μ) (s : Scheduler t), s.Reachable → ∀ g : Fin t.groupCount,
        let pending := (s.queues.get g).toList
        Sparse pending ∧ pending.countP Event.isTimeout ≤ (pending.length + 1) / 2 := by
  refine ⟨fun capacity hpos hle => ?_, fun μ t s hreach g => ?_⟩
  · obtain ⟨q, hcreate⟩ := EventQueue.exists_create hpos hle
    refine ⟨q, hcreate, fun operations => ?_⟩
    have hsparse := EventQueue.sparse_performAll (EventQueue.toList_of_create hcreate).1 operations
    exact ⟨hsparse, hsparse.countP_le⟩
  · obtain ⟨operations, hqueue⟩ := hreach.exists_run g
    have hsparse : Sparse (s.queues.get g).toList :=
      hqueue ▸ EventQueue.sparse_performAll (t.groups.get g).queue_empty operations
    exact ⟨hsparse, hsparse.countP_le⟩

/-- Three slots, filled with two timeouts and an event between them: more
timeouts merge or are refused. An alarm clock whose producer and heartbeat
both insist on timeouts has one of them pending beside its event. -/
theorem timeouts_never_fill_insisting :
    let ring : List QueueOperation :=
      [.push true ⟨0, 1⟩, .push true ⟨0, 2⟩, .push true ⟨7, 0⟩, .push true ⟨0, 3⟩,
        .push true ⟨0, 4⟩]
    let clock : List Operation :=
      [.post 0 false ⟨1, 0⟩, .pass, .advance 3, .heartbeat, .post 0 true ⟨0, 9⟩,
        .post 0 true ⟨1, 0⟩]
    (0 < 3 ∧ 3 ≤ 255 ∧ ∃ q, EventQueue.create 3 = .ok q ∧
        (q.performAll ring).2.toList = [⟨0, 2⟩, ⟨7, 0⟩, ⟨0, 3⟩] ∧
        Sparse (q.performAll ring).2.toList) ∧
      Scheduler.Reachable ((Alarm.scheduler 3).performAll clock) ∧
        (((Alarm.scheduler 3).performAll clock).queues.get Alarm.group).toList =
          [⟨0, 9⟩, ⟨1, 0⟩] ∧
        Sparse (((Alarm.scheduler 3).performAll clock).queues.get Alarm.group).toList := by
  intro ring clock
  obtain ⟨hqueues, hschedulers⟩ := timeouts_never_fill
  obtain ⟨q, hcreate, hruns⟩ := hqueues 3 (by decide) (by decide)
  have hreach := Alarm.reachable 3 clock
  refine ⟨⟨by decide, by decide, q, hcreate, ?_, (hruns ring).1⟩, hreach, by decide +kernel,
    (hschedulers _ _ _ hreach Alarm.group).1⟩
  obtain rfl : _ = q := Except.ok.inj hcreate
  decide +kernel

end TimedMachines
