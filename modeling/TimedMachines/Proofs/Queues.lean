import TimedMachines.Proofs.BoundedList
import TimedMachines.Proofs.Chronicle

/-!
# The queues of a scheduler

A scheduler does nothing to its queues but push, pop and clear. So what
these operations keep is kept by every queue of a scheduler, whatever is
done to the scheduler and whatever its handlers do, also while that is
under way (`Chronicled.lasting_queues`), and each of its queues is, at any time, the
queue that was declared for its group after a run of them
(`Scheduler.Reachable.exists_run`). What is known of queues by themselves
is known of those of a scheduler thereby.
-/

namespace TimedMachines

variable {μ : Type} {t : Topology μ}

namespace EventQueue

theorem capacity_perform (q : EventQueue) (operation : QueueOperation) :
    (q.perform operation).2.capacity = q.capacity :=
  (congrArg BoundedList.capacity (q.perform_contents operation).2).trans
    (q.contents.capacity_perform operation)

theorem capacity_performAll (q : EventQueue) (operations : List QueueOperation) :
    (q.performAll operations).2.capacity = q.capacity :=
  (congrArg BoundedList.capacity (q.performAll_contents operations).2).trans
    (q.contents.capacity_performAll operations)

/-- One operation more. -/
theorem performAll_concat (q : EventQueue) (operations : List QueueOperation)
    (operation : QueueOperation) :
    (q.performAll (operations ++ [operation])).2 =
      ((q.performAll operations).2.perform operation).2 := by
  induction operations generalizing q with
  | nil => rfl
  | cons first rest ih => exact ih (q.perform first).2

theorem perform_pop {q rest : EventQueue} {event : Event} (h : q.pop = some (event, rest)) :
    (q.perform .pop).2 = rest := by
  simp only [perform, h]

end EventQueue

namespace Scheduler

/-- **A post is a push** on the queue of its group. -/
theorem queues_post {group : UInt8} {g : Fin t.groupCount} (hgroup : t.group? group = .ok g)
    (forceNew : Bool) (event : Event) (s : Scheduler t) :
    (s.post group forceNew event).2.queues =
      s.queues.put g ((s.queues.get g).push forceNew event).2 := by
  unfold post
  rw [hgroup]
  dsimp only
  rcases (s.queues.get g).push forceNew event with ⟨_ | _ | _, queue⟩
  · rfl
  · rfl
  · dsimp only
    split <;> rfl

/-- Without such a group there is no push. -/
theorem queues_post_of_error {group : UInt8} {e : Error} (hgroup : t.group? group = .error e)
    (forceNew : Bool) (event : Event) (s : Scheduler t) :
    (s.post group forceNew event).2.queues = s.queues := by
  unfold post
  rw [hgroup]
  rfl

/-- What every queue is, as the queue of its group. -/
def EveryQueue (P : Fin t.groupCount → EventQueue → Prop) (s : Scheduler t) : Prop :=
  ∀ g, P g (s.queues.get g)

section EveryQueue

variable {P : Fin t.groupCount → EventQueue → Prop} {s u : Scheduler t}

theorem EveryQueue.of_queues_eq (h : s.EveryQueue P) (hqueues : u.queues = s.queues) :
    u.EveryQueue P :=
  fun g => hqueues ▸ h g

/-- An operation on one queue. -/
theorem EveryQueue.put (hP : ∀ g q operation, P g q → P g (q.perform operation).2)
    (h : s.EveryQueue P) (g : Fin t.groupCount) (operation : QueueOperation)
    (hqueues : u.queues = s.queues.put g ((s.queues.get g).perform operation).2) :
    u.EveryQueue P := by
  intro k
  rw [hqueues]
  by_cases hk : k = g
  · rw [hk, Vector.get_put_self]
    exact hP g _ operation (h g)
  · rw [Vector.get_put_of_ne _ _ hk]
    exact h k

end EveryQueue

end Scheduler

namespace Chronicled

/-- **Now and at every moment** of the chronicle, so also while an
operation is under way. -/
def Throughout (P : Scheduler t → Prop) (u : Chronicled t) : Prop :=
  P u.scheduler ∧ ∀ m ∈ u.chronicle, P m.scheduler

section Throughout

variable {P : Scheduler t → Prop} {u : Chronicled t}

theorem throughout_of {s : Scheduler t} (h : P s) : Throughout P (of s) :=
  ⟨h, fun _ hm => absurd hm List.not_mem_nil⟩

theorem Throughout.update (h : Throughout P u) (f : Scheduler t → Scheduler t)
    (hf : P (f u.scheduler)) : Throughout P (u.update f) :=
  ⟨hf, h.2⟩

theorem Throughout.add (h : Throughout P u) (incident : Incident t) :
    Throughout P (u.add incident) :=
  ⟨h.1, List.forall_mem_cons.mpr ⟨h.1, h.2⟩⟩

/-- **What lasts is so between passes**, if it is so at first. -/
theorem Lasting.reachable (hP : Lasting (Throughout P))
    (hbuilt : ∀ memory s, Scheduler.build t memory = .ok s → P s) {s : Scheduler t}
    (h : s.Reachable) : P s := by
  induction h with
  | built hbuild => exact hbuilt _ _ hbuild
  | performed operation _ ih =>
    have := (hP.perform operation _ (throughout_of ih)).1
    rwa [scheduler_perform] at this

end Throughout

/-- **What the operations on queues keep, all queues of a scheduler
keep**. -/
theorem lasting_queues {P : Fin t.groupCount → EventQueue → Prop}
    (hP : ∀ g q operation, P g q → P g (q.perform operation).2) :
    Lasting (Throughout (Scheduler.EveryQueue P)) where
  update f _ hqueues _ h := h.update f (h.1.of_queues_eq hqueues)
  post group forceNew event u h := by
    unfold post
    cases hgroup : t.group? group with
    | error e =>
      exact h.update _ (h.1.of_queues_eq (Scheduler.queues_post_of_error hgroup _ _ _))
    | ok g =>
      have hqueues := Scheduler.queues_post hgroup forceNew event u.scheduler
      exact (h.update _ (h.1.put hP g (.push forceNew event) hqueues)).add _
  quiet _ _ _ h := h.add _
  exit _ h := (h.add _).update Scheduler.requestExit (h.1.of_queues_eq rfl)
  rewind u h := by
    have hcleared : (Scheduler.rewind u.scheduler).EveryQueue P := fun g => by
      change P g ((u.scheduler.queues.map EventQueue.clear).get g)
      rw [Vector.get_mapped]
      exact hP g _ .clear (h.1 g)
    exact (h.update Scheduler.rewind hcleared).add .rewound
  requestExit _ h := h.update Scheduler.requestExit (h.1.of_queues_eq rfl)
  turn g u h := by
    have hvisit := h.update (Scheduler.note (.visiting (t.groupId g))) (h.1.of_queues_eq rfl)
    unfold turn
    dsimp only
    split
    · next event rest hpop =>
      refine (hvisit.update _ (hvisit.1.put hP g .pop ?_)).add _
      rw [EventQueue.perform_pop hpop]
    · exact (hvisit.update _ (hvisit.1.of_queues_eq rfl)).add _
  handed _ _ _ _ h := h.add _

end Chronicled

namespace Scheduler

/-- **A queue of a scheduler is its group's after a run** of pushes, pops
and clears. -/
theorem Reachable.exists_run {s : Scheduler t} (h : Reachable s) (g : Fin t.groupCount) :
    ∃ operations, s.queues.get g = ((t.groups.get g).queue.performAll operations).2 := by
  have hlasting := Chronicled.lasting_queues (t := t) (P := fun g q =>
    ∃ operations, q = ((t.groups.get g).queue.performAll operations).2)
    fun _ _ operation ⟨operations, hq⟩ =>
      ⟨operations ++ [operation], by rw [EventQueue.performAll_concat, ← hq]⟩
  refine hlasting.reachable (fun memory s hbuild g => ?_) h g
  obtain ⟨-, rfl⟩ := eq_of_build hbuild
  exact ⟨[], Vector.get_mapped ..⟩

end Scheduler

end TimedMachines
