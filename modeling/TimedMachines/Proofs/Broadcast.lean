import TimedMachines.Proofs.Strides

/-!
# Posts stand alone

A post changes one queue, sets a flag and the latch, and adds an entry to
the journal; which of these it does, the answer of that queue decides
(`answered_eq`). So a post that is refused is refused as a whole
(`Refusal`), and posts to different groups do not meet: after one post
each, in whatever order, every queue is what the post to it alone would
have left, and flag and latch are set if one of the posts alone would have
set them (`Spread`). That settles everything but the order of the journal,
and a broadcast is just such a series of posts.
-/

namespace TimedMachines

variable {μ : Type} {t : Topology μ}

theorem Journal.records_push (journal : Journal) (entry : Entry) :
    (Journal.records (journal.push entry)).toList =
      (Journal.records journal).toList ++ entry.record?.toList := by
  unfold Journal.records
  rw [Array.toList_filterMap, Array.toList_push, List.filterMap_append, Array.toList_filterMap,
    List.filterMap_cons]
  cases entry.record? <;> rfl

namespace Scheduler

variable {s u : Scheduler t} {forceNew : Bool} {event : Event}
  {groups : List (Fin t.groupCount)}

/-! ## Posts that are refused -/

/-- **A post that is refused is refused as a whole.** -/
structure Refusal (group : UInt8) (forceNew : Bool) (event : Event) (s : Scheduler t) : Prop where
  /-- A group is said to be missing when its index is out of range. -/
  invalid_iff : ∀ index, (s.post group forceNew event).1 = .error (.invalidGroup index) ↔
    index = group ∧ ¬ group.toNat < t.groupCount
  /-- Then the scheduler stays as it is, but for a message. -/
  invalid : ¬ group.toNat < t.groupCount →
    ∃ n, (s.post group forceNew event).2 = s.note n ∧
      (s.note n).journal.records = s.journal.records
  /-- Without a free slot the loss is recorded and the latch set. -/
  queueFull : (s.post group forceNew event).1 = .error .queueFull →
    (s.post group forceNew event).2 = s.wake.record (.dropped group event)

theorem post_refusal (group : UInt8) (forceNew : Bool) (event : Event) (s : Scheduler t) :
    s.Refusal group forceNew event := by
  obtain ⟨e, hgroup, hpost⟩ | ⟨g, hgroup, hcases⟩ := s.post_cases group forceNew event
  · obtain ⟨rfl, hrange⟩ := Topology.group?_eq_error_iff.mp hgroup
    refine ⟨fun index => ?_, fun _ => ⟨_, congrArg Prod.snd hpost, ?_⟩, fun hfull => ?_⟩
    · rw [hpost, Except.error.injEq, Error.invalidGroup.injEq, and_iff_left hrange, eq_comm]
    · exact Array.toList_inj.mp ((Journal.records_push _ _).trans (List.append_nil _))
    · rw [hpost] at hfull
      cases hfull
  · have hrange : group.toNat < t.groupCount := (Topology.group?_eq_ok_iff.mp hgroup) ▸ g.isLt
    refine ⟨fun index => ⟨fun hinvalid => ?_, fun h => absurd hrange h.2⟩,
      fun h => absurd hrange h, fun hfull => ?_⟩
    · obtain ⟨-, hpost⟩ | ⟨-, hpost⟩ | ⟨-, hpost⟩ := hcases
      all_goals
        rw [hpost] at hinvalid
        cases hinvalid
    · obtain ⟨-, hpost⟩ | ⟨-, hpost⟩ | ⟨-, hpost⟩ := hcases
      · rw [hpost] at hfull
        cases hfull
      · rw [hpost] at hfull
        cases hfull
      · rw [hpost]

/-! ## A series of posts -/

/-- The scheduler after a post to one group alone. -/
def alone (forceNew : Bool) (event : Event) (s : Scheduler t) (g : Fin t.groupCount) :
    Scheduler t :=
  (s.post (t.groupId g) forceNew event).2

/-- What a post to one group alone is recorded as. -/
def receipt (forceNew : Bool) (event : Event) (s : Scheduler t) (g : Fin t.groupCount) : Record :=
  .receipt (t.groupId g) event (s.post (t.groupId g) forceNew event).1

/-- **One post each to some groups**: each of the posts did what it would
have done alone, and nothing else was done. -/
structure Spread (forceNew : Bool) (event : Event) (s : Scheduler t)
    (groups : List (Fin t.groupCount)) (u : Scheduler t) : Prop where
  /-- A group that was posted to has the queue that the post alone leaves. -/
  queue : ∀ g ∈ groups, u.queues.get g = (s.alone forceNew event g).queues.get g
  /-- The other groups have their queues. -/
  queue_of_notMem : ∀ g ∉ groups, u.queues.get g = s.queues.get g
  /-- The flag is set if it was, or if a post alone sets it. -/
  eventQueued : u.flags.eventQueued =
    (s.flags.eventQueued || groups.any fun g => (s.alone forceNew event g).flags.eventQueued)
  /-- The latch is set if it was, or if a post alone sets it. -/
  woken : u.latch.woken =
    (s.latch.woken || groups.any fun g => (s.alone forceNew event g).latch.woken)
  /-- The posts are recorded one by one. -/
  records : u.journal.records.toList =
    s.journal.records.toList ++ groups.map (s.receipt forceNew event)
  /-- Nothing else is different. -/
  rest : ∃ queues queued latch journal, u = { s with
    queues := queues
    flags := { s.flags with eventQueued := queued }
    latch := latch
    journal := journal }

/-- What a post alone comes to. -/
theorem alone_eq (forceNew : Bool) (event : Event) (s : Scheduler t) (g : Fin t.groupCount) :
    s.alone forceNew event g =
      (s.answered g ((s.queues.get g).push forceNew event)).record (s.receipt forceNew event g) := by
  rw [alone, receipt, post_groupId]

namespace Spread

theorem nil (forceNew : Bool) (event : Event) (s : Scheduler t) :
    Spread forceNew event s [] s where
  queue _ hg := absurd hg List.not_mem_nil
  queue_of_notMem _ _ := rfl
  eventQueued := (Bool.or_false _).symm
  woken := (Bool.or_false _).symm
  records := (List.append_nil _).symm
  rest := ⟨_, _, _, _, rfl⟩

/-- Messages do not matter. -/
theorem note (h : Spread forceNew event s groups u) (n : Note) :
    Spread forceNew event s groups (u.note n) where
  queue := h.queue
  queue_of_notMem := h.queue_of_notMem
  eventQueued := h.eventQueued
  woken := h.woken
  records := by
    rw [← h.records]
    exact (Journal.records_push _ _).trans (List.append_nil _)
  rest := by
    obtain ⟨queues, queued, latch, journal, rfl⟩ := h.rest
    exact ⟨queues, queued, latch, _, rfl⟩

/-- **One post more.** The queue it finds is still the one that it would
find alone. -/
theorem post (h : Spread forceNew event s groups u) {g : Fin t.groupCount} (hg : g ∉ groups) :
    Spread forceNew event s (groups ++ [g]) (u.alone forceNew event g) := by
  have hfound := h.queue_of_notMem g hg
  have hreceipt : u.receipt forceNew event g = s.receipt forceNew event g := by
    rw [receipt, receipt, post_groupId, post_groupId, hfound]
  have hafter := u.alone_eq forceNew event g
  have halone := s.alone_eq forceNew event g
  rw [hfound, hreceipt, answered_eq] at hafter
  rw [answered_eq] at halone
  generalize (s.queues.get g).push forceNew event = answer at hafter halone
  refine ⟨fun k hk => ?_, fun k hk => ?_, ?_, ?_, ?_, ?_⟩
  · by_cases hkg : k = g
    · rw [hkg, hafter, halone]
      exact (Vector.get_put_self ..).trans (Vector.get_put_self ..).symm
    · have hseen : k ∈ groups :=
        (List.mem_append.mp hk).resolve_right fun hlast => hkg (List.mem_singleton.mp hlast)
      rw [hafter, ← h.queue k hseen]
      exact Vector.get_put_of_ne _ _ hkg
  · rw [List.mem_append, List.mem_singleton, not_or] at hk
    rw [hafter, ← h.queue_of_notMem k hk.1]
    exact Vector.get_put_of_ne _ _ hk.2
  · rw [List.any_append, List.any_cons, List.any_nil, Bool.or_false, halone, hafter]
    change (u.flags.eventQueued || takesSlot answer.1) =
      (s.flags.eventQueued || (_ || (s.flags.eventQueued || takesSlot answer.1)))
    rw [h.eventQueued]
    cases s.flags.eventQueued <;> simp
  · rw [List.any_append, List.any_cons, List.any_nil, Bool.or_false, halone, hafter]
    change (u.latch.woken || setsLatch t.config answer.1) =
      (s.latch.woken || (_ || (s.latch.woken || setsLatch t.config answer.1)))
    rw [h.woken]
    cases s.latch.woken <;> simp
  · rw [List.map_append, ← List.append_assoc, ← h.records, hafter]
    exact Journal.records_push _ _
  · obtain ⟨queues, queued, latch, journal, rfl⟩ := h.rest
    exact ⟨_, _, _, _, hafter⟩

/-- All posts of a series. -/
theorem foldl (forceNew : Bool) (event : Event) (s : Scheduler t) {order : List (Fin t.groupCount)}
    (hnodup : order.Nodup) {f : Scheduler t → Fin t.groupCount → Scheduler t}
    (hf : ∀ seen u g, g ∉ seen → Spread forceNew event s seen u →
      Spread forceNew event s (seen ++ [g]) (f u g)) :
    Spread forceNew event s order (order.foldl f s) := by
  refine foldl_split (fun seen g rest u horder hu => hf seen u g (fun hmem => ?_) hu)
    (nil forceNew event s)
  rw [horder] at hnodup
  exact (List.nodup_append.mp hnodup).2.2 g hmem g List.mem_cons_self rfl

/-- **What is left does not tell in which order they were posted**, but for
the journal. -/
theorem eq_of_perm {order : List (Fin t.groupCount)} {v : Scheduler t}
    (h : Spread forceNew event s groups u) (h' : Spread forceNew event s order v)
    (hperm : order.Perm groups) :
    v = { u with journal := v.journal } := by
  have hqueues : v.queues = u.queues := by
    refine Vector.ext fun i hi => ?_
    change v.queues.get ⟨i, hi⟩ = u.queues.get ⟨i, hi⟩
    by_cases hmem : (⟨i, hi⟩ : Fin t.groupCount) ∈ groups
    · rw [h.queue _ hmem, h'.queue _ (hperm.mem_iff.mpr hmem)]
    · rw [h.queue_of_notMem _ hmem, h'.queue_of_notMem _ (mt hperm.mem_iff.mp hmem)]
  have hqueued : v.flags.eventQueued = u.flags.eventQueued := by
    rw [h.eventQueued, h'.eventQueued, hperm.any_eq]
  have hwoken : v.latch.woken = u.latch.woken := by
    rw [h.woken, h'.woken, hperm.any_eq]
  obtain ⟨queues, queued, ⟨woken⟩, journal, rfl⟩ := h.rest
  obtain ⟨queues', queued', ⟨woken'⟩, journal', rfl⟩ := h'.rest
  dsimp only at hqueues hqueued hwoken
  rw [hqueues, hqueued, hwoken]

end Spread

/-- **A broadcast is a post to every group.** -/
theorem spread_broadcast (forceNew : Bool) (event : Event) (s : Scheduler t) :
    Spread forceNew event s t.allGroups (s.broadcast forceNew event) :=
  .foldl forceNew event s (List.nodup_finRange _) fun _ _ _ hg hu => (hu.note _).post hg

/-- **Posts stand alone.** A post that is refused is refused as a whole. A
broadcast does to every group what a post to it alone does, whatever it
does to the others, and so do posts to all groups in any order: they leave
the same queues, flags and latch. -/
theorem posts_stand_alone (forceNew : Bool) (event : Event) (s : Scheduler t) :
    (∀ group, s.Refusal group forceNew event) ∧
      (∀ g, Spread forceNew event s [g] (s.alone forceNew event g)) ∧
      Spread forceNew event s t.allGroups (s.broadcast forceNew event) ∧
      ∀ order : List (Fin t.groupCount), order.Perm t.allGroups →
        let v := s.performAll (order.map fun g => .post (t.groupId g) forceNew event)
        Spread forceNew event s order v ∧
          ∃ journal, v = { s.broadcast forceNew event with journal := journal } := by
  have hall := s.spread_broadcast forceNew event
  refine ⟨fun group => s.post_refusal group forceNew event,
    fun g => (Spread.nil forceNew event s).post List.not_mem_nil, hall, fun order horder => ?_⟩
  have hposts : Spread forceNew event s order
      (s.performAll (order.map fun g => .post (t.groupId g) forceNew event)) := by
    rw [performAll, List.foldl_map]
    exact .foldl forceNew event s (horder.nodup_iff.mpr (List.nodup_finRange _))
      fun _ _ _ hg hu => hu.post hg
  exact ⟨hposts, _, hall.eq_of_perm hposts horder⟩

/-- An alarm clock in three groups. -/
def crowded : Topology Unit :=
  { Alarm.topology 3 with
    groupCount := 3
    groups := .replicate 3 ((Alarm.topology 3).groups.get Alarm.group)
    groupCount_le := by decide }

/-- **Three groups, three answers.** Event 5 is dropped by the first group,
coalesces in the second without setting the latch, and takes a slot in the
third. Posts in another order come to the same, and a post to a fourth
group to nothing. -/
theorem posts_stand_alone_crowded :
    ∃ s, build crowded () = .ok s ∧
      let s := s.performAll
        [.post 0 false ⟨1, 0⟩, .post 0 true ⟨1, 1⟩, .post 1 false ⟨5, 7⟩, .takeWake]
      let order : List (Fin 3) := [2, 0, 1]
      s.Reachable ∧ order.Perm crowded.allGroups ∧
        (¬ (3 : UInt8).toNat < crowded.groupCount ∧
          (s.post 3 false ⟨5, 9⟩).1 = .error (.invalidGroup 3)) ∧
        ((s.post 0 false ⟨5, 9⟩).1 = .error .queueFull ∧
          (s.post 0 false ⟨5, 9⟩).2 = s.wake.record (.dropped 0 ⟨5, 9⟩)) ∧
        (∃ journal, s.performAll (order.map fun g => .post (crowded.groupId g) false ⟨5, 9⟩) =
          { s.broadcast false ⟨5, 9⟩ with journal := journal }) ∧
        (s.broadcast false ⟨5, 9⟩).waiting (0 : Fin 3) = [⟨1, 0⟩, ⟨1, 1⟩] ∧
        (s.broadcast false ⟨5, 9⟩).waiting (1 : Fin 3) = [⟨5, 9⟩] ∧
        (s.broadcast false ⟨5, 9⟩).waiting (2 : Fin 3) = [⟨5, 9⟩] := by
  refine ⟨_, rfl, ?_⟩
  intro s order
  have horder : order.Perm (List.finRange 3) := by decide
  have hmissing : ¬ (3 : UInt8).toNat < crowded.groupCount := by decide
  have hfull : (s.post 0 false ⟨5, 9⟩).1 = .error .queueFull := by with_unfolding_all rfl
  obtain ⟨hrefusal, -, -, hseries⟩ := posts_stand_alone false ⟨5, 9⟩ s
  exact ⟨(Reachable.built rfl).performAll _, horder,
    ⟨hmissing, ((hrefusal 3).invalid_iff 3).mpr ⟨rfl, hmissing⟩⟩,
    ⟨hfull, (hrefusal 0).queueFull hfull⟩, (hseries order horder).2,
    by decide +kernel, by decide +kernel, by decide +kernel⟩

end Scheduler

end TimedMachines
