import Mathlib.Data.List.Nodup
import TimedMachines.Proofs.Decision
import TimedMachines.Proofs.Inward

/-!
# Every machine in one place

In a **partitioned** topology every machine is a member of one group, at
one position. If its machines are inward too, no turn sees what the others
did: a machine's turn depends on its status, its group's oldest event and
the time, and nothing else in a pass changes any of these. So starts and
passes can be said without an order. After a start each machine is readied
(`moved_prepareAll`); after all turns of a pass each has made what it makes
of its group's oldest event, every queue is without that event, and events
are announced if a queue still has some (`toured_visitAll`).
-/

namespace TimedMachines

variable {μ : Type} {t : Topology μ}

/-! ## Partitions -/

namespace Topology

/-- **Every machine is in one place.** -/
structure Partitioned (t : Topology μ) : Prop where
  /-- Every machine is a member of a group. -/
  hosts : ∀ id, t.Hosts id
  /-- It is a member of no other. -/
  group_eq : ∀ {id g k}, id ∈ (t.groups.get g).members → id ∈ (t.groups.get k).members → g = k
  /-- It has no other position there. -/
  nodup : ∀ g, (t.groups.get g).members.Nodup

/-- All machines of a topology are inward. -/
def Inward (t : Topology μ) : Prop :=
  ∀ id, (t.machines.get id).Inward

theorem Partitioned.metFirst (h : t.Partitioned) (g : Fin t.groupCount) : t.MetFirst g :=
  ⟨h.nodup g, fun _ hearlier _ hid hmember => Fin.ne_of_lt hearlier (h.group_eq hid hmember)⟩

/-- The members of all groups, in the order of their turns. -/
def everyone (t : Topology μ) : List (Fin t.machineCount) :=
  t.allGroups.flatMap fun g => (t.groups.get g).members

theorem mem_everyone {id : Fin t.machineCount} : id ∈ t.everyone ↔ t.Hosts id := by
  unfold everyone Hosts
  rw [List.mem_flatMap]
  exact exists_congr fun g => and_iff_right (List.mem_finRange g)

theorem map_snd_allPlaced (t : Topology μ) :
    (t.allGroups.flatMap t.placed).map Prod.snd = t.everyone := by
  rw [List.map_flatMap, everyone]
  exact congrArg (List.flatMap · t.allGroups) (funext t.map_snd_placed)

/-- Everyone has one turn. -/
theorem Partitioned.nodup_everyone (h : t.Partitioned) : t.everyone.Nodup :=
  List.nodup_flatMap.mpr ⟨fun g _ => h.nodup g,
    (List.nodup_finRange t.groupCount).imp fun hne _ hid hid' => hne (h.group_eq hid hid')⟩

end Topology

/-- An inward handler asks for nothing. -/
theorem Act.Inward.asks {act : Act μ} (h : act.Inward) (allowed : Request → Prop) :
    act.Asks allowed := by
  induction act with
  | done => trivial
  | delay _ _ ih | delayForever _ ih | veto _ ih | remark _ _ _ ih => exact ih h
  | override _ _ ih => exact fun answer => ih answer (h answer)
  | readClock _ _ | post _ _ _ _ _ | ask _ _ _ | consult _ _ | amend _ _ _ => exact h.elim

theorem Topology.Inward.calm (h : t.Inward) : t.Calm :=
  fun id handler hhandler view => ((h id handler (.inr hhandler)).act view).asks _

/-! ## What is popped -/

namespace EventQueue

/-- The oldest pending event, if there is one. -/
def oldest? (q : EventQueue) : Option Event :=
  q.pop.map Prod.fst

/-- The queue without its oldest event, if it has one. -/
def behind (q : EventQueue) : EventQueue :=
  (q.pop.map Prod.snd).getD q

theorem oldest?_of_pop {q rest : EventQueue} {event : Event} (h : q.pop = some (event, rest)) :
    q.oldest? = some event ∧ q.behind = rest := by
  rw [oldest?, behind, h]
  exact ⟨rfl, rfl⟩

theorem oldest?_of_pop_eq_none {q : EventQueue} (h : q.pop = none) :
    q.oldest? = none ∧ q.behind = q ∧ q.isEmpty = true := by
  rw [oldest?, behind, h]
  exact ⟨rfl, rfl, q.isEmpty_iff.mpr (q.pop_eq_none_iff.mp h)⟩

end EventQueue

namespace Scheduler

variable {s u v : Scheduler t}

/-! ## One move per machine -/

/-- **Each of some machines moved once** and nothing else happened but
entries in the journal. -/
structure Moved (f : Fin t.machineCount → Status) (machines : List (Fin t.machineCount))
    (s u : Scheduler t) : Prop where
  moved : ∀ id ∈ machines, u.statuses.get id = f id
  still : ∀ id ∉ machines, u.statuses.get id = s.statuses.get id
  rest : ∃ statuses journal, u = { s with statuses := statuses, journal := journal }

namespace Moved

variable {f : Fin t.machineCount → Status} {machines : List (Fin t.machineCount)}

theorem refl (f : Fin t.machineCount → Status) (s : Scheduler t) : Moved f [] s s where
  moved _ hid := absurd hid List.not_mem_nil
  still _ _ := rfl
  rest := ⟨_, _, rfl⟩

/-- **One machine more.** -/
theorem move (h : Moved f machines s u) {id : Fin t.machineCount} (hmoves : u.Moves id (f id) v) :
    Moved f (machines ++ [id]) s v := by
  obtain ⟨journal, rfl⟩ := hmoves
  refine ⟨fun other hother => ?_, fun other hother => ?_, ?_⟩
  · by_cases hsame : other = id
    · rw [hsame]
      exact Vector.get_put_self ..
    · have hmem := (List.mem_append.mp hother).resolve_right fun hlast =>
        hsame (List.mem_singleton.mp hlast)
      exact (Vector.get_put_of_ne _ _ hsame).trans (h.moved other hmem)
  · rw [List.mem_append, List.mem_singleton, not_or] at hother
    exact (Vector.get_put_of_ne _ _ hother.2).trans (h.still other hother.1)
  · obtain ⟨statuses, earlier, rfl⟩ := h.rest
    exact ⟨_, _, rfl⟩

theorem now_eq (h : Moved f machines s u) : u.now = s.now := by
  obtain ⟨statuses, journal, rfl⟩ := h.rest
  rfl

end Moved

/-- **Turns that move one machine each** can be said without their order, if
what each does depends on the time and its machine's status alone. -/
theorem moved_foldl {β : Type} (view : β → Scheduler t)
    (f : Fin t.machineCount → Timestamp → Status → Status)
    {turn : β → Coords × Fin t.machineCount → β}
    (hturn : ∀ b member, (view b).Moves member.2
      (f member.2 (view b).now ((view b).statuses.get member.2)) (view (turn b member)))
    {members : List (Coords × Fin t.machineCount)} (hnodup : (members.map Prod.snd).Nodup) (b : β) :
    Moved (fun id => f id (view b).now ((view b).statuses.get id)) (members.map Prod.snd) (view b)
      (view (members.foldl turn b)) :=
  foldl_split (P := fun seen b' => Moved (fun id => f id (view b).now ((view b).statuses.get id))
      (seen.map Prod.snd) (view b) (view b'))
    (fun seen member rest b' hsplit h => by
      have hnew : member.2 ∉ seen.map Prod.snd := fun hmem => by
        rw [hsplit, List.map_append, List.map_cons] at hnodup
        exact (List.nodup_append.mp hnodup).2.2 _ hmem _ List.mem_cons_self rfl
      rw [List.map_append]
      refine h.move ?_
      rw [← h.now_eq, ← h.still member.2 hnew]
      exact hturn b' member)
    (Moved.refl _ _)

/-! ## Starts -/

/-- **After a start every machine is readied**, and nothing else has
happened. -/
theorem moved_prepareAll (hpartitioned : t.Partitioned) (hinward : t.Inward)
    (start : Scheduler t → Scheduler t) (s : Scheduler t) :
    Moved (fun id => (t.machines.get id).readied s.now (s.statuses.get id)) t.everyone s
      (prepareAll (world start) s) := by
  have hflat : prepareAll (world start) s = (t.allGroups.flatMap t.placed).foldl
      (fun s member => (t.machines.get member.2).prepare (world start) (slot member.2) member.1 s)
      s := List.foldl_flatMap.symm
  rw [hflat, ← t.map_snd_allPlaced]
  exact moved_foldl id (fun id => (t.machines.get id).readied)
    (fun s member => prepare_inward (hinward member.2) start member.1 s)
    (t.map_snd_allPlaced ▸ hpartitioned.nodup_everyone) s

theorem moved_start (hpartitioned : t.Partitioned) (hinward : t.Inward) (s : Scheduler t) :
    Moved (fun id => (t.machines.get id).readied s.now (s.statuses.get id)) t.everyone s
      s.start := by
  unfold start
  cases t.config.nesting with
  | zero => exact moved_prepareAll hpartitioned hinward _ s
  | succ depth => exact moved_prepareAll hpartitioned hinward _ s

/-! ## Passes -/

/-- What a group's turn does to a member, with the event that the group
has for it. -/
def reaction (wakesSleepers : Bool) (event : Option Event) (now : Timestamp)
    (id : Fin t.machineCount) (before : Status) : Status :=
  match event with
  | some event => (t.machines.get id).react t.config.timing wakesSleepers event now before
  | none => before

theorem visitMember_inward (hinward : t.Inward) (wakesSleepers : Bool) (event : Option Event)
    (acc : Consensus × Scheduler t) (member : Coords × Fin t.machineCount) :
    acc.2.Moves member.2
      (reaction wakesSleepers event acc.2.now member.2 (acc.2.statuses.get member.2))
      (visitMember wakesSleepers event acc member).2 := by
  cases event with
  | none => exact Moves.stay member.2 acc.2
  | some event => exact deliver_inward (hinward member.2) start wakesSleepers member.1 event acc.2

/-- What may be announced after a group's turn. -/
theorem markQueued_if (more : Bool) (s : Scheduler t) :
    (if more then s.markQueued else s) =
      { s with flags := { s.flags with eventQueued := s.flags.eventQueued || more } } := by
  cases more with
  | false => rw [if_neg Bool.false_ne_true, Bool.or_false]
  | true => rw [if_pos rfl, Bool.or_true, markQueued]

/-- **A group's turn** takes the oldest event out of its queue if there is
one, gives it to the members and announces what is left. -/
theorem visitGroup_eq (wakesSleepers : Bool) (acc : Consensus × Scheduler t)
    (g : Fin t.groupCount) :
    ∃ journal,
      let q := acc.2.queues.get g
      let s := { acc.2 with queues := acc.2.queues.put g q.behind, journal := journal }
      let own := (t.placed g).foldl (visitMember wakesSleepers q.oldest?) (.idle, s)
      visitGroup wakesSleepers acc g =
        (acc.1.merge own.1, if !q.behind.isEmpty then own.2.markQueued else own.2) := by
  obtain ⟨event, rest, hpop, hturn⟩ | ⟨hpop, hturn⟩ := visitGroup_cases wakesSleepers acc g
  · obtain ⟨holdest, hbehind⟩ := EventQueue.oldest?_of_pop hpop
    refine ⟨(acc.2.note (.visiting (t.groupId g))).journal, ?_⟩
    dsimp only
    rw [holdest, hbehind]
    exact hturn
  · obtain ⟨holdest, hbehind, hempty⟩ := EventQueue.oldest?_of_pop_eq_none hpop
    refine
      ⟨((acc.2.note (.visiting (t.groupId g))).note (.nothingPending (t.groupId g))).journal, ?_⟩
    dsimp only
    rw [holdest, hbehind, hempty, Vector.put_get]
    exact hturn

/-- **Some groups had their turns**, and nothing else happened but entries
in the journal. -/
structure Toured (wakesSleepers : Bool) (s : Scheduler t) (seen : List (Fin t.groupCount))
    (u : Scheduler t) : Prop where
  /-- Each member of theirs made something of the oldest event. -/
  moved : ∀ g ∈ seen, ∀ id ∈ (t.groups.get g).members, u.statuses.get id =
    reaction wakesSleepers (s.queues.get g).oldest? s.now id (s.statuses.get id)
  /-- The other machines stayed as they were. -/
  still : ∀ id, (∀ g ∈ seen, id ∉ (t.groups.get g).members) →
    u.statuses.get id = s.statuses.get id
  /-- Their queues are without that event. -/
  queue : ∀ g ∈ seen, u.queues.get g = (s.queues.get g).behind
  /-- The other groups have their queues. -/
  queue_of_notMem : ∀ g ∉ seen, u.queues.get g = s.queues.get g
  /-- Events are announced if they were, or if a queue still has some. -/
  eventQueued : u.flags.eventQueued =
    (s.flags.eventQueued || seen.any fun g => !(s.queues.get g).behind.isEmpty)
  /-- Nothing else is different. -/
  rest : ∃ statuses queues queued journal, u = { s with
    statuses := statuses
    queues := queues
    flags := { s.flags with eventQueued := queued }
    journal := journal }

namespace Toured

variable {wakesSleepers : Bool} {seen : List (Fin t.groupCount)} {g : Fin t.groupCount}

theorem nil (wakesSleepers : Bool) (s : Scheduler t) : Toured wakesSleepers s [] s where
  moved _ hg := absurd hg List.not_mem_nil
  still _ _ := rfl
  queue _ hg := absurd hg List.not_mem_nil
  queue_of_notMem _ _ := rfl
  eventQueued := (Bool.or_false _).symm
  rest := ⟨_, _, _, _, rfl⟩

theorem now_eq (h : Toured wakesSleepers s seen u) : u.now = s.now := by
  obtain ⟨statuses, queues, queued, journal, rfl⟩ := h.rest
  rfl

/-- **One group more.** Neither its queue nor its members were touched
before. -/
theorem group (h : Toured wakesSleepers s seen u) (hpartitioned : t.Partitioned) (hg : g ∉ seen)
    {journal : Journal}
    (hmoved : Moved (fun id =>
        reaction wakesSleepers (u.queues.get g).oldest? u.now id (u.statuses.get id))
      (t.groups.get g).members
      { u with queues := u.queues.put g (u.queues.get g).behind, journal := journal } v) :
    Toured wakesSleepers s (seen ++ [g])
      (if !(u.queues.get g).behind.isEmpty then v.markQueued else v) := by
  have hfound := h.queue_of_notMem g hg
  have hothers (id : Fin t.machineCount) (hid : id ∈ (t.groups.get g).members) :
      ∀ k ∈ seen, id ∉ (t.groups.get k).members :=
    fun k hk hmember => hg (hpartitioned.group_eq hid hmember ▸ hk)
  rw [hfound] at hmoved
  rw [hfound, markQueued_if]
  obtain ⟨statuses, later, hv⟩ := hmoved.rest
  have hqueues : v.queues = u.queues.put g (s.queues.get g).behind := by rw [hv]
  have hflags : v.flags = u.flags := by rw [hv]
  refine ⟨fun k hk id hid => ?_, fun id hid => ?_, fun k hk => ?_, fun k hk => ?_, ?_, ?_⟩
  · obtain hseen | hlast := List.mem_append.mp hk
    · have hother : id ∉ (t.groups.get g).members := fun hmember => hothers id hmember k hseen hid
      exact (hmoved.still id hother).trans (h.moved k hseen id hid)
    · obtain rfl := List.mem_singleton.mp hlast
      rw [← h.now_eq, ← h.still id (hothers id hid)]
      exact hmoved.moved id hid
  · have hnew : id ∉ (t.groups.get g).members := hid g (List.mem_append_right _ List.mem_cons_self)
    exact (hmoved.still id hnew).trans
      (h.still id fun k hk => hid k (List.mem_append_left _ hk))
  · change v.queues.get k = _
    rw [hqueues]
    by_cases hkg : k = g
    · rw [hkg, Vector.get_put_self]
    · have hseen := (List.mem_append.mp hk).resolve_right fun hlast =>
        hkg (List.mem_singleton.mp hlast)
      rw [Vector.get_put_of_ne _ _ hkg, h.queue k hseen]
  · change v.queues.get k = _
    rw [List.mem_append, List.mem_singleton, not_or] at hk
    rw [hqueues, Vector.get_put_of_ne _ _ hk.2, h.queue_of_notMem k hk.1]
  · change (v.flags.eventQueued || _) = _
    rw [hflags, h.eventQueued, List.any_append, List.any_cons, List.any_nil, Bool.or_false,
      Bool.or_assoc]
  · obtain ⟨statuses, queues, queued, earlier, rfl⟩ := h.rest
    subst hv
    exact ⟨_, _, _, _, rfl⟩

end Toured

/-- **After all turns of a pass** every group had its own. -/
theorem toured_visitAll (hpartitioned : t.Partitioned) (hinward : t.Inward) (s : Scheduler t) :
    Toured s.flags.timeoutWakesSleepers s t.allGroups s.visitAll.2 := by
  refine foldl_split (l := t.allGroups) (f := visitGroup s.flags.timeoutWakesSleepers)
    (b := (.idle, s)) (P := fun seen acc => Toured s.flags.timeoutWakesSleepers s seen acc.2)
    (fun seen g rest acc hsplit h => ?_) (Toured.nil _ s)
  obtain ⟨journal, hturn⟩ := visitGroup_eq s.flags.timeoutWakesSleepers acc g
  have hnodup : ((t.placed g).map Prod.snd).Nodup := t.map_snd_placed g ▸ hpartitioned.nodup g
  have hmoved := moved_foldl Prod.snd
    (fun id now => reaction s.flags.timeoutWakesSleepers (acc.2.queues.get g).oldest? now id)
    (visitMember_inward hinward s.flags.timeoutWakesSleepers (acc.2.queues.get g).oldest?) hnodup
    (.idle, { acc.2 with
      queues := acc.2.queues.put g (acc.2.queues.get g).behind
      journal := journal })
  rw [t.map_snd_placed] at hmoved
  rw [hturn]
  exact h.group hpartitioned (Topology.notMem_of_allGroups_eq hsplit) hmoved

end Scheduler

end TimedMachines
