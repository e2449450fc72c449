import TimedMachines.Proofs.Wakeup

/-!
# How exact the wakeup is that a pass commits to

A pass asks every member of every group for its wakeup, right after the
member's own delivery, and commits to the earliest. That is never too late
(`Consensus.Covers`). It is exact if it is also **attained**: some member
has that wakeup when the pass is over. A wakeup that was asked for is
attained unless the machine moves on in the same pass, which takes a later
delivery: the machine must stand at a second place, and the group of that
place must have an event pending.

Of the groups with an event pending it is therefore enough to ask that
their members are met there first (`Topology.MetFirst`). Then no delivery
reaches a machine that was asked before, the consensus is attained group by
group (`attained_visitAll`), and so is what is committed to, since a change
of epoch moves it and the wakeups alike (`scheduled_settle`).

A group whose first event is posted in the pass itself needs no such
condition: the event is announced, and an announced pass does not end in
sleep.
-/

namespace TimedMachines

variable {μ : Type} {t : Topology μ}

/-- **The members of the group are met there first**: no machine stands in
it twice, or in an earlier group too. -/
def Topology.MetFirst (t : Topology μ) (g : Fin t.groupCount) : Prop :=
  (t.groups.get g).members.Nodup ∧
    ∀ earlier < g, ∀ id ∈ (t.groups.get earlier).members, id ∉ (t.groups.get g).members

instance (t : Topology μ) : DecidablePred t.MetFirst :=
  fun _ => inferInstanceAs (Decidable (_ ∧ _))

/-- The groups before a group in the order of turns have a lower index. -/
theorem Topology.lt_of_allGroups_eq {seen rest : List (Fin t.groupCount)} {g : Fin t.groupCount}
    (h : t.allGroups = seen ++ g :: rest) : ∀ earlier ∈ seen, earlier < g := by
  have hsorted : t.allGroups.Pairwise (· < ·) := List.pairwise_lt_finRange _
  rw [h] at hsorted
  exact fun earlier hmem => (List.pairwise_append.mp hsorted).2.2 earlier hmem g List.mem_cons_self

/-! ## Wakeups that are attained -/

namespace Consensus

/-- **The consensus is attained**: its wakeup, if it has one, is that of
one of the machines. -/
def Attained {n : Nat} (c : Consensus) (machines : List (Fin n)) (statuses : Vector Status n) :
    Prop :=
  ∀ wakeup, c.earliest = some wakeup →
    ∃ id ∈ machines, (statuses.get id).scheduled = some wakeup

/-- The earliest of two wakeups is one of them. -/
theorem earliest_consider {c : Consensus} {other : Option Timestamp} {wakeup : Timestamp}
    (h : (c.consider other).earliest = some wakeup) :
    c.earliest = some wakeup ∨ other = some wakeup := by
  unfold consider at h
  split at h
  · next a b hc =>
    unfold Timestamp.earlier at h
    split at h
    · exact .inl (hc.trans h)
    · exact .inr h
  · next a hc => exact .inl (hc.trans h)
  · exact .inr h

namespace Attained

variable {n : Nat} {c own : Consensus} {machines others : List (Fin n)}
  {statuses : Vector Status n}

theorem merge (h : c.Attained machines statuses) (hown : own.Attained others statuses) :
    (c.merge own).Attained (machines ++ others) statuses := fun wakeup hwakeup => by
  obtain hc | howns := earliest_consider hwakeup
  · obtain ⟨id, hid, hstatus⟩ := h wakeup hc
    exact ⟨id, List.mem_append_left _ hid, hstatus⟩
  · obtain ⟨id, hid, hstatus⟩ := hown wakeup howns
    exact ⟨id, List.mem_append_right _ hid, hstatus⟩

theorem insert (h : c.Attained machines statuses) (id : Fin n) :
    (c.insert (statuses.get id)).Attained (machines ++ [id]) statuses :=
  have hself : Attained ⟨(statuses.get id).scheduled⟩ [id] statuses :=
    fun _ hwakeup => ⟨id, List.mem_singleton_self id, hwakeup⟩
  h.merge hself

/-- Only the machines it speaks of matter. -/
theorem of_statuses (h : c.Attained machines statuses) {later : Vector Status n}
    (heq : ∀ id ∈ machines, later.get id = statuses.get id) : c.Attained machines later :=
  fun wakeup hwakeup => by
    obtain ⟨id, hid, hstatus⟩ := h wakeup hwakeup
    exact ⟨id, hid, heq id hid ▸ hstatus⟩

end Attained

end Consensus

namespace Scheduler

/-! ## A pass, member by member -/

/-- A member's turn moves no other machine, and without an event none. -/
theorem statuses_visitMember (hcalm : t.Calm) (wakesSleepers : Bool) {event : Option Event}
    (acc : Consensus × Scheduler t) (member : Coords × Fin t.machineCount)
    {other : Fin t.machineCount} (h : event = none ∨ other ≠ member.2) :
    (visitMember wakesSleepers event acc member).2.statuses.get other =
      acc.2.statuses.get other := by
  cases event with
  | none => rfl
  | some event => exact statuses_deliver_of_ne hcalm (h.resolve_left nofun) _ _ _ _

/-- **The turns of a group's members** keep the consensus attained: they
attain what they are asked for themselves, and leave alone whoever was
asked before, if they are met there first or get no event. -/
theorem attained_visitMembers (hcalm : t.Calm) (wakesSleepers : Bool) {event : Option Event}
    {outer : Consensus} {asked : List (Fin t.machineCount)} {g : Fin t.groupCount}
    (hfirst : event = none ∨ (t.groups.get g).members.Nodup ∧
      ∀ id ∈ asked, id ∉ (t.groups.get g).members) {s : Scheduler t}
    (h : outer.Attained asked s.statuses) :
    let own := (t.placed g).foldl (visitMember wakesSleepers event) (.idle, s)
    (outer.merge own.1).Attained (asked ++ (t.groups.get g).members) own.2.statuses := by
  have hfold := foldl_split (l := t.placed g) (f := visitMember wakesSleepers event)
    (b := (.idle, s)) (P := fun placed own => outer.Attained asked own.2.statuses ∧
      own.1.Attained (placed.map Prod.snd) own.2.statuses)
    (fun placed member rest own hplaced ⟨houter, hown⟩ => by
      have hstays (other : Fin t.machineCount)
          (hother : other ∈ asked ∨ other ∈ placed.map Prod.snd) :
          (visitMember wakesSleepers event own member).2.statuses.get other =
            own.2.statuses.get other := by
        refine statuses_visitMember hcalm wakesSleepers own member (hfirst.imp_right ?_)
        rintro ⟨hnodup, hasked⟩ rfl
        rw [← t.map_snd_placed, hplaced, List.map_append, List.map_cons] at hnodup hasked
        obtain hmem | hmem := hother
        · exact hasked member.2 hmem (List.mem_append_right _ List.mem_cons_self)
        · exact (List.nodup_append.mp hnodup).2.2 _ hmem _ List.mem_cons_self rfl
      refine ⟨houter.of_statuses fun other h => hstays other (.inl h), ?_⟩
      rw [List.map_append]
      exact (hown.of_statuses fun other h => hstays other (.inr h)).insert member.2)
    ⟨h, fun _ hnone => nomatch hnone⟩
  rw [t.map_snd_placed] at hfold
  exact hfold.1.merge hfold.2

/-- **A group's turn** keeps the consensus attained, if nothing is pending
in it or its members are met there first. -/
theorem attained_visitGroup (hcalm : t.Calm) (wakesSleepers : Bool)
    {asked : List (Fin t.machineCount)} {g : Fin t.groupCount} {acc : Consensus × Scheduler t}
    (hfirst : acc.2.waiting g = [] ∨ (t.groups.get g).members.Nodup ∧
      ∀ id ∈ asked, id ∉ (t.groups.get g).members) (h : acc.1.Attained asked acc.2.statuses) :
    (visitGroup wakesSleepers acc g).1.Attained (asked ++ (t.groups.get g).members)
      (visitGroup wakesSleepers acc g).2.statuses := by
  have hmembers {event : Option Event} (hevent : event = none ∨ acc.2.waiting g ≠ [])
      (s : Scheduler t) (hs : s.statuses = acc.2.statuses) :
      let own := (t.placed g).foldl (visitMember wakesSleepers event) (.idle, s)
      (acc.1.merge own.1).Attained (asked ++ (t.groups.get g).members) own.2.statuses :=
    attained_visitMembers hcalm wakesSleepers
      (hevent.imp_right fun hpending => hfirst.resolve_left hpending) (hs ▸ h)
  obtain ⟨event, rest, hpop, hturn⟩ | ⟨-, hturn⟩ := visitGroup_cases wakesSleepers acc g
  · have hpending : acc.2.waiting g ≠ [] := fun hnil =>
      nomatch hpop.symm.trans ((EventQueue.pop_eq_none_iff _).mpr hnil)
    rw [hturn]
    split <;> exact hmembers (.inr hpending) _ rfl
  · rw [hturn]
    exact hmembers (.inl rfl) _ rfl

/-- What is announced stays so for the rest of the pass. -/
theorem isAnnounced_visitGroup (hcalm : t.Calm) (wakesSleepers : Bool)
    (acc : Consensus × Scheduler t) (g : Fin t.groupCount) (h : IsAnnounced acc.2) :
    IsAnnounced (visitGroup wakesSleepers acc g).2 := by
  have hmembers (event : Option Event) (s : Scheduler t) (hs : IsAnnounced s) :
      IsAnnounced ((t.placed g).foldl (visitMember wakesSleepers event) (.idle, s)).2 := by
    refine List.foldlRecOn (motive := fun acc : Consensus × Scheduler t => IsAnnounced acc.2)
      _ _ hs fun acc hacc member _ => ?_
    cases event with
    | none => exact hacc
    | some event =>
      exact Machine.deliver_keeps (isSign_announced.toLasting.world start)
        (isSign_announced.write member.2) (hcalm member.2) _ _ _ _ _ hacc
  obtain ⟨event, rest, -, hturn⟩ | ⟨-, hturn⟩ := visitGroup_cases wakesSleepers acc g
  · rw [hturn]
    split
    · rfl
    · exact hmembers _ _ h
  · rw [hturn]
    exact hmembers _ _ h

/-- **After all turns the consensus is attained**, or an event is
announced, if the members of all groups with events are met there first. -/
theorem attained_visitAll (hcalm : t.Calm) {s : Scheduler t}
    (hfirst : ∀ g, s.waiting g ≠ [] → t.MetFirst g) :
    IsAnnounced s.visitAll.2 ∨
      s.visitAll.1.Attained (t.allGroups.flatMap fun g => (t.groups.get g).members)
        s.visitAll.2.statuses := by
  -- any other group has nothing pending, or what it has is announced
  have hfold := foldl_split (l := t.allGroups) (f := visitGroup s.flags.timeoutWakesSleepers)
    (b := (.idle, s)) (P := fun seen acc =>
      (∀ late, ¬t.MetFirst late → Heralds IsAnnounced [late] acc.2) ∧
        (IsAnnounced acc.2 ∨ acc.1.Attained
          (seen.flatMap fun g : Fin t.groupCount => (t.groups.get g).members) acc.2.statuses))
    (fun seen g rest acc hsplit ⟨hlate, hattained⟩ => by
      refine ⟨fun late hnot k hk => announced_visitGroup _ [late] g acc (hlate late hnot) k
        (List.mem_append_left _ hk), ?_⟩
      by_cases hannounced : IsAnnounced acc.2
      · exact .inl (isAnnounced_visitGroup hcalm _ acc g hannounced)
      · refine .inr ?_
        rw [List.flatMap_append, List.flatMap_singleton]
        refine attained_visitGroup hcalm _ ?_ (hattained.resolve_left hannounced)
        by_cases hmet : t.MetFirst g
        · refine .inr ⟨hmet.1, fun id hid => ?_⟩
          obtain ⟨earlier, hearlier, hmember⟩ := List.mem_flatMap.mp hid
          exact hmet.2 earlier (Topology.lt_of_allGroups_eq hsplit earlier hearlier) id hmember
        · refine .inl (by_contra fun hpending => hannounced ?_)
          exact hlate g hmet g (List.mem_singleton_self g) hpending)
    ⟨fun late hnot k hk hpending => absurd (hfirst late (List.mem_singleton.mp hk ▸ hpending)) hnot,
      .inr fun _ hnone => nomatch hnone⟩
  exact hfold.2

/-! ## Going to sleep -/

/-- **A change of epoch moves all wakeups alike**: the one that is
committed to and those of the machines. -/
theorem scheduled_settle (consensus : Consensus) (s : Scheduler t) :
    ∃ seen : Timestamp → Timestamp,
      (s.settle consensus).scheduled = consensus.earliest.map seen ∧
        ∀ id, ((s.settle consensus).statuses.get id).scheduled =
          (s.statuses.get id).scheduled.map seen := by
  unfold settle
  dsimp only
  split
  · refine ⟨Timestamp.rebased, ?_, fun id => ?_⟩
    · obtain ⟨_ | wakeup⟩ := consensus <;> rfl
    · change ((s.statuses.map Status.rebased).get id).scheduled = _
      rw [Vector.get_mapped, Status.scheduled_rebased]
  · refine ⟨id, ?_, fun id => Option.map_id_apply.symm⟩
    obtain ⟨_ | wakeup⟩ := consensus <;> rfl

/-- A pass that ends in sleep ends with what was committed to. -/
theorem scheduled_of_sleep {s asleep : Scheduler t} {wakeup : Option Timestamp}
    (hpass : s.pass = (.sleep wakeup, asleep)) : asleep.scheduled = wakeup := by
  obtain ⟨consensus, visited, -, -, -, hwakeup, rfl⟩ := sleep_of_pass hpass
  exact hwakeup.symm

/-- **It is never too late** for a member of a group. -/
theorem reached_of_sleep (hcalm : t.Calm) {s asleep : Scheduler t} {wakeup : Option Timestamp}
    (hpass : s.pass = (.sleep wakeup, asleep)) {id : Fin t.machineCount} (hid : t.Hosts id)
    {w : Timestamp} (hw : (asleep.statuses.get id).scheduled = some w) :
    ∃ e, wakeup = some e ∧ w.atOrAfter e = true := by
  obtain ⟨hcommitted, hle, -⟩ := guarded_of_sleep hcalm hpass id hid w hw
  have hscheduled : asleep.scheduled = some asleep.wakeup := by
    unfold scheduled
    rw [hcommitted]
    rfl
  exact ⟨asleep.wakeup, (scheduled_of_sleep hpass).symm.trans hscheduled,
    Timestamp.atOrAfter_iff.mpr hle⟩

/-- **It is that of a member**, if the members of all groups with events
are met there first. -/
theorem attained_of_sleep (hcalm : t.Calm) {s asleep : Scheduler t} {wakeup : Option Timestamp}
    (hpass : s.pass = (.sleep wakeup, asleep)) (hfirst : ∀ g, s.waiting g ≠ [] → t.MetFirst g)
    {e : Timestamp} (he : wakeup = some e) :
    ∃ id, t.Hosts id ∧ (asleep.statuses.get id).scheduled = some e := by
  obtain ⟨consensus, visited, hvisit, hqueued, -, hwakeup, rfl⟩ := sleep_of_pass hpass
  have hvisited := attained_visitAll (s := s.inPass) hcalm hfirst
  rw [hvisit] at hvisited
  have hattained := hvisited.resolve_left (ne_true_of_eq_false hqueued)
  obtain ⟨seen, hcommitted, hstatuses⟩ := scheduled_settle consensus visited
  obtain ⟨before, hbefore, rfl⟩ :=
    Option.map_eq_some_iff.mp (hcommitted.symm.trans (hwakeup.symm.trans he))
  obtain ⟨id, hmember, hstatus⟩ := hattained before hbefore
  obtain ⟨g, -, hid⟩ := List.mem_flatMap.mp hmember
  refine ⟨id, ⟨g, hid⟩, (hstatuses id).trans ?_⟩
  rw [hstatus]
  rfl

/-- **The earliest wakeup** of the members of all groups: one of them has
it, and none an earlier one. -/
def IsEarliest (s : Scheduler t) (wakeup : Timestamp) : Prop :=
  (∃ id, t.Hosts id ∧ (s.statuses.get id).scheduled = some wakeup) ∧
    ∀ id, t.Hosts id → ∀ w, (s.statuses.get id).scheduled = some w → w.atOrAfter wakeup = true

/-- There is only one. -/
theorem IsEarliest.eq {s : Scheduler t} {a b : Timestamp} (ha : s.IsEarliest a)
    (hb : s.IsEarliest b) : a = b := by
  obtain ⟨⟨i, hi, hia⟩, hamin⟩ := ha
  obtain ⟨⟨j, hj, hjb⟩, hbmin⟩ := hb
  exact Timestamp.value_inj.mp (Nat.le_antisymm
    (Timestamp.atOrAfter_iff.mp (hamin j hj b hjb)) (Timestamp.atOrAfter_iff.mp (hbmin i hi a hia)))

/-- **What a pass commits to.** A pass ends in sleep, and no handler resets
the scheduler or starts it again. Then the scheduler has committed to the
wakeup that the pass ended with, and no member of a group has an earlier
one. If the members of all groups that had events when the pass began are
met there first, then it is the earliest wakeup of all members, and there
is none exactly if all of them are in infinite sleep. -/
theorem sleeps_until_earliest (hcalm : t.Calm) {s asleep : Scheduler t}
    {wakeup : Option Timestamp} (hpass : s.pass = (.sleep wakeup, asleep)) :
    asleep.scheduled = wakeup ∧
      (∀ id, t.Hosts id → ∀ w, (asleep.statuses.get id).scheduled = some w →
        ∃ e, wakeup = some e ∧ w.atOrAfter e = true) ∧
      ((∀ g, s.waiting g ≠ [] → t.MetFirst g) →
        (∀ e, wakeup = some e ↔ asleep.IsEarliest e) ∧
          (wakeup = none ↔ ∀ id, t.Hosts id → (asleep.statuses.get id).scheduled = none)) := by
  refine ⟨scheduled_of_sleep hpass, fun _ hid _ => reached_of_sleep hcalm hpass hid,
    fun hfirst => ?_⟩
  have hearliest {e : Timestamp} (he : wakeup = some e) : asleep.IsEarliest e := by
    refine ⟨attained_of_sleep hcalm hpass hfirst he, fun id hid w hw => ?_⟩
    obtain ⟨e', he', hle⟩ := reached_of_sleep hcalm hpass hid hw
    rwa [Option.some.inj (he.symm.trans he')]
  refine ⟨fun e => ⟨hearliest, fun h => ?_⟩, fun hnone id hid => ?_, fun hidle => ?_⟩
  · obtain ⟨id, hid, hw⟩ := h.1
    obtain ⟨e', he', -⟩ := reached_of_sleep hcalm hpass hid hw
    rw [he', (hearliest he').eq h]
  · refine Option.eq_none_iff_forall_ne_some.mpr fun w hw => ?_
    obtain ⟨e, he, -⟩ := reached_of_sleep hcalm hpass hid hw
    exact nomatch hnone.symm.trans he
  · refine Option.eq_none_iff_forall_ne_some.mpr fun e he => ?_
    obtain ⟨id, hid, hw⟩ := (hearliest he).1
    exact nomatch (hidle id hid).symm.trans hw

/-! ## A machine in two groups -/

/-- A machine that event 1 sends to sleep for five ticks and event 2 for
good. -/
def dozer : Machine Unit where
  table :=
    { (Alarm.machine 5).table with
      events := 3
      cells := #v[⟨some .rest, 0⟩, ⟨some fun _ => .delay 5 .done, 0⟩, ⟨some .rest, 0⟩]
      events_pos := by decide
      events_le := by decide
      target_lt := fun cell hcell _ => by
        obtain ⟨⟨hcell⟩⟩ := hcell
        simp only [List.mem_cons, List.not_mem_nil, or_false] at hcell
        obtain rfl | rfl | rfl := hcell <;> decide }
  init := none

/-- The machine in two groups, each with a queue of its own. -/
def dozing : Topology Unit :=
  { Alarm.topology 0 with
    config := ⟨"dozer", ⟨0, .beforeHandler⟩, true, 0⟩
    machines := #v[dozer]
    groupCount := 2
    groups := .replicate 2 ((Alarm.topology 0).groups.get Alarm.group)
    groupCount_le := by decide }

theorem calm_dozing : dozing.Calm := by
  rintro ⟨_ | _, hlt⟩ handler ⟨state, code, target, hcell⟩ view
  · obtain ⟨⟨hmem⟩⟩ := Table.mem_cells hcell
    have hcells : (⟨some handler, target⟩ : Cell (Handler Unit)) ∈
        [⟨some .rest, 0⟩, ⟨some fun _ => .delay 5 .done, 0⟩, ⟨some .rest, 0⟩] := hmem
    simp only [List.mem_cons, List.not_mem_nil, or_false, Cell.mk.injEq,
      Option.some.injEq] at hcells
    obtain ⟨rfl, -⟩ | ⟨rfl, -⟩ | ⟨rfl, -⟩ := hcells
    · trivial
    · trivial
    · trivial
  · exact absurd hlt (by simp [dozing, Alarm.topology])

/-- With an event for the first group alone, the machine is met there first
and the pass commits to its wakeup. -/
theorem sleeps_until_earliest_dozing :
    ∃ s, build dozing () = .ok s ∧
      let s := s.performAll [.post 0 false ⟨1, 0⟩]
      dozing.Calm ∧ s.pass = (.sleep (some ⟨5, false⟩), s.pass.2) ∧
        (∀ g, s.waiting g ≠ [] → dozing.MetFirst g) ∧ s.waiting (0 : Fin 2) ≠ [] ∧
        s.pass.2.scheduled = some ⟨5, false⟩ ∧ s.pass.2.IsEarliest ⟨5, false⟩ := by
  refine ⟨_, rfl, ?_⟩
  intro s
  have hsleep : s.pass.1 = .sleep (some ⟨5, false⟩) := by decide +kernel
  have hpass : s.pass = (.sleep (some ⟨5, false⟩), s.pass.2) := by rw [← hsleep]
  have hfirst : ∀ g, s.waiting g ≠ [] → dozing.MetFirst g := by decide +kernel
  obtain ⟨hscheduled, -, hexact⟩ := sleeps_until_earliest calm_dozing hpass
  exact ⟨calm_dozing, hpass, hfirst, by decide +kernel, hscheduled,
    ((hexact hfirst).1 _).mp rfl⟩

/-- **A wakeup that nobody has any more** is committed to: the first group
hands over event 1, and the second event 2, which sends the machine to
sleep for good after it was asked for its wakeup. -/
theorem oversleeps_nobody_dozing :
    ∃ s, build dozing () = .ok s ∧
      let s := s.performAll [.post 0 false ⟨1, 0⟩, .post 1 false ⟨2, 0⟩]
      Reachable s ∧ dozing.Calm ∧ s.pass.1 = .sleep (some ⟨5, false⟩) ∧
        s.pass.2.scheduled = some ⟨5, false⟩ ∧
        ∀ id, dozing.Hosts id ∧ (s.pass.2.statuses.get id).scheduled = none := by
  refine ⟨_, rfl, ?_⟩
  intro s
  have hidle : ∀ id, (s.pass.2.statuses.get id).scheduled = none := by decide +kernel
  refine ⟨(Reachable.built rfl).performAll _, calm_dozing, by decide +kernel, by decide +kernel,
    fun id => ⟨⟨(0 : Fin 2), ?_⟩, hidle id⟩⟩
  obtain rfl : id = (0 : Fin 1) := Subsingleton.elim (α := Fin 1) id 0
  exact List.mem_cons_self

end Scheduler

end TimedMachines
