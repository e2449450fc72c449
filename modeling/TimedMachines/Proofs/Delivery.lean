import Mathlib.Data.List.Basic
import TimedMachines.Proofs.Alarm
import TimedMachines.Proofs.Chronicle

/-!
# Every accepted event is delivered once and in order

A queue promises two things of an event that it accepts: the event waits
its turn, and it goes to the members of the group once. Neither can be
said of a state. Both can be said of a chronicle, in which a group's
pushes and turns stand in the order in which they happened.

The first promise is a law of conservation: what a group has **accepted**
is what it has **taken**, followed by what is pending (`accepted_eq`).
It holds at every moment, also in the middle of a pass, since each single
incident either leaves a group's queue alone or does to it what the
incident says (`Incident.Leads`): so the moments of a chronicle are
**unbroken** (`lasting_unbroken`). The case to look at is an event that
coalesces. It changes the last accepted event, which may have been taken
already – but only if nothing is pending, and then nothing coalesces.

The second promise is about the passes. A pass that does not end in an
exit is a round of turns, one for each group and in their order, and a
turn with an event hands it to all members, in their order
(`deliveries_pass`). Whatever is accepted after a group's turn is still
pending when the pass is over.
-/

namespace TimedMachines

variable {μ : Type} {t : Topology μ}

/-! ## What a group accepted and what it took -/

/-- Some events with other data in the last one. -/
def renewLast (data : EventData) (events : List Event) : List Event :=
  match events.getLast? with
  | some newest => events.dropLast ++ [{ newest with data := data }]
  | none => events

/-- **Some events after a push** with the given answer: one event more,
other data in the last one, or no difference. -/
def accept (event : Event) (events : List Event) : Except Error Enqueued → List Event
  | .ok .appended => events ++ [event]
  | .ok .coalesced => renewLast event.data events
  | .error _ => events

namespace Incident

/-- What a group has accepted since startup, after an incident more. -/
def accepted (g : Fin t.groupCount) (events : List Event) : Incident t → List Event
  | .pushed k event answer => if k = g then accept event events answer else events
  | .rewound => []
  | _ => events

/-- What a group has taken since startup, after an incident more. -/
def taken (g : Fin t.groupCount) (events : List Event) : Incident t → List Event
  | .turn k event => if k = g then events ++ event.toList else events
  | .rewound => []
  | _ => events

/-- **What an incident does to a group's pending events.** A push that
coalesces finds some, and a turn takes the first. -/
def Leads (g : Fin t.groupCount) (before after : List Event) : Incident t → Prop
  | .pushed k event answer =>
    if k = g then
      (answer = .ok .coalesced → before ≠ []) ∧ after = accept event before answer
    else after = before
  | .turn k event => if k = g then before = event.toList ++ after else after = before
  | .rewound => after = []
  | _ => after = before

end Incident

/-- **What a group has accepted** since startup: the results of all pushes
on its queue, in order. -/
def accepted (g : Fin t.groupCount) (chronicle : List (Moment t)) : List Event :=
  chronicle.foldr (fun m events => m.incident.accepted g events) []

/-- **What a group has taken** from its queue since startup, in order. -/
def taken (g : Fin t.groupCount) (chronicle : List (Moment t)) : List Event :=
  chronicle.foldr (fun m events => m.incident.taken g events) []

theorem renewLast_append {pending : List Event} (h : pending ≠ []) (data : EventData)
    (before : List Event) :
    renewLast data (before ++ pending) = before ++ renewLast data pending := by
  obtain ⟨newest, hnewest⟩ := Option.ne_none_iff_exists'.mp (mt List.getLast?_eq_none_iff.mp h)
  unfold renewLast
  rw [List.getLast?_append, List.dropLast_append_of_ne_nil h, hnewest]
  exact List.append_assoc ..

/-- What came before the pending events does not matter to a push. -/
theorem accept_append {pending : List Event} {answer : Except Error Enqueued}
    (h : answer = .ok .coalesced → pending ≠ []) (event : Event) (before : List Event) :
    accept event (before ++ pending) answer = before ++ accept event pending answer := by
  match answer with
  | .ok .appended => exact List.append_assoc ..
  | .ok .coalesced => exact renewLast_append (h rfl) _ _
  | .error _ => rfl

/-! ## Unbroken chronicles -/

/-- **The moments of a chronicle follow from one another**, as far as a
group's pending events are concerned: they begin with `first` and are
`now` in the end, and each incident leads from what was pending before it
to what is pending after it. -/
inductive Unbroken (g : Fin t.groupCount) (first : List Event) :
    List (Moment t) → List Event → Prop where
  /-- Nothing has happened. -/
  | nil : Unbroken g first [] first
  /-- One incident more. -/
  | cons {m : Moment t} {older : List (Moment t)} {before : List Event}
      (h : Unbroken g first older before)
      (hleads : m.incident.Leads g before (m.scheduler.waiting g)) :
      Unbroken g first (m :: older) (m.scheduler.waiting g)

namespace Unbroken

variable {g : Fin t.groupCount} {first now : List Event}

/-- What is pending now is what was pending at the last moment. -/
theorem eq_waiting {m : Moment t} {older : List (Moment t)}
    (h : Unbroken g first (m :: older) now) : now = m.scheduler.waiting g := by
  cases h
  rfl

/-- An unbroken chronicle can be read in two parts. -/
theorem split {newer older : List (Moment t)} (h : Unbroken g first (newer ++ older) now) :
    ∃ between, Unbroken g first older between ∧ Unbroken g between newer now := by
  induction newer generalizing now with
  | nil => exact ⟨now, h, .nil⟩
  | cons m newer ih =>
    cases h with
    | cons h hleads =>
      obtain ⟨between, holder, hnewer⟩ := ih h
      exact ⟨between, holder, .cons hnewer hleads⟩

/-- **What was accepted is what was taken and what is pending.** -/
theorem accepted_eq {chronicle : List (Moment t)} (h : Unbroken g [] chronicle now) :
    accepted g chronicle = taken g chronicle ++ now := by
  induction h with
  | nil => rfl
  | @cons m older before _ hleads ih =>
    rw [accepted, taken, List.foldr_cons, List.foldr_cons, ← accepted, ← taken, ih]
    generalize m.scheduler.waiting g = after at hleads
    cases hincident : m.incident with
    | pushed k event answer =>
      rw [hincident] at hleads
      simp only [Incident.Leads, Incident.accepted, Incident.taken] at *
      split at hleads
      · next hk =>
        rw [if_pos hk, hleads.2, accept_append hleads.1]
      · next hk =>
        rw [if_neg hk, hleads]
    | turn k event =>
      rw [hincident] at hleads
      simp only [Incident.Leads, Incident.accepted, Incident.taken] at *
      split at hleads
      · next hk =>
        rw [if_pos hk, hleads, List.append_assoc]
      · next hk =>
        rw [if_neg hk, hleads]
    | rewound =>
      rw [hincident] at hleads
      exact hleads.symm
    | posted _ _ _ | asked _ | reported _ | handed _ _ _ =>
      rw [hincident] at hleads
      exact congrArg (taken g older ++ ·) hleads.symm

/-- **Without a turn nothing is taken**: what is pending in the end is what
was pending in the beginning, with all that was accepted in between. -/
theorem eq_of_no_turn {chronicle : List (Moment t)} (h : Unbroken g first chronicle now)
    (hturn : ∀ m ∈ chronicle, ∀ event, m.incident ≠ .turn g event) :
    now = chronicle.foldr (fun m events => m.incident.accepted g events) first := by
  induction h with
  | nil => rfl
  | @cons m older before _ hleads ih =>
    have holder := ih fun k hk => hturn k (List.mem_cons_of_mem m hk)
    have hnot := hturn m List.mem_cons_self
    rw [List.foldr_cons, ← holder]
    generalize m.scheduler.waiting g = after at hleads
    cases hincident : m.incident with
    | pushed k event answer =>
      rw [hincident] at hleads
      simp only [Incident.Leads, Incident.accepted] at *
      split at hleads
      · next hk => rw [if_pos hk, hleads.2]
      · next hk => rw [if_neg hk, hleads]
    | turn k event =>
      rw [hincident] at hleads hnot
      have hk : k ≠ g := fun hk => hnot event (hk ▸ rfl)
      simp only [Incident.Leads, if_neg hk] at hleads
      exact hleads
    | rewound | posted _ _ _ | asked _ | reported _ | handed _ _ _ =>
      rw [hincident] at hleads
      exact hleads

end Unbroken

namespace Chronicled

/-- **A push leads from what was pending before it to what is pending
after it.** -/
theorem leads_post {g k : Fin t.groupCount} {group : UInt8} (hgroup : t.group? group = .ok k)
    (forceNew : Bool) (event : Event) (s : Scheduler t) :
    (Incident.pushed k event (s.post group forceNew event).1).Leads g (s.waiting g)
      ((s.post group forceNew event).2.waiting g) := by
  obtain ⟨e, he, -⟩ | ⟨l, hl, hcases⟩ := s.post_cases group forceNew event
  · rw [hgroup] at he
    cases he
  · obtain rfl : k = l := Except.ok.inj (hgroup.symm.trans hl)
    simp only [Incident.Leads]
    split
    · next hk =>
      subst hk
      obtain ⟨hfree, hpost⟩ | ⟨hpending, hpost⟩ | ⟨-, hpost⟩ := hcases
      · rw [hpost]
        refine ⟨nofun, (congrArg EventQueue.toList (Vector.get_put_self ..)).trans ?_⟩
        exact (s.queues.get k).toList_append event hfree
      · rw [hpost]
        refine ⟨fun _ => (s.queues.get k).toList_ne_nil hpending, ?_⟩
        have hlist : ((s.queues.put k ((s.queues.get k).replaceNewest event.data)).get k).toList =
            accept event (s.waiting k) (.ok .coalesced) := by
          rw [Vector.get_put_self, EventQueue.toList_replaceNewest _ _ hpending]
          simp only [accept, renewLast, Scheduler.waiting, EventQueue.getLast?_toList _ hpending]
        split
        · exact hlist
        · exact hlist
      · rw [hpost]
        exact ⟨nofun, rfl⟩
    · next hk =>
      obtain ⟨-, hpost⟩ | ⟨-, hpost⟩ | ⟨-, hpost⟩ := hcases
      · rw [hpost]
        exact congrArg EventQueue.toList (Vector.get_put_of_ne _ _ (Ne.symm hk))
      · rw [hpost]
        split <;> exact congrArg EventQueue.toList (Vector.get_put_of_ne _ _ (Ne.symm hk))
      · rw [hpost]
        rfl

/-- **Chronicles are unbroken**, whatever happens. -/
theorem lasting_unbroken (g : Fin t.groupCount) (first : List Event) :
    Lasting fun u : Chronicled t => Unbroken g first u.chronicle (u.scheduler.waiting g) where
  update f u hqueues _ h := by
    have hsame : (u.update f).scheduler.waiting g = u.scheduler.waiting g :=
      congrArg (fun queues => (Vector.get queues g).toList) hqueues
    rw [hsame]
    exact h
  quiet incident u hquiet h := by
    refine .cons (m := ⟨incident, u.scheduler⟩) h ?_
    cases incident with
    | posted _ _ _ | asked _ | reported _ => rfl
    | pushed _ _ _ | rewound | turn _ _ | handed _ _ _ => cases hquiet
  post group forceNew event u h := by
    unfold Chronicled.post
    cases hgroup : t.group? group with
    | error e =>
      have hpost : u.scheduler.post group forceNew event =
          (.error e, u.scheduler.note (.noSuchGroup group event)) := by
        unfold Scheduler.post
        rw [hgroup]
      rw [hpost]
      exact h
    | ok k => exact .cons h (leads_post hgroup forceNew event u.scheduler)
  exit _ h := .cons h rfl
  requestExit _ h := h
  rewind u h := by
    have hempty : u.scheduler.rewind.waiting g = [] := by
      simp only [Scheduler.waiting, Scheduler.rewind, Vector.get_mapped, EventQueue.toList_clear]
    exact .cons h hempty
  handed _ _ _ u h := .cons h rfl
  turn k u h := by
    unfold Chronicled.turn
    dsimp only
    split
    · next event rest hpop =>
      refine .cons h ?_
      have hlist := EventQueue.toList_of_pop hpop
      simp only [Incident.Leads]
      split
      · next hk =>
        subst hk
        refine hlist.trans (congrArg (event :: ·) ?_)
        exact congrArg EventQueue.toList (Vector.get_put_self ..).symm
      · next hk => exact congrArg EventQueue.toList (Vector.get_put_of_ne _ _ (Ne.symm hk))
    · next hpop =>
      refine .cons h ?_
      simp only [Incident.Leads]
      split <;> rfl

/-! ## A pass is a round of turns -/

/-- **The turns and deliveries of a chronicle**, in order. -/
def deliveries (chronicle : List (Moment t)) : List (Incident t) :=
  (chronicle.reverse.map (·.incident)).filter Incident.isDelivery

/-- **A group's turn**: it takes an event, if there is one, and hands it to
its members at all their positions. -/
def round (g : Fin t.groupCount) (event : Option Event) : List (Incident t) :=
  .turn g event ::
    event.toList.flatMap fun event =>
      (t.placed g).map fun member => .handed member.1 member.2 event

/-- What was delivered since the chronicle was `base`. -/
def Delivers (base : List (Moment t)) (delivered : List (Incident t)) (u : Chronicled t) : Prop :=
  ∃ recent, u.chronicle = recent ++ base ∧ deliveries recent = delivered

variable {base : List (Moment t)} {delivered : List (Incident t)}

theorem deliveries_cons (m : Moment t) (older : List (Moment t)) :
    deliveries (m :: older) =
      deliveries older ++ if m.incident.isDelivery then [m.incident] else [] := by
  unfold deliveries
  rw [List.reverse_cons, List.map_append, List.filter_append]
  cases h : m.incident.isDelivery with
  | true => simp [h]
  | false => simp [h]

/-- Nothing is delivered between deliveries. -/
theorem kept_delivers (base : List (Moment t)) (delivered : List (Incident t)) :
    Kept (Delivers base delivered) :=
  Kept.of_chronicle (P := fun chronicle =>
      ∃ recent, chronicle = recent ++ base ∧ deliveries recent = delivered)
    fun m older hm ⟨recent, hrecent, hdelivered⟩ => by
      refine ⟨m :: recent, congrArg (m :: ·) hrecent, ?_⟩
      rw [deliveries_cons, hm, if_neg Bool.false_ne_true, List.append_nil, hdelivered]

theorem Delivers.add {u : Chronicled t} (h : Delivers base delivered u) {incident : Incident t}
    (hdelivery : incident.isDelivery = true) :
    Delivers base (delivered ++ [incident]) (u.add incident) := by
  obtain ⟨recent, hrecent, rfl⟩ := h
  refine ⟨⟨incident, u.scheduler⟩ :: recent, congrArg (_ :: ·) hrecent, ?_⟩
  rw [deliveries_cons, if_pos hdelivery]

/-- A group's turn begins with taking its oldest event. -/
theorem Delivers.turn {u : Chronicled t} (h : Delivers base delivered u) (g : Fin t.groupCount) :
    Delivers base (delivered ++ [.turn g (u.turn g).1]) (u.turn g).2.2 := by
  have hupdated (f f' : Scheduler t → Scheduler t) :
      Delivers base delivered ((u.update f).update f') := h
  unfold Chronicled.turn
  dsimp only
  split
  · exact (hupdated _ _).add rfl
  · exact (hupdated _ _).add rfl

/-- An event goes to one member after the other. -/
theorem Delivers.visitMembers {acc : Consensus × Chronicled t} (h : Delivers base delivered acc.2)
    (wakesSleepers : Bool) (event : Option Event) (members : List (Coords × Fin t.machineCount)) :
    Delivers base (delivered ++ event.toList.flatMap fun event =>
        members.map fun member => .handed member.1 member.2 event)
      (members.foldl (visitMember wakesSleepers event) acc).2 := by
  cases event with
  | none =>
    rw [Option.toList_none, List.flatMap_nil, List.append_nil]
    induction members generalizing acc with
    | nil => exact h
    | cons member rest ih => exact @ih (visitMember wakesSleepers none acc member) h
  | some event =>
    rw [Option.toList_some, List.flatMap_singleton]
    induction members generalizing acc delivered with
    | nil => rwa [List.map_nil, List.append_nil]
    | cons member rest ih =>
      rw [List.map_cons, List.append_cons]
      exact ih ((kept_delivers base _).deliver _ _ _ _ _ (h.add rfl))

/-- **A group's turn is one round.** -/
theorem Delivers.visitGroup {acc : Consensus × Chronicled t} (h : Delivers base delivered acc.2)
    (wakesSleepers : Bool) (g : Fin t.groupCount) :
    Delivers base (delivered ++ round g (acc.2.turn g).1) (visitGroup wakesSleepers acc g).2 := by
  have hturn : Delivers base (delivered ++ [.turn g (acc.2.turn g).1])
      (Consensus.idle, (acc.2.turn g).2.2).2 := h.turn g
  have hmembers := hturn.visitMembers wakesSleepers (acc.2.turn g).1 (t.placed g)
  rw [← List.append_cons] at hmembers
  unfold Chronicled.visitGroup
  dsimp only
  split
  · exact hmembers
  · exact hmembers

/-- **All groups have their turns**, one each and in order. -/
theorem delivers_visitAll {u : Chronicled t} (h : Delivers base [] u) :
    ∃ took : Fin t.groupCount → Option Event,
      Delivers base (t.allGroups.flatMap fun g => round g (took g)) u.visitAll.2 := by
  refine Scheduler.foldl_split (P := fun seen (acc : Consensus × Chronicled t) =>
    ∃ took : Fin t.groupCount → Option Event,
      Delivers base (seen.flatMap fun g => round g (took g)) acc.2)
    (fun seen g rest acc hsplit hacc => ?_) ⟨fun _ => none, h⟩
  obtain ⟨took, htook⟩ := hacc
  have hevent := htook.visitGroup u.scheduler.flags.timeoutWakesSleepers g
  -- no group has two turns
  have hnew : g ∉ seen := Topology.notMem_of_allGroups_eq hsplit
  refine ⟨fun k => if k = g then (acc.2.turn g).1 else took k, ?_⟩
  have hseen : (seen.flatMap fun k => round k (if k = g then (acc.2.turn g).1 else took k)) =
      seen.flatMap fun k => round k (took k) := by
    refine List.flatMap_congr fun k hk => ?_
    rw [if_neg (ne_of_mem_of_not_mem hk hnew)]
  simp only [List.flatMap_append, List.flatMap_singleton, hseen, if_true]
  exact hevent

/-- **A pass that does not end in an exit is a round of turns.** -/
theorem deliveries_pass {u v : Chronicled t} {step : Step} (h : u.pass = (step, v))
    (hstep : step ≠ .exit) :
    ∃ recent, v.chronicle = recent ++ u.chronicle ∧
      ∃ took : Fin t.groupCount → Option Event,
        deliveries recent = t.allGroups.flatMap fun g => round g (took g) := by
  have hbegun : Delivers u.chronicle [] (u.update Scheduler.inPass) := ⟨[], rfl, rfl⟩
  obtain ⟨took, hvisited⟩ := delivers_visitAll hbegun
  have hkept := kept_delivers u.chronicle (t.allGroups.flatMap fun g => round g (took g))
  have hpass : Delivers u.chronicle (t.allGroups.flatMap fun g => round g (took g)) v := by
    unfold pass at h
    dsimp only at h
    split at h
    · cases h
      exact absurd rfl hstep
    · split at h
      · cases h
        exact hkept.update _ _ rfl rfl hvisited
      · unfold commit at h
        split at h
        · cases h
          exact hkept.fireTimeout _ hvisited
        · next hdue =>
          cases h
          obtain ⟨hqueues, hexit⟩ := queues_commit (Bool.eq_false_iff.mpr hdue)
          exact hkept.update (fun s => (s.commit _).2) _ hqueues hexit hvisited
  obtain ⟨recent, hrecent, hdeliveries⟩ := hpass
  exact ⟨recent, hrecent, took, hdeliveries⟩

/-! ## What waits for the next pass -/

theorem mem_deliveries {chronicle : List (Moment t)} {m : Moment t} (hm : m ∈ chronicle)
    (hdelivery : m.incident.isDelivery = true) :
    m.incident ∈ deliveries chronicle :=
  List.mem_filter.mpr ⟨List.mem_map_of_mem (List.mem_reverse.mpr hm), hdelivery⟩

/-- Every delivery has its moment, after which come the later ones. -/
theorem exists_moment {recent : List (Moment t)} {front back : List (Incident t)}
    {incident : Incident t} (h : deliveries recent = front ++ incident :: back) :
    ∃ after m before, recent = after ++ m :: before ∧ m.incident = incident ∧
      deliveries after = back := by
  induction recent generalizing back with
  | nil => exact absurd h.symm (List.append_ne_nil_of_right_ne_nil _ (List.cons_ne_nil _ _))
  | cons m older ih =>
    rw [deliveries_cons] at h
    cases hdelivery : m.incident.isDelivery with
    | false =>
      rw [hdelivery, if_neg Bool.false_ne_true, List.append_nil] at h
      obtain ⟨after, k, before, rfl, hk, rfl⟩ := ih h
      refine ⟨m :: after, k, before, rfl, hk, ?_⟩
      rw [deliveries_cons, hdelivery, if_neg Bool.false_ne_true, List.append_nil]
    | true =>
      rw [hdelivery, if_pos rfl] at h
      obtain rfl | ⟨back, last, rfl⟩ := List.eq_nil_or_concat' back
      · exact ⟨[], m, older, rfl, (List.append_inj' h rfl).2 |> List.singleton_inj.mp, rfl⟩
      · rw [← List.cons_append, ← List.append_assoc] at h
        obtain ⟨holder, hlast⟩ := List.append_inj' h rfl
        obtain ⟨after, k, before, rfl, hk, rfl⟩ := ih holder
        refine ⟨m :: after, k, before, rfl, hk, ?_⟩
        rw [deliveries_cons, hdelivery, if_pos rfl, hlast]

/-- A round has no turn but its own. -/
theorem eq_of_mem_round {g k : Fin t.groupCount} {event event' : Option Event}
    (h : Incident.turn g event ∈ round k event') : k = g := by
  obtain h | h := List.mem_cons.mp h
  · cases h
    rfl
  · obtain ⟨e, -, he⟩ := List.mem_flatMap.mp h
    obtain ⟨member, -, hmember⟩ := List.mem_map.mp he
    cases hmember

/-- **In rounds of turns each group has one**, and none after it. -/
theorem exists_turn {recent : List (Moment t)} {took : Fin t.groupCount → Option Event}
    (h : deliveries recent = t.allGroups.flatMap fun g => round g (took g))
    (g : Fin t.groupCount) :
    ∃ after m before, recent = after ++ m :: before ∧ m.incident = .turn g (took g) ∧
      ∀ k ∈ after, ∀ event, k.incident ≠ .turn g event := by
  obtain ⟨seen, rest, hsplit⟩ := List.append_of_mem (List.mem_finRange g)
  have hnodup : (seen ++ g :: rest).Nodup := hsplit ▸ List.nodup_finRange _
  have hlast : g ∉ rest := (List.nodup_cons.mp (List.nodup_append.mp hnodup).2.1).1
  rw [Topology.allGroups, hsplit, List.flatMap_append, List.flatMap_cons, round,
    List.cons_append] at h
  obtain ⟨after, m, before, hrecent, hm, hafter⟩ := exists_moment h
  refine ⟨after, m, before, hrecent, hm, fun k hk event hturn => ?_⟩
  have hmem := mem_deliveries hk (hturn ▸ rfl)
  rw [hafter, hturn] at hmem
  obtain hmem | hmem := List.mem_append.mp hmem
  · -- the deliveries of the turn itself
    obtain ⟨e, -, he⟩ := List.mem_flatMap.mp hmem
    obtain ⟨member, -, hmember⟩ := List.mem_map.mp he
    cases hmember
  · obtain ⟨l, hl, hround⟩ := List.mem_flatMap.mp hmem
    exact hlast (eq_of_mem_round hround ▸ hl)

/-- A scheduler that was just put together has nothing pending. -/
theorem waiting_of_build {memory : μ} {s : Scheduler t} (h : Scheduler.build t memory = .ok s)
    (g : Fin t.groupCount) : s.waiting g = [] := by
  obtain ⟨-, rfl⟩ := Scheduler.eq_of_build h
  simp only [Scheduler.waiting, Vector.get_mapped, (t.groups.get g).queue_empty]

/-- **Every accepted event is delivered once and in order.** Whatever is
done to a scheduler, at every moment of the run – also within a pass, and
whether the pushes come from producers, handlers, broadcasts or timeouts –
what a group has accepted since startup is what it has taken followed by
what is pending. A pass that does not end in an exit is a round of turns
in the order of the groups: each takes one event at most and hands just
that to each of its members once, in the order of their positions. And
when the pass is over, a group still has pending what its turn had left,
with everything that it has accepted since then. -/
theorem delivered_once_in_order {memory : μ} {s : Scheduler t}
    (h : Scheduler.build t memory = .ok s) (operations : List Operation) :
    let u := (of s).performAll operations
    u.scheduler = s.performAll operations ∧
      (∀ g, accepted g u.chronicle = taken g u.chronicle ++ u.scheduler.waiting g) ∧
      (∀ newer m older, u.chronicle = newer ++ m :: older → ∀ g,
        accepted g (m :: older) = taken g (m :: older) ++ m.scheduler.waiting g) ∧
      ∀ step v, u.pass = (step, v) → step ≠ .exit →
        u.scheduler.pass = (step, v.scheduler) ∧
        ∃ (recent : List (Moment t)) (took : Fin t.groupCount → Option Event),
          v.chronicle = recent ++ u.chronicle ∧
          deliveries recent = (t.allGroups.flatMap fun g => round g (took g)) ∧
          ∀ g, ∃ after m before, recent = after ++ m :: before ∧
            m.incident = .turn g (took g) ∧
            v.scheduler.waiting g =
              after.foldr (fun k events => k.incident.accepted g events)
                (m.scheduler.waiting g) := by
  intro u
  have hunbroken (g : Fin t.groupCount) : Unbroken g [] u.chronicle (u.scheduler.waiting g) := by
    refine (lasting_unbroken g []).performAll operations (of s) ?_
    rw [scheduler_of, waiting_of_build h]
    exact .nil
  refine ⟨scheduler_performAll _ _, fun g => (hunbroken g).accepted_eq,
    fun newer m older hsplit g => ?_, fun step v hpass hstep => ?_⟩
  · have hwhole := hunbroken g
    rw [hsplit] at hwhole
    obtain ⟨between, holder, -⟩ := hwhole.split
    exact holder.eq_waiting ▸ holder.accepted_eq
  · obtain ⟨recent, hrecent, took, hdeliveries⟩ := deliveries_pass hpass hstep
    refine ⟨by rw [scheduler_pass, hpass]; rfl, recent, took, hrecent, hdeliveries, fun g => ?_⟩
    obtain ⟨after, m, before, rfl, hm, hno⟩ := exists_turn hdeliveries g
    refine ⟨after, m, before, rfl, hm, ?_⟩
    have hpassed := (lasting_unbroken g []).passing.pass u (hunbroken g)
    rw [hpass] at hpassed
    dsimp only at hpassed
    rw [hrecent, List.append_assoc, List.cons_append] at hpassed
    obtain ⟨between, holder, hafter⟩ := hpassed.split
    rw [hafter.eq_of_no_turn hno, holder.eq_waiting]

/-- An alarm is set three times before the pass that sets it first. The
last two of the events share a slot, and go on waiting. -/
theorem delivered_once_in_order_alarm :
    let operations : List Operation :=
      [.post 0 false ⟨1, 0⟩, .post 0 true ⟨1, 7⟩, .post 0 false ⟨1, 8⟩, .pass]
    let u := (of (Alarm.scheduler 3)).performAll operations
    Scheduler.build (Alarm.topology 3) () = .ok (Alarm.scheduler 3) ∧
      u.scheduler = (Alarm.scheduler 3).performAll operations ∧
      accepted Alarm.group u.chronicle = [⟨1, 0⟩, ⟨1, 8⟩] ∧
      taken Alarm.group u.chronicle = [⟨1, 0⟩] ∧
      u.scheduler.waiting Alarm.group = [⟨1, 8⟩] ∧ u.pass.1 = .sleep (some ⟨3, false⟩) ∧
      ∃ recent, u.pass.2.chronicle = recent ++ u.chronicle ∧
        ∃ took : Fin (Alarm.topology 3).groupCount → Option Event,
          deliveries recent = (Alarm.topology 3).allGroups.flatMap fun g => round g (took g) := by
  intro operations u
  obtain ⟨hscheduler, haccepted, -, hpass⟩ :=
    delivered_once_in_order (Alarm.build_topology 3) operations
  have htaken : taken Alarm.group u.chronicle = [⟨1, 0⟩] := by decide +kernel
  have hwaiting : u.scheduler.waiting Alarm.group = [⟨1, 8⟩] := by decide +kernel
  have hsleep : u.pass.1 = .sleep (some ⟨3, false⟩) := by decide +kernel
  have hpassed : u.pass = (.sleep (some ⟨3, false⟩), u.pass.2) := by rw [← hsleep]
  obtain ⟨-, recent, took, hrecent, hdeliveries, -⟩ := hpass _ _ hpassed nofun
  refine ⟨Alarm.build_topology 3, hscheduler, ?_, htaken, hwaiting, hsleep, recent, hrecent, took,
    hdeliveries⟩
  exact (haccepted Alarm.group).trans (htaken ▸ hwaiting ▸ rfl)

end Chronicled

end TimedMachines
