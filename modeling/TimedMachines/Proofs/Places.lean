import Mathlib.Data.List.Nodup
import TimedMachines.Proofs.Decision
import TimedMachines.Proofs.Delivery
import TimedMachines.Proofs.Response

/-!
# Machines at several places

A scheduler goes by coordinates. It hands an event to each position of a
group, and a start calls the initialization handler at each position of
each group. So what happens once happens once for each place of a machine:
an event calls no more handlers of a machine than there are positions of
it in the group that took the event (`called_once_per_position`), and a
start initializes it as often as it is a member (`initialized_once_per_place`).
Both calls and initializations are announced by a note, and each note stands
for exactly one run of a handler (`Response.calls_eq`,
`Initialized.preparations`).

For a machine that is a member once, that is once. Nothing keeps a machine
from being a member more than once, in one group or in several, and then
it is not.
-/

namespace TimedMachines

variable {μ : Type} {t : Topology μ}

/-- **What one group contributes** to all groups, for a reader of nothing
that comes from the others. -/
theorem Topology.filter_flatMap_allGroups {α : Type} {f : Fin t.groupCount → List α}
    {p : α → Bool} {g : Fin t.groupCount} (hp : ∀ k, k ≠ g → ∀ a ∈ f k, p a = false) :
    (t.allGroups.flatMap f).filter p = (f g).filter p := by
  obtain ⟨seen, rest, hsplit⟩ := List.append_of_mem (List.mem_finRange g)
  have hnodup : (seen ++ g :: rest).Nodup := hsplit ▸ List.nodup_finRange _
  have hothers {groups : List (Fin t.groupCount)} (hg : g ∉ groups) :
      (groups.flatMap f).filter p = [] := by
    refine List.filter_eq_nil_iff.mpr fun a ha => ?_
    obtain ⟨k, hk, hak⟩ := List.mem_flatMap.mp ha
    exact ne_true_of_eq_false (hp k (ne_of_mem_of_not_mem hk hg) a hak)
  have hseen : g ∉ seen := Topology.notMem_of_allGroups_eq hsplit
  have hrest : g ∉ rest := (List.nodup_cons.mp (List.nodup_append.mp hnodup).2.1).1
  rw [allGroups, hsplit, List.flatMap_append, List.flatMap_cons, List.filter_append,
    List.filter_append, hothers hseen, hothers hrest, List.nil_append, List.append_nil]

/-- No two groups share an index. -/
theorem Topology.groupId_inj {g k : Fin t.groupCount} (h : t.groupId g = t.groupId k) : g = k :=
  Fin.ext (by rw [← t.groupId_toNat g, h, t.groupId_toNat])

theorem Topology.group_of_placed {g : Fin t.groupCount} {member : Coords × Fin t.machineCount}
    (h : member ∈ t.placed g) : member.1.group = t.groupId g := by
  obtain ⟨position, hlt, rfl⟩ := List.mem_mapIdx.mp h
  rfl

/-- The places of a group differ in their positions. -/
theorem Topology.nodup_places (t : Topology μ) (g : Fin t.groupCount) :
    ((t.placed g).map Prod.fst).Nodup := by
  have hle := (t.groups.get g).length_le
  have hmax : maxMembers = 255 := rfl
  refine List.pairwise_iff_getElem.mpr fun i j hi hj hlt heq => ?_
  simp only [placed, List.getElem_map, List.getElem_mapIdx, List.length_map, List.length_mapIdx,
    Coords.mk.injEq, true_and] at hi hj heq
  have hposition := congrArg UInt8.toNat heq
  rw [UInt8.toNat_ofNat', UInt8.toNat_ofNat'] at hposition
  omega

/-- The positions of a machine in a group. -/
theorem Topology.countP_placed (t : Topology μ) (g : Fin t.groupCount) (id : Fin t.machineCount) :
    (t.placed g).countP (fun member => decide (t.at? member.1 = some id)) =
      (t.groups.get g).members.count id := by
  rw [← t.map_snd_placed g, List.count_eq_countP, List.countP_map]
  refine List.countP_congr fun member hmember => ?_
  simp [t.at?_placed hmember]

/-! ## Handler calls -/

namespace Incident

/-- The place and the event of a delivery. -/
def handing? : Incident t → Option (Coords × Event)
  | .handed place _ event => some (place, event)
  | _ => none

theorem handing?_of_isDelivery {incident : Incident t} (h : incident.isDelivery = false) :
    incident.handing? = none := by
  unfold handing?
  split
  · cases h
  · rfl

/-- The place and the event for which a handler is about to run. -/
def processing? : Incident t → Option (Coords × Event)
  | .reported (.note (.processing place _ event)) => some (place, event)
  | _ => none

theorem IsAloof.processing?_eq {incident : Incident t} (h : incident.IsAloof) :
    incident.processing? = none := by
  unfold processing?
  split
  · cases h _ rfl
  · rfl

end Incident

namespace Chronicled

/-- **The deliveries of a chronicle**, in order. -/
def handings (chronicle : List (Moment t)) : List (Coords × Event) :=
  chronicle.reverse.filterMap fun m => m.incident.handing?

/-- **The handler calls of a chronicle**, in order. -/
def calls (chronicle : List (Moment t)) : List (Coords × Event) :=
  chronicle.reverse.filterMap fun m => m.incident.processing?

theorem handings_append (newer older : List (Moment t)) :
    handings (newer ++ older) = handings older ++ handings newer := by
  unfold handings
  rw [List.reverse_append, List.filterMap_append]

theorem calls_append (newer older : List (Moment t)) :
    calls (newer ++ older) = calls older ++ calls newer := by
  unfold calls
  rw [List.reverse_append, List.filterMap_append]

theorem calls_of_aloof {chronicle : List (Moment t)}
    (h : ∀ m ∈ chronicle, m.incident.IsAloof) : calls chronicle = [] :=
  List.filterMap_eq_nil_iff.mpr fun m hm => (h m (List.mem_reverse.mp hm)).processing?_eq

/-- **Each call belongs to a delivery of its own**, since the chronicle was
`base`. -/
def Answered (base : List (Moment t)) (u : Chronicled t) : Prop :=
  ∃ recent, u.chronicle = recent ++ base ∧ (calls recent).Sublist (handings recent)

/-- Calls and deliveries that go on are those before and those since. -/
theorem Answered.append {base : List (Moment t)} {u v : Chronicled t} (h : Answered base u)
    (newer : List (Moment t)) (hnewer : v.chronicle = newer ++ u.chronicle)
    (hcalls : (calls newer).Sublist (handings newer)) : Answered base v := by
  obtain ⟨recent, hrecent, hsublist⟩ := h
  refine ⟨newer ++ recent, ?_, ?_⟩
  · rw [hnewer, hrecent, List.append_assoc]
  · rw [calls_append, handings_append]
    exact hsublist.append hcalls

/-- **A call is one run of a handler**: a response to an event announces no
call and runs no handler, or it announces one call, from which the machine
runs its handler for the event, and after that it only has its status set
and reports it. -/
theorem Response.calls_eq {wakesSleepers : Bool} {place : Coords} {id : Fin t.machineCount}
    {event : Event} {u v : Chronicled t} (h : Response wakesSleepers place id event u v) :
    ∃ recent, v.chronicle = recent ++ u.chronicle ∧
      (calls recent = [] ∨ calls recent = [(place, event)] ∧ ∃ ran status r,
        Runs place id event u ran ∧ v = (ran.set id status).tell (.record r)) := by
  cases h with
  | ignored hnote =>
    refine ⟨[_], rfl, .inl ?_⟩
    obtain rfl | rfl := hnote <;> rfl
  | unhandled => exact ⟨[_], rfl, .inl rfl⟩
  | asleep hnote =>
    refine ⟨[_, _], rfl, .inl ?_⟩
    obtain rfl | ⟨_, rfl⟩ := hnote <;> rfl
  | @handled ran status r hruns _ _ =>
    obtain ⟨recent, hrecent, haloof, -⟩ := hruns.interlude
    refine ⟨_ :: (recent ++ [_]), congrArg (_ :: ·) (hrecent.trans (List.append_cons ..)),
      .inr ⟨?_, ran, status, r, hruns, rfl⟩⟩
    change calls ([_] ++ (recent ++ [_])) = _
    rw [calls_append, calls_append, calls_of_aloof haloof]
    rfl

/-- **A machine that is handed an event calls a handler once at most**,
whatever the handler does. -/
theorem Answered.respond {base : List (Moment t)} {u v : Chronicled t} (h : Answered base u)
    {wakesSleepers : Bool} {place : Coords} {id : Fin t.machineCount} {event : Event}
    (hresponse : Response wakesSleepers place id event (u.add (.handed place id event)) v) :
    Answered base v := by
  obtain ⟨recent, hrecent, hcalls⟩ := hresponse.calls_eq
  refine h.append (recent ++ [_]) (hrecent.trans (List.append_cons ..)) ?_
  rw [calls_append, handings_append]
  have hcalled : (calls recent).Sublist [(place, event)] := by
    obtain hnone | ⟨hone, -⟩ := hcalls
    · exact hnone ▸ List.nil_sublist _
    · exact hone ▸ .refl _
  exact hcalled.trans (List.sublist_append_left _ _)

/-- **Every call belongs to a delivery of its own**, also when handlers
restart the machines. -/
theorem enduring_answered (base : List (Moment t)) : Enduring (Answered base) where
  interlude hinterlude h := by
    obtain ⟨recent, hrecent, haloof, -⟩ := hinterlude
    exact h.append recent hrecent (calls_of_aloof haloof ▸ List.nil_sublist _)
  respond _ _ hresponse h := h.respond hresponse
  settle _ _ h := h

/-- The deliveries of a round: its event goes to all positions. -/
def handedIn (took : Fin t.groupCount → Option Event) (g : Fin t.groupCount) :
    List (Coords × Event) :=
  (took g).toList.flatMap fun event => (t.placed g).map fun member => (member.1, event)

/-- The deliveries of a pass are those of its rounds. -/
theorem handings_of_rounds {chronicle : List (Moment t)} {took : Fin t.groupCount → Option Event}
    (h : deliveries chronicle = t.allGroups.flatMap fun g => round g (took g)) :
    handings chronicle = t.allGroups.flatMap (handedIn took) := by
  have hfilter : handings chronicle = (deliveries chronicle).filterMap Incident.handing? := by
    unfold handings deliveries
    rw [List.filterMap_filter, List.filterMap_map]
    refine List.filterMap_congr fun m _ => ?_
    dsimp only [Function.comp]
    split
    · rfl
    · next hdelivery => exact Incident.handing?_of_isDelivery (Bool.eq_false_iff.mpr hdelivery)
  rw [hfilter, h, List.filterMap_flatMap]
  refine List.flatMap_congr fun g _ => ?_
  unfold round handedIn
  cases took g with
  | none => rfl
  | some event =>
    rw [Option.toList_some, List.flatMap_singleton, List.flatMap_singleton, List.filterMap_cons]
    exact List.filterMap_map.trans (congrFun List.filterMap_eq_map _)

/-- Whether a call is one of the machine's, made under coordinates of the
group. -/
def isCallOf (g : Fin t.groupCount) (id : Fin t.machineCount) (call : Coords × Event) : Bool :=
  decide (call.1.group = t.groupId g) && decide (t.at? call.1 = some id)

/-- **The calls of a machine's handlers** for a group's events. -/
def callsOf (g : Fin t.groupCount) (id : Fin t.machineCount) (chronicle : List (Moment t)) :
    List (Coords × Event) :=
  (calls chronicle).filter (isCallOf g id)

/-- The deliveries to a machine in a group's turn: one for each of its
positions there, if there is an event. -/
theorem length_handedIn_le (took : Fin t.groupCount → Option Event) (g : Fin t.groupCount)
    (id : Fin t.machineCount) :
    ((handedIn took g).filter (isCallOf g id)).length ≤ (t.groups.get g).members.count id := by
  unfold handedIn
  cases took g with
  | none => exact Nat.zero_le _
  | some event =>
    rw [Option.toList_some, List.flatMap_singleton, ← List.countP_eq_length_filter,
      List.countP_map, ← t.countP_placed g id]
    refine List.countP_mono_left fun member _ hcall => ?_
    exact (Bool.and_eq_true_iff.mp hcall).2

theorem group_of_handedIn {took : Fin t.groupCount → Option Event} {g : Fin t.groupCount}
    {call : Coords × Event} (h : call ∈ handedIn took g) :
    call.1.group = t.groupId g ∧ took g = some call.2 := by
  obtain ⟨event, hevent, hmember⟩ := List.mem_flatMap.mp h
  obtain ⟨member, hplaced, rfl⟩ := List.mem_map.mp hmember
  exact ⟨Topology.group_of_placed hplaced, Option.mem_toList.mp hevent⟩

/-- The deliveries that can be calls for a group's events are those of its
own turn. -/
theorem filter_handedIn (took : Fin t.groupCount → Option Event) (g : Fin t.groupCount)
    (id : Fin t.machineCount) :
    (t.allGroups.flatMap (handedIn took)).filter (isCallOf g id) =
      (handedIn took g).filter (isCallOf g id) := by
  refine Topology.filter_flatMap_allGroups fun k hk call hcall => ?_
  have hgroup : t.groupId k ≠ t.groupId g := fun heq => hk (Topology.groupId_inj heq)
  unfold isCallOf
  rw [(group_of_handedIn hcall).1, decide_eq_false hgroup, Bool.false_and]

/-- A pass that ends in an exit does nothing worth remembering. -/
theorem chronicle_of_exit {u : Chronicled t} (h : u.pass.1 = .exit) :
    u.pass.2.chronicle = u.chronicle := by
  unfold pass commit at h ⊢
  dsimp only at h ⊢
  split
  · rfl
  · next hexit =>
    rw [if_neg hexit] at h
    split at h
    · cases h
    · split at h
      · cases h
      · next hdue =>
        unfold Scheduler.commit at h
        rw [if_neg hdue] at h
        cases h

/-- **An event calls at most one handler of a machine per position.** In
whatever state a pass begins, and whatever the handlers do, each group
takes one event at most, and the handlers of a machine that are called
for the group in the pass are called for that event, and no more often
than the machine stands in the group. A call is one run of a handler: a
machine that is handed an event responds to it, with one run if it
announces a call and with none if it does not (`Response.calls_eq`). -/
theorem called_once_per_position (s : Scheduler t) :
    let v := (of s).pass
    s.pass = forget v ∧
      (∀ wakesSleepers event (member : Coords × Fin t.machineCount) (u : Chronicled t),
        Response wakesSleepers member.1 member.2 event (u.add (.handed member.1 member.2 event))
          (hand wakesSleepers event member u)) ∧
      ∃ took : Fin t.groupCount → Option Event,
        (v.1 ≠ .exit →
          deliveries v.2.chronicle = t.allGroups.flatMap fun g => round g (took g)) ∧
        ∀ g id, (∀ call ∈ callsOf g id v.2.chronicle, took g = some call.2) ∧
          (callsOf g id v.2.chronicle).length ≤ (t.groups.get g).members.count id := by
  intro v
  refine ⟨scheduler_pass (of s), response_hand, ?_⟩
  by_cases hexit : v.1 = .exit
  · have hnothing : v.2.chronicle = [] := chronicle_of_exit hexit
    rw [hnothing]
    exact ⟨fun _ => none, fun hne => absurd hexit hne, fun _ _ => ⟨nofun, Nat.zero_le _⟩⟩
  · have hpass : (of s).pass = (v.1, v.2) := rfl
    obtain ⟨recent, hrecent, took, hdeliveries⟩ := deliveries_pass hpass hexit
    obtain ⟨answered, hanswered, hsublist⟩ := (enduring_answered []).pass (u := of s)
      ⟨[], rfl, .refl []⟩
    obtain rfl : v.2.chronicle = recent := hrecent.trans (List.append_nil recent)
    obtain rfl : v.2.chronicle = answered := hanswered.trans (List.append_nil answered)
    refine ⟨took, fun _ => hdeliveries, fun g id => ?_⟩
    have hcalls : (callsOf g id v.2.chronicle).Sublist
        ((handedIn took g).filter (isCallOf g id)) := by
      rw [← filter_handedIn, ← handings_of_rounds hdeliveries]
      exact hsublist.filter _
    refine ⟨fun call hcall => ?_, Nat.le_trans hcalls.length_le (length_handedIn_le took g id)⟩
    exact (group_of_handedIn (List.mem_filter.mp (hcalls.subset hcall)).1).2

/-- An alarm clock that stands twice in its group. -/
def doubled : Topology Unit :=
  { Alarm.topology 3 with
    groups := #v[{ (Alarm.topology 3).groups.get Alarm.group with
      members := [Alarm.clock, Alarm.clock]
      length_le := by decide }] }

/-- **One event calls two handlers** of a machine that stands twice in a
group. Such a group can be declared. -/
theorem called_twice_doubled :
    (((Topology.empty doubled.config).addMachine (Alarm.machine 3)).addGroup 2 [0, 0] =
        .ok (0, doubled)) ∧
      ∃ s, Scheduler.build doubled () = .ok s ∧
        let s := s.performAll [.post 0 false ⟨1, 0⟩]
        s.Reachable ∧ s.waiting (0 : Fin 1) = [⟨1, 0⟩] ∧
          callsOf (0 : Fin 1) (0 : Fin 1) (of s).pass.2.chronicle =
            [(⟨0, 0⟩, ⟨1, 0⟩), (⟨0, 1⟩, ⟨1, 0⟩)] := by
  refine ⟨by with_unfolding_all rfl, _, rfl, ?_⟩
  exact ⟨(Scheduler.Reachable.built rfl).performAll _, by decide +kernel, by decide +kernel⟩

end Chronicled

/-! ## Initializations -/

/-- The coordinates of the machine that an entry says is being
initialized. -/
def Entry.preparing? : Entry → Option Coords
  | .note (.preparing place) => some place
  | _ => none

theorem Entry.preparing?_of_place? {entry : Entry} (h : entry.place? = none) :
    entry.preparing? = none := by
  unfold preparing?
  split
  · cases h
  · rfl

/-- **The initializations that were announced so far**, in order. -/
def Scheduler.preparations (s : Scheduler t) : List Coords :=
  s.journal.toList.filterMap Entry.preparing?

/-- No initialization restarts the machines. -/
def Topology.CalmInit (t : Topology μ) : Prop :=
  ∀ (id : Fin t.machineCount) init, (t.machines.get id).init = some init →
    ∀ view, (init view).Asks fun request => request.restarts = false

/-- The places of a group whose machines have an initialization handler. -/
def Topology.preparedIn (t : Topology μ) (g : Fin t.groupCount) : List Coords :=
  (t.placed g).filterMap fun member =>
    if (t.machines.get member.2).init.isSome then some member.1 else none

/-- **The places at which a start initializes machines**, group by group
and in order of position. -/
def Topology.prepared (t : Topology μ) : List Coords :=
  t.allGroups.flatMap t.preparedIn

/-- None of them is named twice. -/
theorem Topology.nodup_prepared (t : Topology μ) : t.prepared.Nodup := by
  have hplaces (g : Fin t.groupCount) : (t.preparedIn g).Sublist ((t.placed g).map Prod.fst) := by
    unfold preparedIn
    rw [← List.filterMap_filter, ← List.filterMap_eq_map]
    exact List.filter_sublist.filterMap _
  have hgroup {g : Fin t.groupCount} {place : Coords} (h : place ∈ t.preparedIn g) :
      place.group = t.groupId g := by
    obtain ⟨member, hmember, rfl⟩ := List.mem_map.mp ((hplaces g).subset h)
    exact group_of_placed hmember
  refine List.nodup_flatMap.mpr ⟨fun g _ => (hplaces g).nodup (t.nodup_places g), ?_⟩
  refine (List.nodup_finRange t.groupCount).imp fun hne place hplace hplace' => hne ?_
  exact groupId_inj ((hgroup hplace).symm.trans (hgroup hplace'))

/-- They hold a machine that has an initialization handler as often as it
is a member of a group. -/
theorem Topology.countP_prepared (t : Topology μ) (id : Fin t.machineCount)
    (hinit : (t.machines.get id).init.isSome = true) :
    t.prepared.countP (fun place => decide (t.at? place = some id)) =
      (t.allGroups.flatMap fun g => (t.groups.get g).members).count id := by
  unfold prepared preparedIn
  rw [List.countP_flatMap, List.count_flatMap]
  refine congrArg List.sum (List.map_congr_left fun g _ => ?_)
  change List.countP _ (List.filterMap _ _) = (t.groups.get g).members.count id
  rw [← t.countP_placed g id, List.countP_filterMap]
  refine List.countP_congr fun member hmember => ?_
  have hat : t.at? member.1 = some member.2 := t.at?_placed hmember
  by_cases hid : member.2 = id
  · subst hid
    simp [hat, hinit]
  · cases (t.machines.get member.2).init.isSome <;> simp [hat, hid]

namespace Chronicled

/-- What leaves the machines alone is no initialization. -/
theorem detached_preparations (places : List Coords) :
    Detached fun u : Chronicled t => u.scheduler.preparations = places where
  update f u hf h := by
    unfold Scheduler.preparations at h ⊢
    rw [← Scheduler.filterMap_told fun _ => Entry.preparing?_of_place?] at h ⊢
    exact (congrArg _ hf.told).trans h
  add _ _ _ h := h

end Chronicled

namespace Scheduler

theorem preparations_report (entry : Entry) (s : Scheduler t) :
    (s.report entry).preparations = s.preparations ++ entry.preparing?.toList := by
  unfold preparations report
  dsimp only
  rw [Array.toList_push, List.filterMap_append, List.filterMap_cons]
  cases entry.preparing? <;> rfl

/-- **A place is initialized**: the initialization handler of the machine
there runs once, from where that is announced, and the machine is left
alone after a veto, or given the status that the handler's wishes make of
the one it had. Where the handler runs, a start runs nothing, so no other
handler runs with it. -/
inductive Initialized (place : Coords) (s : Scheduler t) : Scheduler t → Prop where
  /-- The handler vetoed. -/
  | vetoed {id : Fin t.machineCount} {init : Handler μ} {wishes : Wishes} {u : Scheduler t}
      (hat : t.at? place = some id) (hinit : (t.machines.get id).init = some init)
      (hrun : (t.machines.get id).initRun (world fun u => u) (slot id) init place s = (wishes, u))
      (hveto : wishes.veto = true) : Initialized place s u
  /-- The handler had its way. -/
  | prepared {id : Fin t.machineCount} {init : Handler μ} {wishes : Wishes} {u v : Scheduler t}
      {wakeup : Option Timestamp}
      (hat : t.at? place = some id) (hinit : (t.machines.get id).init = some init)
      (hrun : (t.machines.get id).initRun (world fun u => u) (slot id) init place s = (wishes, u))
      (hveto : wishes.veto = false)
      (hwakeup : wishes.stay.schedule (world fun u => u) u = (wakeup, v)) :
      Initialized place s
        ((slot id).write (Machine.prepared (s.statuses.get id) wishes wakeup) v)

/-- **Places are initialized** one after another, and nothing else happens. -/
inductive InitializedAt : List Coords → Scheduler t → Scheduler t → Prop where
  /-- There is none. -/
  | nil (s : Scheduler t) : InitializedAt [] s s
  /-- The first place, and then the others. -/
  | cons {place : Coords} {places : List Coords} {s u v : Scheduler t}
      (hplace : Initialized place s u) (hplaces : InitializedAt places u v) :
      InitializedAt (place :: places) s v

namespace InitializedAt

variable {places others : List Coords} {s u v : Scheduler t}

theorem append (h : InitializedAt places s u) (hothers : InitializedAt others u v) :
    InitializedAt (places ++ others) s v := by
  induction h with
  | nil => exact hothers
  | cons hplace _ ih => exact .cons hplace (ih hothers)

/-- A fold over what initializes some places each initializes all of
them. -/
theorem foldl {α : Type} {f : Scheduler t → α → Scheduler t} {places : α → List Coords}
    {l : List α} (hf : ∀ a ∈ l, ∀ s, InitializedAt (places a) s (f s a)) (s : Scheduler t) :
    InitializedAt (l.flatMap places) s (l.foldl f s) := by
  induction l generalizing s with
  | nil => exact .nil s
  | cons a l ih =>
    exact (hf a List.mem_cons_self s).append (ih (fun b hb => hf b (List.mem_cons_of_mem _ hb)) _)

end InitializedAt

/-- **It makes no difference what a start would do** to actions that do not
restart the machines. -/
theorem simulates_world (start start' : Scheduler t → Scheduler t) :
    (world start).Simulates (world start') (fun request => request.restarts = false) Eq Eq
      (fun _ => False) Eq where
  now _ _ h := h ▸ ⟨rfl, rfl⟩
  post _ _ _ _ _ h := h ▸ ⟨rfl, rfl⟩
  ask request s _ hcalm h := by
    subst h
    cases request with
    | advance _ | heartbeat | broadcast _ _ | exit => exact .inr rfl
    | reset | start => cases hcalm
  consult _ _ h := h ▸ rfl
  amend _ _ _ h := h ▸ rfl
  remark _ _ _ _ h := h ▸ rfl

/-- Nor to handlers that do not. -/
theorem run_world (start start' : Scheduler t → Scheduler t) (knows : StateId → Bool) {act : Act μ}
    (hcalm : act.Asks fun request => request.restarts = false) (wishes : Wishes)
    (s : Scheduler t) :
    act.run (world start) knows wishes s = act.run (world start') knows wishes s :=
  Prod.ext_iff.mpr <| (Act.run_simulates (simulates_world start start') ((world start).keeps_false _)
    knows act hcalm act.blind_eq act.overlooks_eq wishes s s rfl).resolve_left id

/-- Nor to initializations. -/
theorem prepare_world (hcalm : t.CalmInit) (start start' : Scheduler t → Scheduler t)
    (id : Fin t.machineCount) (place : Coords) (s : Scheduler t) :
    (t.machines.get id).prepare (world start) (slot id) place s =
      (t.machines.get id).prepare (world start') (slot id) place s := by
  unfold Machine.prepare
  cases hinit : (t.machines.get id).init with
  | none => rfl
  | some init =>
    dsimp only
    rw [run_world start start' _ (hcalm id init hinit _)]
    rfl

/-- **A member with an initialization handler** has its place initialized,
and no other has. -/
theorem initializedAt_prepare (hcalm : t.CalmInit) (start : Scheduler t → Scheduler t)
    {g : Fin t.groupCount} {member : Coords × Fin t.machineCount} (hmember : member ∈ t.placed g)
    (s : Scheduler t) :
    InitializedAt (if (t.machines.get member.2).init.isSome then some member.1 else none).toList s
      ((t.machines.get member.2).prepare (world start) (slot member.2) member.1 s) := by
  have hat := t.at?_placed hmember
  rw [prepare_world hcalm start fun u => u]
  obtain ⟨hinit, hprepare⟩ | ⟨init, hinit, ⟨hveto, hprepare⟩ | ⟨hveto, hprepare⟩⟩ :=
    (t.machines.get member.2).prepare_cases (world fun u => u) (slot member.2) member.1 s
  · rw [hprepare, hinit]
    exact .nil s
  · rw [hprepare, hinit]
    exact .cons (.vetoed hat hinit rfl hveto) (.nil _)
  · rw [hprepare, hinit]
    exact .cons (.prepared hat hinit rfl hveto rfl) (.nil _)

/-- **A start initializes place after place**, if no initialization restarts
the machines. -/
theorem initializedAt_start (hcalm : t.CalmInit) (s : Scheduler t) :
    InitializedAt t.prepared s s.start := by
  have hgroup (start : Scheduler t → Scheduler t) (g : Fin t.groupCount) (s : Scheduler t) :
      InitializedAt (t.preparedIn g) s ((t.placed g).foldl (fun s member =>
        (t.machines.get member.2).prepare (world start) (slot member.2) member.1 s) s) := by
    unfold Topology.preparedIn
    rw [List.filterMap_eq_flatMap_toList]
    exact .foldl (fun member hmember => initializedAt_prepare hcalm start hmember) s
  have hprepare (start : Scheduler t → Scheduler t) :
      InitializedAt t.prepared s (prepareAll (world start) s) :=
    .foldl (fun g _ => hgroup start g) s
  unfold start
  cases t.config.nesting with
  | zero => exact hprepare _
  | succ depth => exact hprepare _

/-- What a handler does that does not restart the machines announces no
initialization. -/
theorem preparations_run (knows : StateId → Bool) {act : Act μ}
    (hcalm : act.Asks fun request => request.restarts = false) (wishes : Wishes)
    (s : Scheduler t) :
    (act.run (world fun u => u) knows wishes s).2.preparations = s.preparations := by
  have hrun := Act.run_upholds ((Chronicled.detached_preparations s.preparations).world fun u => u)
    (fun _ _ => rfl) knows act hcalm wishes (Chronicled.of s) rfl
  have hworld : (Chronicled.world fun u => u).Extends (world fun u => u) _ :=
    Chronicled.extends_world fun u : Chronicled t => rfl
  have hscheduler := (Act.run_matches hworld.matches knows act.overlooks_eq wishes
    (s := Chronicled.of s) rfl).2
  exact hscheduler ▸ hrun

/-- **An initialization is announced once.** -/
theorem Initialized.preparations (hcalm : t.CalmInit) {place : Coords} {s v : Scheduler t}
    (h : Initialized place s v) : v.preparations = s.preparations ++ [place] := by
  have hran {id : Fin t.machineCount} {init : Handler μ} (wishes : Wishes) (u : Scheduler t)
      (hinit : (t.machines.get id).init = some init)
      (hrun : (t.machines.get id).initRun (world fun u => u) (slot id) init place s =
        (wishes, u)) : u.preparations = s.preparations ++ [place] := by
    have hsame := preparations_run (t.machines.get id).table.hasState
      (hcalm id init hinit ⟨place, (s.statuses.get id).state, .timeout, infiniteTicks⟩) .none
      (s.note (.preparing place))
    exact (congrArg (fun ran => ran.2.preparations) hrun).symm.trans
      (hsame.trans (preparations_report _ s))
  cases h with
  | vetoed _ hinit hrun _ => exact hran _ _ hinit hrun
  | @prepared _ _ wishes u read wakeup _ hinit hrun _ hwakeup =>
    -- the clock is read without a trace
    have hread : (wakeup, read).2 = u := by
      rw [← hwakeup]
      cases wishes.stay <;> rfl
    exact (congrArg Scheduler.preparations hread).trans (hran wishes u hinit hrun)

/-- **Each note of an initialization stands for one.** -/
theorem InitializedAt.preparations (hcalm : t.CalmInit) {places : List Coords} {s v : Scheduler t}
    (h : InitializedAt places s v) : v.preparations = s.preparations ++ places := by
  induction h with
  | nil => exact (List.append_nil _).symm
  | cons hplace _ ih =>
    rw [ih, hplace.preparations hcalm, List.append_assoc]
    rfl

/-- **A start initializes a machine once per place**, and so does a reset,
if no initialization restarts the machines: the initialization handlers
run group by group and in order of position, once at each place of a
machine that has one, and nothing else happens. Each run is announced by
one note. No place comes twice, so that the handler of a machine runs as
often as the machine is a member of a group. -/
theorem initialized_once_per_place (hcalm : t.CalmInit) (s : Scheduler t) :
    (InitializedAt t.prepared s s.start ∧ s.start.preparations = s.preparations ++ t.prepared) ∧
      (InitializedAt t.prepared (s.note .resetting).rewind s.reset ∧
        s.reset.preparations = s.preparations ++ t.prepared) ∧
      t.prepared.Nodup ∧ ∀ id : Fin t.machineCount, (t.machines.get id).init.isSome = true →
        t.prepared.countP (fun place => decide (t.at? place = some id)) =
          (t.allGroups.flatMap fun g => (t.groups.get g).members).count id := by
  have hstart := initializedAt_start hcalm
  have hreset : (s.note .resetting).rewind.preparations = s.preparations :=
    (preparations_report (.note .resetting) s).trans (List.append_nil _)
  exact ⟨⟨hstart s, (hstart s).preparations hcalm⟩,
    ⟨hstart _, hreset ▸ (hstart _).preparations hcalm⟩, t.nodup_prepared, t.countP_prepared⟩

/-- A machine that counts its initializations. -/
def tallied : Machine Nat where
  table :=
    { (Alarm.machine 3).table with
      cells := #v[⟨some .rest, 0⟩, ⟨none, 0⟩]
      target_lt := fun cell hcell _ => by
        obtain ⟨⟨hcell⟩⟩ := hcell
        simp only [List.mem_cons, List.not_mem_nil, or_false] at hcell
        obtain rfl | rfl := hcell <;> decide }
  init := some fun _ => .amend (· + 1) .done

/-- The machine alone in a group. -/
def onefold : Topology Nat :=
  { Alarm.topology 0 with machines := #v[tallied] }

/-- The machine alone in a group, and in another too. -/
def twofold : Topology Nat :=
  { onefold with
    groupCount := 2
    groups := dozing.groups
    groupCount_le := dozing.groupCount_le }

/-- In a single group a machine is initialized once. -/
theorem initialized_once_per_place_onefold :
    onefold.CalmInit ∧ ∃ s, build onefold 0 = .ok s ∧
      (InitializedAt [⟨0, 0⟩] s s.start ∧ s.start.preparations = [⟨0, 0⟩] ∧
        s.start.memory = 1) ∧
      InitializedAt [⟨0, 0⟩] (s.note .resetting).rewind s.reset ∧
        s.reset.preparations = [⟨0, 0⟩] ∧ s.reset.memory = 1 := by
  have hcalm : onefold.CalmInit := by
    rintro ⟨_ | _, hlt⟩ init hinit view
    · cases hinit
      trivial
    · exact absurd hlt (by simp [onefold, Alarm.topology])
  refine ⟨hcalm, _, rfl, ?_⟩
  obtain ⟨⟨hstart, hstarted⟩, ⟨hreset, hrestarted⟩, -⟩ := initialized_once_per_place hcalm _
  exact ⟨⟨hstart, hstarted, by decide +kernel⟩, hreset, hrestarted, by decide +kernel⟩

/-- **A machine is initialized twice** that is a member of two groups, by
a start and by a reset. -/
theorem initialized_twice_twofold :
    onefold.addGroup 2 [0] = .ok (1, twofold) ∧
      ∃ s, build twofold 0 = .ok s ∧
        (s.start.preparations = [⟨0, 0⟩, ⟨1, 0⟩] ∧ s.start.memory = 2) ∧
        (s.reset.preparations = [⟨0, 0⟩, ⟨1, 0⟩] ∧ s.reset.memory = 2) ∧
        twofold.at? ⟨0, 0⟩ = some (0 : Fin 1) ∧ twofold.at? ⟨1, 0⟩ = some (0 : Fin 1) := by
  refine ⟨by with_unfolding_all rfl, _, rfl, ?_⟩
  exact ⟨by decide +kernel, by decide +kernel, rfl, rfl⟩

end Scheduler

end TimedMachines
