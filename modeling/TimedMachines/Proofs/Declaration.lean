import TimedMachines.Proofs.Broadcast
import TimedMachines.Proofs.Places
import TimedMachines.Scheduler.Report

/-!
# Topologies are as they were declared

A topology is declared machine by machine and group by group, and each
declaration is answered by an index. What comes of a list of declarations
is settled by the log of their answers (`AsDeclared`): the machines in the
log, and its groups with the capacities and members that were asked for,
under the indices that were given out, which count from zero and never
wrap. A group that is refused leaves no trace (`Refuses` says why it was).

Whatever such a topology does goes by coordinates, which are bytes, and by
`Fin`, which is not. The two agree: a pair of bytes names a machine just
where the log has a member (`Addresses`), and posts, passes and starts get
to every group and every position (`Scheduler.reaches_everyone`).
-/

namespace TimedMachines

variable {μ : Type}

namespace Topology

variable {t : Topology μ} {capacity : Nat} {ids : List Nat}

/-! ## Declaring a group -/

/-- **The capacities and members of all groups**, in order. -/
def roster (t : Topology μ) : List (Nat × List Nat) :=
  t.groups.toList.map fun group => (group.queue.capacity, group.members.map Fin.val)

theorem length_roster (t : Topology μ) : t.roster.length = t.groupCount := by
  rw [roster, List.length_map, Vector.length_toList]

/-- **What a group must be** for a topology to take it. -/
structure Accepts (t : Topology μ) (capacity : Nat) (ids : List Nat) : Prop where
  groupCount_lt : t.groupCount < maxGroups
  length_le : ids.length ≤ maxMembers
  id_lt : ∀ id ∈ ids, id < t.machineCount
  capacity_pos : 0 < capacity
  capacity_le : capacity ≤ maxSlots

/-- **Why a topology does not take a group**, the first reason first. The
position of a member that does not exist is that of the first. -/
inductive Refuses (t : Topology μ) (capacity : Nat) (ids : List Nat) : Error → Prop where
  /-- There is no index left. -/
  | tooManyGroups (hgroups : t.groupCount = maxGroups) : Refuses t capacity ids .tooManyGroups
  /-- There are not enough positions. -/
  | tooManyMachines (hgroups : t.groupCount < maxGroups) (hids : maxMembers < ids.length) :
      Refuses t capacity ids .tooManyMachines
  /-- A member does not exist. -/
  | invalidMachine {position : UInt8} {id : Nat} (hgroups : t.groupCount < maxGroups)
      (hids : ids.length ≤ maxMembers) (hid : ids[position.toNat]? = some id)
      (hforeign : ¬ id < t.machineCount)
      (hearlier : ∀ earlier ∈ ids.take position.toNat, earlier < t.machineCount) :
      Refuses t capacity ids (.invalidMachine position)
  /-- No queue has that capacity. -/
  | queueCapacity (hgroups : t.groupCount < maxGroups) (hids : ids.length ≤ maxMembers)
      (hid : ∀ id ∈ ids, id < t.machineCount) (hcapacity : ¬ (0 < capacity ∧ capacity ≤ maxSlots)) :
      Refuses t capacity ids (.queueCapacity capacity)

/-- **What resolving indices can do**: find all of them, or stop at the
first that is out of range. -/
theorem resolve_cases (machines : Nat) (ids : List Nat) (position : Nat) :
    (∃ members, resolve machines ids position = .ok members ∧ members.map Fin.val = ids) ∨
      ∃ n id, resolve machines ids position = .error (position + n) ∧ ids[n]? = some id ∧
        ¬ id < machines ∧ ∀ earlier ∈ ids.take n, earlier < machines := by
  induction ids generalizing position with
  | nil => exact .inl ⟨[], rfl, rfl⟩
  | cons id ids ih =>
    unfold resolve
    split
    · next hid =>
      obtain ⟨members, hmembers, hids⟩ | ⟨n, foreign, hn, hat, hforeign, hearlier⟩ :=
        ih (position + 1)
      · exact .inl ⟨⟨id, hid⟩ :: members, by rw [hmembers]; rfl, congrArg (id :: ·) hids⟩
      · refine .inr ⟨n + 1, foreign, ?_, hat, hforeign, ?_⟩
        · rw [hn, Nat.add_assoc, Nat.add_comm 1]
          rfl
        · rw [List.take_succ_cons]
          exact List.forall_mem_cons.mpr ⟨hid, hearlier⟩
    · next hid =>
      exact .inr ⟨0, id, rfl, rfl, hid, fun _ hearlier => absurd hearlier List.not_mem_nil⟩

/-- A topology with one group more. -/
structure GrownBy (t : Topology μ) (capacity : Nat) (ids : List Nat) (grown : Topology μ) :
    Prop where
  config : grown.config = t.config
  machines : grown.machines.toList = t.machines.toList
  roster : grown.roster = t.roster ++ [(capacity, ids)]

theorem GrownBy.machineCount {grown : Topology μ} (h : t.GrownBy capacity ids grown) :
    grown.machineCount = t.machineCount := by
  rw [← grown.machines.length_toList, h.machines, Vector.length_toList]

theorem GrownBy.groupCount {grown : Topology μ} (h : t.GrownBy capacity ids grown) :
    grown.groupCount = t.groupCount + 1 := by
  rw [← length_roster, h.roster, List.length_append, length_roster, List.length_singleton]

/-- **What declaring a group can do.** -/
theorem addGroup_cases (t : Topology μ) (capacity : Nat) (ids : List Nat) :
    (∃ e, t.addGroup capacity ids = .error e ∧ t.Refuses capacity ids e) ∨
      ∃ index grown, t.addGroup capacity ids = .ok (index, grown) ∧ t.Accepts capacity ids ∧
        index.toNat = t.groupCount ∧ t.GrownBy capacity ids grown := by
  have hle := t.groupCount_le
  have hmax : maxGroups = 255 := rfl
  have hmaxMembers : maxMembers = 255 := rfl
  unfold addGroup
  split
  · next hgroups =>
    split
    · next hlength =>
      obtain ⟨members, hmembers, hids⟩ | ⟨n, id, hn, hat, hforeign, hearlier⟩ :=
        resolve_cases t.machineCount ids 0
      · have hid : ∀ id ∈ ids, id < t.machineCount := fun id hmem => by
          obtain ⟨member, -, rfl⟩ := List.mem_map.mp (hids ▸ hmem)
          exact member.isLt
        split
        · next hfound => cases hmembers.symm.trans hfound
        · next found hfound =>
          obtain rfl : members = found := Except.ok.inj (hmembers.symm.trans hfound)
          by_cases hcapacity : 0 < capacity ∧ capacity ≤ maxSlots
          · obtain ⟨queue, hqueue⟩ := EventQueue.exists_create hcapacity.1 hcapacity.2
            split
            · next hcreate => cases hqueue.symm.trans hcreate
            · next queue hcreate =>
              refine .inr ⟨_, _, rfl, ⟨hgroups, hlength, hid, hcapacity.1, hcapacity.2⟩, ?_,
                ⟨rfl, rfl, ?_⟩⟩
              · rw [UInt8.toNat_ofNat']
                omega
              · unfold roster
                dsimp only
                rw [Vector.toList_push, List.map_append, List.map_singleton, hids,
                  (EventQueue.toList_of_create hcreate).2]
          · have hcreate : EventQueue.create capacity = .error (.queueCapacity capacity) :=
              dif_neg hcapacity
            split
            · next e hrefused =>
              obtain rfl := Except.error.inj (hcreate.symm.trans hrefused)
              exact .inl ⟨_, rfl, .queueCapacity hgroups hlength hid hcapacity⟩
            · next queue hcreated => cases hcreate.symm.trans hcreated
      · have hposition : (UInt8.ofNat n).toNat = n := by
          have := (List.getElem?_eq_some_iff.mp hat).1
          rw [UInt8.toNat_ofNat']
          omega
        split
        · next position hfound =>
          obtain rfl : n = position := by
            rw [← Except.error.inj (hn.symm.trans hfound), Nat.zero_add]
          exact .inl ⟨_, rfl, .invalidMachine hgroups hlength (hposition.symm ▸ hat) hforeign
            (hposition.symm ▸ hearlier)⟩
        · next hfound => cases hn.symm.trans hfound
    · next hlength => exact .inl ⟨_, rfl, .tooManyMachines hgroups (Nat.lt_of_not_le hlength)⟩
  · next hgroups => exact .inl ⟨_, rfl, .tooManyGroups (by omega)⟩

theorem roster_addMachine (t : Topology μ) (machine : Machine μ) :
    (t.addMachine machine).roster = t.roster := by
  unfold roster addMachine
  dsimp only
  rw [Vector.toList_map, List.map_map]
  refine List.map_congr_left fun group _ => ?_
  dsimp only [Function.comp]
  rw [List.map_map]
  rfl

end Topology

/-! ## Declarations and their log -/

/-- **A call that declares something.** -/
inductive Declaration (μ : Type) where
  /-- Add a machine. -/
  | machine (machine : Machine μ)
  /-- Add a group of machines. -/
  | group (capacity : Nat) (ids : List Nat)

/-- **What a declaration is answered.** -/
inductive Declaration.Answer where
  /-- The index of the machine. -/
  | machine (id : Nat)
  /-- The index of the group, or why there is none. -/
  | group (answer : Except Error UInt8)

/-- **Declarations with their answers**, in order. -/
abbrev DeclarationLog (μ : Type) :=
  List (Declaration μ × Declaration.Answer)

namespace DeclarationLog

/-- The machines that were added, with their indices. -/
def machines (log : DeclarationLog μ) : List (Nat × Machine μ) :=
  log.filterMap fun
    | (.machine machine, .machine id) => some (id, machine)
    | _ => none

/-- The groups that were taken, with their indices, capacities and
members. -/
def groups (log : DeclarationLog μ) : List (UInt8 × Nat × List Nat) :=
  log.filterMap fun
    | (.group capacity ids, .group (.ok index)) => some (index, capacity, ids)
    | _ => none

theorem machines_append (log later : DeclarationLog μ) :
    machines (log ++ later) = log.machines ++ machines later :=
  List.filterMap_append

theorem groups_append (log later : DeclarationLog μ) :
    groups (log ++ later) = log.groups ++ groups later :=
  List.filterMap_append

end DeclarationLog

namespace Topology

/-- The topology after a declaration, and the answer. One that is refused
leaves the topology as it is. -/
def declare (t : Topology μ) : Declaration μ → Declaration.Answer × Topology μ
  | .machine machine => (.machine t.machineCount, t.addMachine machine)
  | .group capacity ids =>
    match t.addGroup capacity ids with
    | .ok (index, grown) => (.group (.ok index), grown)
    | .error e => (.group (.error e), t)

/-- The topology after some declarations, and their log. -/
def declareAll (t : Topology μ) : List (Declaration μ) → DeclarationLog μ × Topology μ
  | [] => ([], t)
  | declaration :: rest =>
    let (answer, grown) := t.declare declaration
    let (log, grown) := grown.declareAll rest
    ((declaration, answer) :: log, grown)

end Topology

/-- **A topology is what a log says**: it has the machines and groups of
the log, under their indices. -/
structure AsDeclared (config : Config) (log : DeclarationLog μ) (t : Topology μ) : Prop where
  config : t.config = config
  /-- Machines are counted from zero. -/
  ids : log.machines.map Prod.fst = List.range t.machineCount
  machines : log.machines.map Prod.snd = t.machines.toList
  /-- Groups are counted from zero, and no index wraps. -/
  indices : log.groups.map (fun group => group.1.toNat) = List.range t.groupCount
  roster : log.groups.map Prod.snd = t.roster
  /-- Members exist, and positions are bytes. -/
  members : ∀ group ∈ log.groups, group.2.2.length ≤ maxMembers ∧
    ∀ id ∈ group.2.2, id < t.machineCount

namespace AsDeclared

variable {config : Config} {log : DeclarationLog μ} {t grown : Topology μ} {capacity : Nat}
  {ids : List Nat}

theorem empty (config : Config) : AsDeclared config [] (.empty config : Topology μ) where
  config := rfl
  ids := rfl
  machines := rfl
  indices := rfl
  roster := rfl
  members := nofun

/-- **One machine more.** -/
theorem machine (h : AsDeclared config log t) (machine : Machine μ) :
    AsDeclared config (log ++ [(.machine machine, .machine t.machineCount)])
      (t.addMachine machine) := by
  have hgroups : DeclarationLog.groups (log ++ [(.machine machine, .machine t.machineCount)]) =
      log.groups := (DeclarationLog.groups_append _ _).trans (List.append_nil _)
  refine ⟨h.config, ?_, ?_, ?_, ?_, ?_⟩
  · rw [DeclarationLog.machines_append, List.map_append, h.ids]
    exact List.range_succ.symm
  · rw [DeclarationLog.machines_append, List.map_append, h.machines]
    exact (Vector.toList_push ..).symm
  · rw [hgroups]
    exact h.indices
  · rw [hgroups, t.roster_addMachine]
    exact h.roster
  · rw [hgroups]
    exact fun group hgroup => (h.members group hgroup).imp_right
      fun hids id hid => Nat.lt_succ_of_lt (hids id hid)

/-- **One group more.** -/
theorem group (h : AsDeclared config log t) {index : UInt8} (haccepts : t.Accepts capacity ids)
    (hindex : index.toNat = t.groupCount) (hgrown : t.GrownBy capacity ids grown) :
    AsDeclared config (log ++ [(.group capacity ids, .group (.ok index))]) grown := by
  have hmachines :
      DeclarationLog.machines (log ++ [(.group capacity ids, .group (.ok index))]) =
        log.machines := (DeclarationLog.machines_append _ _).trans (List.append_nil _)
  refine ⟨hgrown.config.trans h.config, ?_, ?_, ?_, ?_, ?_⟩
  · rw [hmachines, hgrown.machineCount, h.ids]
  · rw [hmachines, hgrown.machines, h.machines]
  · rw [DeclarationLog.groups_append, List.map_append, h.indices, hgrown.groupCount,
      List.range_succ, ← hindex]
    rfl
  · rw [DeclarationLog.groups_append, List.map_append, h.roster, hgrown.roster]
    rfl
  · rw [DeclarationLog.groups_append, hgrown.machineCount]
    refine List.forall_mem_append.mpr ⟨h.members, List.forall_mem_singleton.mpr ?_⟩
    exact ⟨haccepts.length_le, haccepts.id_lt⟩

/-- A group that is refused is none. -/
theorem refused (h : AsDeclared config log t) (capacity : Nat) (ids : List Nat) (e : Error) :
    AsDeclared config (log ++ [(.group capacity ids, .group (.error e))]) t := by
  have hmachines :
      DeclarationLog.machines (log ++ [(.group capacity ids, .group (.error e))]) =
        log.machines := (DeclarationLog.machines_append _ _).trans (List.append_nil _)
  have hgroups : DeclarationLog.groups (log ++ [(.group capacity ids, .group (.error e))]) =
      log.groups := (DeclarationLog.groups_append _ _).trans (List.append_nil _)
  refine ⟨h.config, ?_, ?_, ?_, ?_, ?_⟩
  · rw [hmachines, h.ids]
  · rw [hmachines, h.machines]
  · rw [hgroups, h.indices]
  · rw [hgroups, h.roster]
  · rw [hgroups]
    exact h.members

/-- **One declaration more**, whatever its answer. -/
theorem declare (h : AsDeclared config log t) (declaration : Declaration μ) :
    AsDeclared config (log ++ [(declaration, (t.declare declaration).1)])
      (t.declare declaration).2 := by
  cases declaration with
  | machine machine => exact h.machine machine
  | group capacity ids =>
    unfold Topology.declare
    dsimp only
    obtain ⟨e, hrefused, -⟩ | ⟨index, grown, haccepted, haccepts, hindex, hgrown⟩ :=
      t.addGroup_cases capacity ids
    · rw [hrefused]
      exact h.refused capacity ids e
    · rw [haccepted]
      exact h.group haccepts hindex hgrown

/-- **All declarations.** -/
theorem declareAll (h : AsDeclared config log t) (declarations : List (Declaration μ)) :
    AsDeclared config (log ++ (t.declareAll declarations).1) (t.declareAll declarations).2 := by
  induction declarations generalizing log t with
  | nil => exact (List.append_nil log).symm ▸ h
  | cons declaration rest ih =>
    have hrest := ih (h.declare declaration)
    rwa [List.append_assoc] at hrest

/-- A group of the log is the one that has its index. -/
theorem exists_group (h : AsDeclared config log t) {group : UInt8 × Nat × List Nat}
    (hgroup : group ∈ log.groups) :
    ∃ g, group = (t.groupId g, (t.groups.get g).queue.capacity,
      (t.groups.get g).members.map Fin.val) := by
  obtain ⟨n, hn⟩ := List.mem_iff_getElem?.mp hgroup
  have hindex := congrArg (fun list => list[n]?) h.indices
  have hroster := congrArg (fun list => list[n]?) h.roster
  rw [List.getElem?_map, hn, Option.map_some] at hindex hroster
  rw [Topology.roster, List.getElem?_map, eq_comm, Option.map_eq_some_iff] at hroster
  obtain ⟨hlt, hval⟩ := List.getElem?_eq_some_iff.mp hindex.symm
  rw [List.length_range] at hlt
  rw [List.getElem_range] at hval
  obtain ⟨found, hfound, hgroup⟩ := hroster
  obtain ⟨_, rfl⟩ := List.getElem?_eq_some_iff.mp hfound
  refine ⟨⟨n, hlt⟩, Prod.ext (UInt8.toNat_inj.mp ?_) ?_⟩
  · rw [t.groupId_toNat, ← hval]
  · rw [← hgroup, Vector.getElem_toList]
    rfl

/-- A machine is in the log under its index. -/
theorem mem_machines (h : AsDeclared config log t) (id : Fin t.machineCount) :
    (id.val, t.machines.get id) ∈ log.machines := by
  have hid := congrArg (fun list => list[id.val]?) h.ids
  have hmachine := congrArg (fun list => list[id.val]?) h.machines
  rw [List.getElem?_map, List.getElem?_range id.isLt] at hid
  rw [List.getElem?_map] at hmachine
  cases hn : log.machines[id.val]? with
  | none =>
    rw [hn] at hid
    cases hid
  | some declared =>
    rw [hn, Option.map_some] at hid hmachine
    refine List.mem_of_getElem? (i := id.val) (hn.trans (congrArg some (Prod.ext ?_ ?_)))
    · exact Option.some.inj hid
    · obtain ⟨hlt, hget⟩ := List.getElem?_eq_some_iff.mp hmachine.symm
      rw [← hget, Vector.getElem_toList]
      rfl

/-- **A declared member is the machine that was added under its index.** -/
theorem member?_eq (h : AsDeclared config log t) {group : UInt8 × Nat × List Nat}
    (hgroup : group ∈ log.groups) {position : UInt8} {id : Nat}
    (hid : group.2.2[position.toNat]? = some id) :
    ∃ k machine, t.member? group.1 position = .ok k ∧ t.machines.get k = machine ∧
      (id, machine) ∈ log.machines := by
  obtain ⟨g, rfl⟩ := h.exists_group hgroup
  rw [List.getElem?_map, Option.map_eq_some_iff] at hid
  obtain ⟨k, hk, rfl⟩ := hid
  refine ⟨k, t.machines.get k, ?_, rfl, h.mem_machines k⟩
  unfold Topology.member?
  rw [t.group?_groupId]
  dsimp only
  rw [hk]

end AsDeclared

variable {t : Topology μ}

/-! ## Coordinates -/

namespace Topology

/-- **The coordinates of a group's members**, written out: no position is
left out, and none wraps. -/
theorem placed_toNat (t : Topology μ) (g : Fin t.groupCount) :
    (t.placed g).map (fun member => (member.1.group.toNat, member.1.position.toNat, member.2)) =
      (t.groups.get g).members.mapIdx fun position id => (g.val, position, id) := by
  have hle := (t.groups.get g).length_le
  have hmax : maxMembers = 255 := rfl
  refine List.ext_getElem (by simp [placed]) fun n hn _ => ?_
  have hlt : n < (t.groups.get g).members.length := by simpa [placed] using hn
  simp only [placed, List.getElem_map, List.getElem_mapIdx, groupId_toNat, Prod.mk.injEq, and_true,
    true_and]
  rw [UInt8.toNat_ofNat']
  omega

end Topology

namespace Scheduler

/-- **Coordinates that are in range name a machine, and others do not**;
what is wrong with those is said of the group first. -/
structure Addresses (s : Scheduler t) : Prop where
  found : ∀ (group position : UInt8) (hgroup : group.toNat < t.groupCount)
    (hposition : position.toNat < (t.groups.get ⟨group.toNat, hgroup⟩).members.length),
    t.member? group position = .ok (t.groups.get ⟨group.toNat, hgroup⟩).members[position.toNat] ∧
      ∃ report, s.status group position = .ok report
  noMachine : ∀ (group position : UInt8) (hgroup : group.toNat < t.groupCount),
    ¬ position.toNat < (t.groups.get ⟨group.toNat, hgroup⟩).members.length →
      t.member? group position = .error (.invalidMachine position) ∧
        s.status group position = .error (.invalidMachine position)
  noGroup : ∀ group position : UInt8, ¬ group.toNat < t.groupCount →
    t.member? group position = .error (.invalidGroup group) ∧
      s.status group position = .error (.invalidGroup group)

theorem addresses (s : Scheduler t) : s.Addresses := by
  refine ⟨fun group position hgroup hposition => ?_, fun group position hgroup hposition => ?_,
    fun group position hgroup => ?_⟩
  · have hfound : t.group? group = .ok ⟨group.toNat, hgroup⟩ := Topology.group?_eq_ok_iff.mpr rfl
    have hmember : t.member? group position =
        .ok (t.groups.get ⟨group.toNat, hgroup⟩).members[position.toNat] := by
      unfold Topology.member?
      rw [hfound]
      dsimp only
      rw [List.getElem?_eq_getElem hposition]
    refine ⟨hmember, ?_⟩
    unfold status
    rw [hfound, hmember]
    exact ⟨_, rfl⟩
  · have hfound : t.group? group = .ok ⟨group.toNat, hgroup⟩ := Topology.group?_eq_ok_iff.mpr rfl
    have hmember : t.member? group position = .error (.invalidMachine position) := by
      unfold Topology.member?
      rw [hfound]
      dsimp only
      rw [List.getElem?_eq_none (Nat.le_of_not_lt hposition)]
    refine ⟨hmember, ?_⟩
    unfold status
    rw [hfound, hmember]
  · have hfound := Topology.group?_eq_error_iff.mpr ⟨rfl, hgroup⟩
    refine ⟨?_, ?_⟩
    · unfold Topology.member?
      rw [hfound]
    · unfold status
      rw [hfound]

/-! ## Starts -/

/-- **At least these places were prepared** since some state. -/
def Prepares (s : Scheduler t) (places : List Coords) (u : Scheduler t) : Prop :=
  ∃ added, u.preparations = s.preparations ++ added ∧ places.Sublist added

/-- What holds of a journal that grows is kept by whatever the machines
do. -/
theorem stable_of_journal {P : Journal → Prop}
    (hP : ∀ entry journal, P journal → P (journal.push entry)) :
    Stable fun u : Scheduler t => P u.journal where
  post group forceNew event u h := by
    obtain ⟨e, -, hpost⟩ | ⟨g, -, ⟨-, hpost⟩ | ⟨-, hpost⟩ | ⟨-, hpost⟩⟩ :=
      u.post_cases group forceNew event
    · exact hpost ▸ hP _ _ h
    · exact hpost ▸ hP _ _ h
    · rw [hpost]
      split <;> exact hP _ _ h
    · exact hpost ▸ hP _ _ h
  wake _ h := h
  requestExit _ h := h
  report entry _ h := hP entry _ h
  setClock _ _ h := h
  amend _ _ h := h
  rewind _ h := h
  write _ _ _ h := h

theorem stable_prepares (s : Scheduler t) (places : List Coords) : Stable (s.Prepares places) :=
  stable_of_journal (P := fun journal => ∃ added,
      journal.toList.filterMap Entry.preparing? = s.preparations ++ added ∧ places.Sublist added)
    fun entry journal ⟨added, hadded, hplaces⟩ => by
      refine ⟨added ++ [entry].filterMap Entry.preparing?, ?_,
        hplaces.trans (List.sublist_append_left ..)⟩
      rw [Array.toList_push, List.filterMap_append, hadded, List.append_assoc]

/-- **One machine more is prepared**, whatever its handler goes on to do. -/
theorem Prepares.prepare {s u : Scheduler t} {places : List Coords} (h : s.Prepares places u)
    {start : Scheduler t → Scheduler t}
    (hstart : ∀ places u, s.Prepares places u → s.Prepares places (start u))
    (member : Coords × Fin t.machineCount) :
    s.Prepares
      (places ++ (if (t.machines.get member.2).init.isSome then some member.1 else none).toList)
      ((t.machines.get member.2).prepare (world start) (slot member.2) member.1 u) := by
  have hstable := s.stable_prepares
    (places ++ (if (t.machines.get member.2).init.isSome then some member.1 else none).toList)
  refine Machine.prepare_begun (hstable.steady.keeps_world (hstart _)).upholds
    (fun _ _ => trivial) (fun status u hu => hstable.write member.2 status u hu)
    (fun _ _ _ => Act.asks_any _) (fun hnone => ?_) fun hsome => ?_
  · rw [hnone]
    exact (List.append_nil places).symm ▸ h
  · rw [hsome]
    obtain ⟨added, hadded, hplaces⟩ := h
    refine ⟨added ++ [member.1], ?_, hplaces.append (.refl _)⟩
    rw [← List.append_assoc, ← hadded]
    exact preparations_report _ u

/-- The initializations of a world whose starts prepare. -/
theorem prepares_prepareAll (s : Scheduler t) {start : Scheduler t → Scheduler t}
    (hstart : ∀ places u, s.Prepares places u → s.Prepares places (start u)) :
    s.Prepares t.prepared (prepareAll (world start) s) := by
  have hgroup (places : List Coords) (u : Scheduler t) (g : Fin t.groupCount)
      (h : s.Prepares places u) :
      s.Prepares (places ++ t.preparedIn g)
        ((t.placed g).foldl (fun u member =>
          (t.machines.get member.2).prepare (world start) (slot member.2) member.1 u) u) := by
    have hfold := foldl_seen (l := t.placed g) (b := u)
      (f := fun u member =>
        (t.machines.get member.2).prepare (world start) (slot member.2) member.1 u)
      (P := fun seen u => s.Prepares (places ++ seen.flatMap fun member =>
        (if (t.machines.get member.2).init.isSome then some member.1 else none).toList) u)
      (fun seen u member _ hu => by
        rw [List.flatMap_append, List.flatMap_singleton, ← List.append_assoc]
        exact hu.prepare hstart member)
      (by rwa [List.flatMap_nil, List.append_nil])
    rwa [← List.filterMap_eq_flatMap_toList] at hfold
  exact foldl_seen (P := fun seen u => s.Prepares (seen.flatMap t.preparedIn) u)
    (fun seen u g _ hu => by
      rw [List.flatMap_append, List.flatMap_singleton]
      exact hgroup _ u g hu)
    ⟨[], (List.append_nil _).symm, .refl []⟩

/-- **A start prepares every place**, whatever the handlers do. -/
theorem prepares_start (s : Scheduler t) : s.Prepares t.prepared s.start := by
  unfold start
  cases t.config.nesting with
  | zero => exact s.prepares_prepareAll fun _ _ h => h
  | succ depth =>
    exact s.prepares_prepareAll fun places u h =>
      (s.stable_prepares places).steady.startWithin depth u h

/-! ## Everyone is reached -/

/-- **Nobody is passed over**: a broadcast is one post to each group, a pass
hands a group's event to each of its positions, and a start prepares all
machines that want it at all of their places. -/
structure ReachesEveryone (s : Scheduler t) : Prop where
  broadcast : ∀ forceNew event,
    Spread forceNew event s t.allGroups (s.broadcast forceNew event)
  pass : s.pass = Chronicled.forget (Chronicled.of s).pass ∧
    ((Chronicled.of s).pass.1 ≠ .exit → ∃ took : Fin t.groupCount → Option Event,
      Chronicled.deliveries (Chronicled.of s).pass.2.chronicle =
        t.allGroups.flatMap fun g => Chronicled.round g (took g))
  start : ∃ added, s.start.preparations = s.preparations ++ added ∧ t.prepared.Sublist added

theorem reachesEveryone (s : Scheduler t) : s.ReachesEveryone := by
  refine ⟨fun forceNew event => s.spread_broadcast forceNew event,
    ⟨Chronicled.scheduler_pass (Chronicled.of s), fun hexit => ?_⟩, s.prepares_start⟩
  obtain ⟨recent, hrecent, took, hdeliveries⟩ :=
    Chronicled.deliveries_pass (v := (Chronicled.of s).pass.2) rfl hexit
  obtain rfl := hrecent.trans (List.append_nil recent)
  exact ⟨took, hdeliveries⟩

end Scheduler

/-! ## The topology as declared -/

/-- **The answer to the declaration of a group**: it is refused for one of
the reasons there are, and nothing changes, or it is taken under the next
index. -/
def Topology.AnswersGroup (t : Topology μ) (capacity : Nat) (ids : List Nat) : Prop :=
  (∃ e, t.Refuses capacity ids e ∧
      t.declare (.group capacity ids) = (.group (.error e), t)) ∨
    ∃ index grown, t.Accepts capacity ids ∧ index.toNat = t.groupCount ∧
      t.GrownBy capacity ids grown ∧
      t.declare (.group capacity ids) = (.group (.ok index), grown)

theorem Topology.answersGroup (t : Topology μ) (capacity : Nat) (ids : List Nat) :
    t.AnswersGroup capacity ids := by
  unfold AnswersGroup declare
  dsimp only
  obtain ⟨e, hrefused, hwhy⟩ | ⟨index, grown, haccepted, haccepts, hindex, hgrown⟩ :=
    t.addGroup_cases capacity ids
  · rw [hrefused]
    exact .inl ⟨e, hwhy, rfl⟩
  · rw [haccepted]
    exact .inr ⟨index, grown, haccepts, hindex, hgrown, rfl⟩

/-- Putting a scheduler together takes a group. -/
theorem Scheduler.exists_build_iff (t : Topology μ) (memory : μ) :
    (∃ s, build t memory = .ok s) ↔ t.groupCount ≠ 0 := by
  unfold build
  split
  · next hnone => exact ⟨nofun, fun h => absurd hnone h⟩
  · next hsome => exact ⟨fun _ => hsome, fun _ => ⟨_, rfl⟩⟩

/-- **A topology is as it was declared.** After any declarations, taken or
refused, it has the machines and groups that were answered by an index,
under that index; the next group is again taken under the next index or
refused without a trace. Each member is the machine that was added under
its index. Once a scheduler is put together, coordinates name machines just
where there are members, and no group and no position is passed over. -/
theorem topology_as_declared (config : Config) (declarations : List (Declaration μ)) :
    let log := ((Topology.empty config).declareAll declarations).1
    let t := ((Topology.empty config).declareAll declarations).2
    AsDeclared config log t ∧
      t.groupCount ≤ maxGroups ∧
      (∀ capacity ids, t.AnswersGroup capacity ids) ∧
      (∀ group ∈ log.groups, ∀ (position : UInt8) (id : Nat),
        group.2.2[position.toNat]? = some id →
          ∃ k machine, t.member? group.1 position = .ok k ∧ t.machines.get k = machine ∧
            (id, machine) ∈ log.machines) ∧
      (∀ g, (t.placed g).map (fun member =>
          (member.1.group.toNat, member.1.position.toNat, member.2)) =
        (t.groups.get g).members.mapIdx fun position id => (g.val, position, id)) ∧
      (∀ memory, (∃ s, Scheduler.build t memory = .ok s) ↔ t.groupCount ≠ 0) ∧
      ∀ s : Scheduler t, s.Addresses ∧ s.ReachesEveryone := by
  intro log t
  have hdeclared : AsDeclared config log t := (AsDeclared.empty config).declareAll declarations
  exact ⟨hdeclared, t.groupCount_le, t.answersGroup,
    fun _ hgroup _ _ hid => hdeclared.member?_eq hgroup hid, t.placed_toNat,
    Scheduler.exists_build_iff t, fun s => ⟨s.addresses, s.reachesEveryone⟩⟩

/-- Two alarm clocks and two groups, with a refusal after each. -/
def Declaration.mixed : List (Declaration Unit) :=
  [.machine (Alarm.machine 3), .group 2 [0], .group 2 [0, 1], .machine (Alarm.machine 5),
    .group 1 [1, 0], .group 256 [1]]

/-- **Refused groups do not count.** A group is refused whose second member
does not exist yet, and one whose queue is too long; the groups taken
before and in between have indices 0 and 1, and the first position of the
second is the second machine. -/
theorem topology_as_declared_mixed :
    let log := ((Topology.empty Config.default).declareAll Declaration.mixed).1
    let t := ((Topology.empty Config.default).declareAll Declaration.mixed).2
    log.groups = [(0, 2, [0]), (1, 1, [1, 0])] ∧ t.groupCount = 2 ∧
      (∃ s, Scheduler.build t () = .ok s ∧ s.Addresses ∧ s.ReachesEveryone ∧
        s.status 2 0 = .error (.invalidGroup 2) ∧ s.status 1 2 = .error (.invalidMachine 2)) ∧
      (∃ k machine, t.member? 1 0 = .ok k ∧ t.machines.get k = machine ∧
        (1, machine) ∈ log.machines) ∧
      t.AnswersGroup 2 [0, 1, 7] := by
  intro log t
  have hgroups : log.groups = [(0, 2, [0]), (1, 1, [1, 0])] := by with_unfolding_all rfl
  have hcount : t.groupCount = 2 := by with_unfolding_all rfl
  obtain ⟨-, -, hanswers, hmembers, -, hbuild, hserves⟩ :=
    topology_as_declared Config.default Declaration.mixed
  obtain ⟨s, hs⟩ := (hbuild ()).mpr (hcount.trans_ne (by decide))
  have haddresses := (hserves s).1
  refine ⟨hgroups, hcount, ⟨s, hs, haddresses, (hserves s).2, ?_, ?_⟩, ?_, hanswers 2 [0, 1, 7]⟩
  · exact (haddresses.noGroup 2 0 (hcount.symm ▸ by decide)).2
  · refine (haddresses.noMachine 1 2 (hcount.symm ▸ by decide) (Nat.not_lt_of_le ?_)).2
    exact Nat.le_of_eq (by with_unfolding_all rfl)
  · exact hmembers (1, 1, [1, 0]) (hgroups.symm ▸ by decide) 0 1 rfl

end TimedMachines
