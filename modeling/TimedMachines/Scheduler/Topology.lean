import TimedMachines.EventQueue
import TimedMachines.Machine
import TimedMachines.Vector

/-!
# Topologies

What a scheduler is made of: its configuration, its machines, and groups
of machines that share an event queue. Machines are declared before the
groups that hold them, and a machine may belong to several groups, or to
one at several positions.

Groups refer to machines by `Fin`, so a member that names no machine
cannot be built; `addGroup` refuses such members instead, and leaves the
topology as it was whenever it fails.
-/

namespace TimedMachines

/-- **How a scheduler behaves.** -/
structure Config where
  /-- The name that opens its messages. -/
  name : String
  /-- How wakeups are computed. -/
  timing : Timing
  /-- Whether an event that coalesced wakes the scheduler too. -/
  wakeOnCoalesce : Bool
  /-- How deep starts may nest: an initialization handler that resets the
  scheduler starts it again within itself, and at this depth that runs no
  handler any more. -/
  nesting : Nat
deriving DecidableEq, Repr

/-- The configuration of a scheduler that says nothing about it. Starts
nest deeper than any run that ends can take them. -/
def Config.default : Config :=
  ⟨"OFSM", ⟨0, .beforeHandler⟩, true, 0x4000_0000_0000_0000⟩

/-- **Machines that share a queue**, by index among `machines`. -/
structure Group (machines : Nat) where
  /-- The machines, by position. -/
  members : List (Fin machines)
  /-- The queue at startup, empty and of the declared capacity. -/
  queue : EventQueue
  length_le : members.length ≤ maxMembers
  queue_empty : queue.toList = []

/-- **The machines and groups of a scheduler.** -/
structure Topology (μ : Type) where
  /-- The configuration. -/
  config : Config
  /-- The number of machines. -/
  machineCount : Nat
  /-- The machines, in the order they were declared. -/
  machines : Vector (Machine μ) machineCount
  /-- The number of groups. -/
  groupCount : Nat
  /-- The groups, in the order they were declared. -/
  groups : Vector (Group machineCount) groupCount
  groupCount_le : groupCount ≤ maxGroups

namespace Topology

variable {μ : Type}

/-- A topology to which nothing was added. -/
def empty (config : Config) : Topology μ where
  config := config
  machineCount := 0
  machines := #v[]
  groupCount := 0
  groups := #v[]
  groupCount_le := Nat.zero_le _

/-- The topology with another machine, whose index is the number of
machines before. -/
def addMachine (t : Topology μ) (machine : Machine μ) : Topology μ where
  config := t.config
  machineCount := t.machineCount + 1
  machines := t.machines.push machine
  groupCount := t.groupCount
  groups := t.groups.map fun group =>
    { members := group.members.map Fin.castSucc
      queue := group.queue
      length_le := by simpa using group.length_le
      queue_empty := group.queue_empty }
  groupCount_le := t.groupCount_le

/-- The machine indices among `ids`, up to the first that is none; its
position is the error. -/
def resolve (machines : Nat) : List Nat → Nat → Except Nat (List (Fin machines))
  | [], _ => .ok []
  | id :: ids, position =>
    if h : id < machines then
      (resolve machines ids (position + 1)).map (⟨id, h⟩ :: ·)
    else
      .error position

theorem length_of_resolve {machines : Nat} {ids : List Nat} {position : Nat}
    {members : List (Fin machines)} (h : resolve machines ids position = .ok members) :
    members.length = ids.length := by
  induction ids generalizing position members with
  | nil =>
    cases h
    rfl
  | cons id ids ih =>
    unfold resolve at h
    split at h
    · cases hrest : resolve machines ids (position + 1) with
      | error e =>
        rw [hrest] at h
        cases h
      | ok rest =>
        rw [hrest] at h
        cases h
        simp [ih hrest]
    · cases h

/-- **The topology with another group**, of the machines with the given
indices, and the index of that group. The checks come in this order: is
an index left for the group, are there positions for its members, does
every member exist, can the queue have that capacity. -/
def addGroup (t : Topology μ) (capacity : Nat) (ids : List Nat) :
    Except Error (UInt8 × Topology μ) :=
  if hgroups : t.groupCount < maxGroups then
    if hmembers : ids.length ≤ maxMembers then
      match hids : resolve t.machineCount ids 0 with
      | .error position => .error (.invalidMachine (UInt8.ofNat position))
      | .ok members =>
        match hqueue : EventQueue.create capacity with
        | .error e => .error e
        | .ok queue =>
          .ok (UInt8.ofNat t.groupCount,
            { config := t.config
              machineCount := t.machineCount
              machines := t.machines
              groupCount := t.groupCount + 1
              groups := t.groups.push
                { members := members
                  queue := queue
                  length_le := by
                    rw [length_of_resolve hids]
                    exact hmembers
                  queue_empty := (EventQueue.toList_of_create hqueue).1 }
              groupCount_le := hgroups })
    else
      .error .tooManyMachines
  else
    .error .tooManyGroups

/-- The index of a group as a byte; no two groups share it. -/
def groupId (t : Topology μ) (group : Fin t.groupCount) : UInt8 :=
  UInt8.ofNat group

/-- The group with an index. -/
def group? (t : Topology μ) (index : UInt8) : Except Error (Fin t.groupCount) :=
  if h : index.toNat < t.groupCount then .ok ⟨index.toNat, h⟩ else .error (.invalidGroup index)

/-- The machine at a position of a group. -/
def member? (t : Topology μ) (group position : UInt8) : Except Error (Fin t.machineCount) :=
  match t.group? group with
  | .error e => .error e
  | .ok g =>
    match (t.groups.get g).members[position.toNat]? with
    | some id => .ok id
    | none => .error (.invalidMachine position)

/-- The members of a group with their coordinates, in order of position. -/
def placed (t : Topology μ) (group : Fin t.groupCount) : List (Coords × Fin t.machineCount) :=
  (t.groups.get group).members.mapIdx fun position id =>
    (⟨t.groupId group, UInt8.ofNat position⟩, id)

/-- The machine is a member of a group. -/
def Hosts (t : Topology μ) (id : Fin t.machineCount) : Prop :=
  ∃ g : Fin t.groupCount, id ∈ (t.groups.get g).members

theorem map_snd_placed (t : Topology μ) (g : Fin t.groupCount) :
    (t.placed g).map Prod.snd = (t.groups.get g).members := by
  refine List.ext_getElem (by simp [placed]) fun n _ _ => ?_
  simp [placed]

theorem hosts_of_placed {t : Topology μ} {g : Fin t.groupCount}
    {member : Coords × Fin t.machineCount} (h : member ∈ t.placed g) :
    t.Hosts member.2 := by
  have hmem : member.2 ∈ (t.placed g).map Prod.snd := List.mem_map_of_mem h
  rw [t.map_snd_placed] at hmem
  exact ⟨g, hmem⟩

/-- The groups, in order of index. -/
def allGroups (t : Topology μ) : List (Fin t.groupCount) :=
  List.finRange t.groupCount

theorem groupId_toNat (t : Topology μ) (group : Fin t.groupCount) :
    (t.groupId group).toNat = group := by
  have := t.groupCount_le
  have : maxGroups = 255 := rfl
  have := group.isLt
  simp [groupId]
  omega

/-- No group is among those before it. -/
theorem notMem_of_allGroups_eq {t : Topology μ} {seen rest : List (Fin t.groupCount)}
    {group : Fin t.groupCount} (h : t.allGroups = seen ++ group :: rest) : group ∉ seen := by
  intro hmem
  have hnodup : t.allGroups.Nodup := List.nodup_finRange _
  rw [h] at hnodup
  exact (List.nodup_append.mp hnodup).2.2 group hmem group List.mem_cons_self rfl

/-- Every group is found under its index. -/
theorem group?_groupId (t : Topology μ) (group : Fin t.groupCount) :
    t.group? (t.groupId group) = .ok group := by
  unfold group?
  simp only [groupId_toNat, group.isLt, dif_pos]

theorem group?_eq_ok_iff {t : Topology μ} {index : UInt8} {group : Fin t.groupCount} :
    t.group? index = .ok group ↔ index.toNat = group := by
  unfold group?
  split
  · rw [Except.ok.injEq, Fin.ext_iff]
  · next h => exact ⟨nofun, fun heq => absurd (heq ▸ group.isLt) h⟩

/-- No group is found under an index that is out of range. -/
theorem group?_eq_error_iff {t : Topology μ} {index : UInt8} {e : Error} :
    t.group? index = .error e ↔ .invalidGroup index = e ∧ ¬ index.toNat < t.groupCount := by
  unfold group?
  split
  · next h => exact ⟨nofun, fun heq => absurd h heq.2⟩
  · next h => rw [Except.error.injEq, and_iff_left h]

end Topology

end TimedMachines
