import TimedMachines.EventQueue

/-!
# The ring is a bounded list

Nothing that can be seen of an event queue depends on where in the ring
its events are. `BoundedList` is what is left without the ring: a list of
events, the oldest first, that is never longer than the capacity. Its
operations say what the queue is for, in terms of the newest event and of
the room that is left, and have no slots, no indices and no flag.

`EventQueue.contents` forgets the ring, and every operation commutes with
it (`perform_contents`); so a queue and a list that begin empty answer
alike for as long as the same is done to them (`ring_refines_list`). The
cases in which a ring could go wrong – a single slot, a full ring that
looks like an empty one, a slot that still holds an event that was taken –
need no care here, since the list has none of them.
-/

namespace TimedMachines

/-! ## Lists with room for so many events -/

/-- **Pending events as a list**, the oldest first. -/
structure BoundedList where
  /-- The most events there can be. -/
  capacity : Nat
  /-- The events. -/
  events : List Event
  capacity_pos : 0 < capacity
  length_le : events.length ≤ capacity
deriving DecidableEq, Repr

/-- **What can be done to a queue.** -/
inductive QueueOperation where
  /-- Add an event, which may insist on a slot of its own. -/
  | push (forceNew : Bool) (event : Event)
  /-- Take the oldest event. -/
  | pop
  /-- Forget all events. -/
  | clear
deriving DecidableEq, Repr

/-- What a queue answers. -/
inductive QueueAnswer where
  /-- What became of an event that was to be added. -/
  | pushed (outcome : Except Error Enqueued)
  /-- The oldest event, if there was one, and whether more are pending. -/
  | popped (event : Option (Event × Bool))
  /-- All events are forgotten. -/
  | cleared

namespace BoundedList

/-- No event. -/
def empty (capacity : Nat) (h : 0 < capacity) : BoundedList :=
  ⟨capacity, [], h, Nat.zero_le _⟩

/-- The list with other data in its last event. -/
def replaceNewest (l : BoundedList) (newest : Event) (data : EventData)
    (h : l.events.getLast? = some newest) : BoundedList where
  capacity := l.capacity
  events := l.events.dropLast ++ [{ newest with data := data }]
  capacity_pos := l.capacity_pos
  length_le := by
    have hpos : 0 < l.events.length := List.length_pos_of_mem (List.mem_of_getLast? h)
    have := l.length_le
    simp only [List.length_append, List.length_dropLast, List.length_singleton]
    omega

/-- The list with one event more. -/
def append (l : BoundedList) (event : Event) (h : l.events.length < l.capacity) : BoundedList where
  capacity := l.capacity
  events := l.events ++ [event]
  capacity_pos := l.capacity_pos
  length_le := by
    rw [List.length_append]
    exact h

/-- **Adding an event.** To an empty list it is added. If there is room
beside other events, it merges with the newest one if their codes agree
and it does not insist on a slot or is a timeout, and is added otherwise.
If there is no room, it merges if the codes agree and it does not insist,
and is refused otherwise. -/
def push (l : BoundedList) (forceNew : Bool) (event : Event) :
    Except Error Enqueued × BoundedList :=
  match h : l.events.getLast? with
  | none =>
    (.ok .appended, l.append event (by
      rw [List.getLast?_eq_none_iff.mp h]
      exact l.capacity_pos))
  | some newest =>
    if room : l.events.length < l.capacity then
      if newest.code = event.code ∧ (forceNew = false ∨ event.isTimeout = true) then
        (.ok .coalesced, l.replaceNewest newest event.data h)
      else
        (.ok .appended, l.append event room)
    else if newest.code = event.code ∧ forceNew = false then
      (.ok .coalesced, l.replaceNewest newest event.data h)
    else
      (.error .queueFull, l)

/-- **Taking the oldest event**, with whether more are pending. -/
def pop (l : BoundedList) : Option (Event × Bool) × BoundedList :=
  match h : l.events with
  | [] => (none, l)
  | oldest :: rest =>
    (some (oldest, !rest.isEmpty), ⟨l.capacity, rest, l.capacity_pos, by
      have := l.length_le
      rw [h, List.length_cons] at this
      omega⟩)

/-- One operation, and its answer. -/
def perform (l : BoundedList) : QueueOperation → QueueAnswer × BoundedList
  | .push forceNew event => ((.pushed (l.push forceNew event).1), (l.push forceNew event).2)
  | .pop => (.popped l.pop.1, l.pop.2)
  | .clear => (.cleared, empty l.capacity l.capacity_pos)

/-- Some operations, the first of the list first, and their answers. -/
def performAll (l : BoundedList) : List QueueOperation → List QueueAnswer × BoundedList
  | [] => ([], l)
  | operation :: rest =>
    let (answer, l) := l.perform operation
    let (answers, l) := l.performAll rest
    (answer :: answers, l)

/-- No operation changes the capacity. -/
theorem capacity_perform (l : BoundedList) (operation : QueueOperation) :
    (l.perform operation).2.capacity = l.capacity := by
  cases operation with
  | push forceNew event =>
    simp only [perform, push]
    split
    · rfl
    · split
      · split <;> rfl
      · split <;> rfl
  | pop =>
    simp only [perform, pop]
    split <;> rfl
  | clear => rfl

theorem capacity_performAll (l : BoundedList) (operations : List QueueOperation) :
    (l.performAll operations).2.capacity = l.capacity := by
  induction operations generalizing l with
  | nil => rfl
  | cons operation rest ih => exact (ih _).trans (l.capacity_perform operation)

end BoundedList

/-! ## The ring -/

namespace EventQueue

/-- **The queue without its ring.** -/
def contents (q : EventQueue) : BoundedList where
  capacity := q.capacity
  events := q.toList
  capacity_pos := q.capacity_pos
  length_le := q.length_toList ▸ q.size_le_capacity

/-- One operation, and its answer. -/
def perform (q : EventQueue) : QueueOperation → QueueAnswer × EventQueue
  | .push forceNew event => (.pushed (q.push forceNew event).1, (q.push forceNew event).2)
  | .pop =>
    match q.pop with
    | some (event, rest) => (.popped (some (event, !rest.isEmpty)), rest)
    | none => (.popped none, q)
  | .clear => (.cleared, q.clear)

/-- Some operations, the first of the list first, and their answers. -/
def performAll (q : EventQueue) : List QueueOperation → List QueueAnswer × EventQueue
  | [] => ([], q)
  | operation :: rest =>
    let (answer, q) := q.perform operation
    let (answers, q) := q.performAll rest
    (answer :: answers, q)

/-! ## Every operation commutes with the view -/

theorem isEmpty_eq (q : EventQueue) : q.isEmpty = q.toList.isEmpty := by
  rw [Bool.eq_iff_iff, isEmpty_iff, List.isEmpty_iff]

/-- There is room as long as the queue is not full. -/
theorem room_iff (q : EventQueue) :
    q.contents.events.length < q.contents.capacity ↔ q.full = false := by
  have hle := q.contents.length_le
  have hfull := q.full_iff
  rw [← Bool.not_eq_true, hfull]
  exact ⟨fun h => Nat.ne_of_lt h, fun h => Nat.lt_of_le_of_ne hle h⟩

theorem contents_append (q : EventQueue) (event : Event) (h : q.full = false) :
    (q.append event).contents = q.contents.append event (q.room_iff.mpr h) := by
  simp only [contents, BoundedList.append, capacity_append, q.toList_append event h]

theorem contents_replaceNewest (q : EventQueue) (data : EventData) (h : q.isEmpty = false) :
    (q.replaceNewest data).contents =
      q.contents.replaceNewest q.newest data (q.getLast?_toList h) := by
  simp only [contents, BoundedList.replaceNewest, capacity_replaceNewest,
    q.toList_replaceNewest data h]

/-- **When an event merges with the newest one**: their codes agree, and
it does not insist on a slot or is a timeout that could have one. -/
theorem merges_iff (q : EventQueue) (h : q.isEmpty = false) (forceNew : Bool) (event : Event) :
    (!q.needsSlot forceNew event && q.newest.code == event.code) = true ↔
      q.newest.code = event.code ∧
        (forceNew = false ∨ (q.full = false ∧ event.isTimeout = true)) := by
  cases hfull : q.full with
  | true => simp [needsSlot, hfull, and_comm]
  | false => simp [needsSlot, hfull, h, and_comm]

/-- **A push on the ring is a push on the list**, with the same answer. -/
theorem push_contents (q : EventQueue) (forceNew : Bool) (event : Event) :
    (q.push forceNew event).1 = (q.contents.push forceNew event).1 ∧
      (q.push forceNew event).2.contents = (q.contents.push forceNew event).2 := by
  unfold BoundedList.push
  split
  · next hnone =>
    -- an empty queue has nothing to merge with, and room for the event
    have hempty : q.isEmpty = true := q.isEmpty_iff.mpr (List.getLast?_eq_none_iff.mp hnone)
    have hroom : q.full = false := by
      simp only [isEmpty, Bool.and_eq_true, Bool.not_eq_true'] at hempty
      exact hempty.2
    have hpush : q.push forceNew event = (.ok .appended, q.append event) := by
      simp [push, needsSlot, hroom, hempty]
    rw [hpush]
    exact ⟨rfl, q.contents_append event hroom⟩
  · next newest hnewest =>
    have hpending : q.isEmpty = false := by
      rw [← Bool.not_eq_true, isEmpty_iff]
      intro hnil
      rw [show q.contents.events = q.toList from rfl, hnil] at hnewest
      cases hnewest
    obtain rfl : newest = q.newest :=
      Option.some.inj (hnewest.symm.trans (q.getLast?_toList hpending))
    have hmerges := q.merges_iff hpending forceNew event
    split
    · next room =>
      have hroom : q.full = false := q.room_iff.mp room
      simp only [hroom, true_and] at hmerges
      split
      · next h =>
        rw [push, if_pos (hmerges.mpr h)]
        exact ⟨rfl, q.contents_replaceNewest event.data hpending⟩
      · next h =>
        rw [push, if_neg (mt hmerges.mp h), if_neg (ne_true_of_eq_false hroom)]
        exact ⟨rfl, q.contents_append event hroom⟩
    · next room =>
      have hfull : q.full = true := by
        rw [← Bool.not_eq_false, ← room_iff]
        exact room
      simp only [hfull, Bool.true_eq_false, false_and, or_false] at hmerges
      split
      · next h =>
        rw [push, if_pos (hmerges.mpr h)]
        exact ⟨rfl, q.contents_replaceNewest event.data hpending⟩
      · next h =>
        rw [push, if_neg (mt hmerges.mp h), if_pos hfull]
        exact ⟨rfl, rfl⟩

theorem capacity_of_pop {q rest : EventQueue} {event : Event}
    (h : q.pop = some (event, rest)) : rest.capacity = q.capacity := by
  unfold pop at h
  split at h
  · cases h
  · cases h
    rfl

/-- **Every operation on the ring is one on the list**, with the same
answer. -/
theorem perform_contents (q : EventQueue) (operation : QueueOperation) :
    (q.perform operation).1 = (q.contents.perform operation).1 ∧
      (q.perform operation).2.contents = (q.contents.perform operation).2 := by
  cases operation with
  | push forceNew event =>
    obtain ⟨hanswer, hcontents⟩ := q.push_contents forceNew event
    exact ⟨congrArg QueueAnswer.pushed hanswer, hcontents⟩
  | pop =>
    unfold perform BoundedList.perform BoundedList.pop
    dsimp only
    split
    · next event rest hpop =>
      have hlist := toList_of_pop hpop
      split
      · next hnil => exact absurd (hlist.symm.trans hnil) (List.cons_ne_nil _ _)
      · next oldest others hcons =>
        obtain ⟨rfl, rfl⟩ := List.cons.inj (hlist.symm.trans hcons)
        rw [isEmpty_eq]
        refine ⟨rfl, ?_⟩
        simp only [contents, capacity_of_pop hpop]
    · next hpop =>
      have hlist : q.contents.events = [] := q.pop_eq_none_iff.mp hpop
      split
      · exact ⟨rfl, rfl⟩
      · next hcons => exact absurd (hlist.symm.trans hcons).symm (List.cons_ne_nil _ _)
  | clear =>
    refine ⟨rfl, ?_⟩
    simp only [perform, BoundedList.perform, BoundedList.empty, contents, toList_clear]
    rfl

theorem performAll_contents (q : EventQueue) (operations : List QueueOperation) :
    (q.performAll operations).1 = (q.contents.performAll operations).1 ∧
      (q.performAll operations).2.contents = (q.contents.performAll operations).2 := by
  induction operations generalizing q with
  | nil => exact ⟨rfl, rfl⟩
  | cons operation rest ih =>
    obtain ⟨hanswer, hcontents⟩ := q.perform_contents operation
    obtain ⟨hanswers, hrest⟩ := ih (q.perform operation).2
    rw [hcontents] at hanswers hrest
    simp only [performAll, BoundedList.performAll]
    rw [hanswer, hanswers, hrest]
    exact ⟨rfl, rfl⟩

/-! ## Runs -/

theorem exists_create {capacity : Nat} (hpos : 0 < capacity) (hle : capacity ≤ maxSlots) :
    ∃ q, create capacity = .ok q := by
  unfold create
  rw [dif_pos ⟨hpos, hle⟩]
  exact ⟨_, rfl⟩

/-- **The ring refines a bounded list.** A queue can be made with any
capacity from 1 to 255, and whatever is then done to it, every answer is
that of a list of at most so many events to which the same is done. After
each operation the pending events are the events of the list, in order;
their number, whether there are none, and whether there is no room, are
that of the list; and every slot that an operation can touch next is one
of the ring: that of the oldest event, the next free one, the one before
it, and those of all pending events. -/
theorem ring_refines_list {capacity : Nat} (hpos : 0 < capacity) (hle : capacity ≤ 255) :
    ∃ q, create capacity = .ok q ∧ ∀ operations : List QueueOperation,
      let ring := q.performAll operations
      let list := (BoundedList.empty capacity hpos).performAll operations
      ring.1 = list.1 ∧
        (ring.2.toList = list.2.events ∧ ring.2.size = list.2.events.length ∧
          (ring.2.isEmpty = true ↔ list.2.events = []) ∧
          (ring.2.full = true ↔ list.2.events.length = capacity) ∧
          list.2.events.length ≤ capacity) ∧
        ring.2.slots.size = capacity ∧ ring.2.head < capacity ∧ ring.2.tail < capacity ∧
          ring.2.newestSlot < capacity ∧ ∀ n < ring.2.size, ring.2.slotAt n < capacity := by
  obtain ⟨q, hcreate⟩ := exists_create hpos hle
  refine ⟨q, hcreate, fun operations => ?_⟩
  obtain ⟨hnil, hcapacity⟩ := toList_of_create hcreate
  have hbegin : q.contents = BoundedList.empty capacity hpos := by
    simp only [contents, BoundedList.empty, hnil, hcapacity]
  obtain ⟨hanswers, hcontents⟩ := q.performAll_contents operations
  rw [hbegin] at hanswers hcontents
  intro ring list
  have hevents : ring.2.toList = list.2.events := congrArg BoundedList.events hcontents
  have hring : ring.2.capacity = capacity :=
    (congrArg BoundedList.capacity hcontents).trans (BoundedList.capacity_performAll _ operations)
  refine ⟨hanswers, ⟨hevents, ?_, ?_, ?_, ?_⟩, hring, ?_, ?_, ?_, fun n hn => ?_⟩
  · rw [← hevents, length_toList]
  · rw [← hevents, isEmpty_iff]
  · rw [← hevents, full_iff, hring]
  · rw [← hevents, length_toList, ← hring]
    exact ring.2.size_le_capacity
  · exact hring ▸ ring.2.head_lt
  · exact hring ▸ ring.2.tail_lt
  · exact hring ▸ ring.2.newestSlot_lt
  · rw [← hring]
    exact ring.2.slotAt_lt (Nat.le_trans (Nat.le_of_lt hn) ring.2.size_le_capacity)

/-- Two slots, filled past the end of the ring: an event that insists is
refused, the newest one takes other data all the same, and a timeout
merges into a timeout even if it insists, once there is room. -/
theorem ring_refines_list_wrapped :
    let operations : List QueueOperation :=
      [.push true ⟨1, 0⟩, .push true ⟨2, 0⟩, .pop, .push true ⟨3, 0⟩, .push true ⟨3, 1⟩,
        .push false ⟨3, 2⟩, .pop, .pop, .pop, .push true ⟨0, 3⟩, .push true ⟨0, 4⟩]
    0 < 2 ∧ 2 ≤ 255 ∧ ∃ q, create 2 = .ok q ∧
      (q.performAll operations).1 =
        [.pushed (.ok .appended), .pushed (.ok .appended), .popped (some (⟨1, 0⟩, true)),
          .pushed (.ok .appended), .pushed (.error .queueFull), .pushed (.ok .coalesced),
          .popped (some (⟨2, 0⟩, true)), .popped (some (⟨3, 2⟩, false)), .popped none,
          .pushed (.ok .appended), .pushed (.ok .coalesced)] ∧
      (q.performAll operations).2.toList = [⟨0, 4⟩] := by
  intro operations
  obtain ⟨q, hcreate, hrefines⟩ := ring_refines_list (show 0 < 2 by decide) (by decide)
  obtain ⟨hanswers, ⟨hevents, -⟩, -⟩ := hrefines operations
  exact ⟨by decide, by decide, q, hcreate, hanswers, hevents⟩

end EventQueue

end TimedMachines
