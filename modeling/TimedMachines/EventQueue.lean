import TimedMachines.Error
import TimedMachines.Event
import TimedMachines.Limits

/-!
# Event queues

A group keeps its pending events in a ring of slots. `head` is the slot
of the oldest pending event and `tail` the next one to be taken; since
both may be the same slot when nothing is pending and when every slot is
taken, a flag tells the two apart. The view of a queue is
`EventQueue.toList`, its pending events with the oldest first; an event
that takes a slot is added at its end (`toList_append`), one that
coalesces changes its last event (`toList_replaceNewest`), and a pop
takes away its first (`toList_of_pop`).

Events coalesce: an event whose code is that of the newest pending event
replaces its data and takes no slot, unless the producer asks for a slot
of its own. Timeouts never need a second slot – one behind the other says
nothing new – so that wish is ignored for them while a slot is free and
something is pending.
-/

namespace TimedMachines

/-- **A ring of pending events.** -/
structure EventQueue where
  /-- The slots, pending or stale. -/
  slots : Array Event
  /-- The slot of the oldest pending event. -/
  head : Nat
  /-- The slot that the next event takes. -/
  tail : Nat
  /-- Whether every slot holds a pending event. -/
  full : Bool
  head_lt : head < slots.size
  tail_lt : tail < slots.size
  head_eq_tail : full = true → head = tail

namespace EventQueue

/-- An empty queue with room for `capacity` events, which must be at
least one and at most `maxSlots`. -/
def create (capacity : Nat) : Except Error EventQueue :=
  if h : 0 < capacity ∧ capacity ≤ maxSlots then
    .ok ⟨Array.replicate capacity .timeout, 0, 0, false, by simpa using h.1, by simpa using h.1,
      fun _ => rfl⟩
  else
    .error (.queueCapacity capacity)

/-- The number of slots. -/
def capacity (q : EventQueue) : Nat :=
  q.slots.size

/-- The slot after a slot; the first follows the last. -/
def next (q : EventQueue) (slot : Nat) : Nat :=
  if slot + 1 = q.capacity then 0 else slot + 1

/-- The slot before a slot; the last comes before the first. -/
def previous (q : EventQueue) (slot : Nat) : Nat :=
  if slot = 0 then q.capacity - 1 else slot - 1

theorem capacity_pos (q : EventQueue) : 0 < q.capacity :=
  Nat.lt_of_le_of_lt (Nat.zero_le _) q.head_lt

theorem next_lt (q : EventQueue) {slot : Nat} (h : slot < q.capacity) :
    q.next slot < q.capacity := by
  unfold next
  split <;> omega

theorem previous_lt (q : EventQueue) {slot : Nat} (h : slot < q.capacity) :
    q.previous slot < q.capacity := by
  unfold previous
  split <;> omega

/-- Whether nothing is pending. -/
def isEmpty (q : EventQueue) : Bool :=
  q.head == q.tail && !q.full

/-- The number of pending events: the way from `head` to `tail`, all
around if the queue is full. -/
def size (q : EventQueue) : Nat :=
  if q.full then q.capacity
  else if q.head ≤ q.tail then q.tail - q.head
  else q.tail + q.capacity - q.head

/-- The slot `n` places behind the oldest event. -/
def slotAt (q : EventQueue) (n : Nat) : Nat :=
  if q.head + n < q.capacity then q.head + n else q.head + n - q.capacity

/-- A queue never holds more events than it has slots. -/
theorem size_le_capacity (q : EventQueue) : q.size ≤ q.capacity := by
  have := q.head_lt
  have := q.tail_lt
  unfold size capacity
  split <;> (try split) <;> omega

theorem slotAt_lt (q : EventQueue) {n : Nat} (h : n ≤ q.capacity) : q.slotAt n < q.capacity := by
  have : q.head < q.capacity := q.head_lt
  unfold slotAt
  split <;> omega

/-- **The pending events**, the oldest first. -/
def toList (q : EventQueue) : List Event :=
  List.ofFn fun n : Fin q.size =>
    getElem q.slots (q.slotAt n)
      (q.slotAt_lt (Nat.le_trans (Nat.le_of_lt n.isLt) q.size_le_capacity))

/-- The slot before the next free one; it holds the newest pending event
if there is one. -/
def newestSlot (q : EventQueue) : Nat :=
  q.previous q.tail

theorem newestSlot_lt (q : EventQueue) : q.newestSlot < q.slots.size :=
  q.previous_lt q.tail_lt

/-- The newest pending event, if there is one. -/
def newest (q : EventQueue) : Event :=
  getElem q.slots q.newestSlot q.newestSlot_lt

/-- Whether an event must have a slot of its own: an empty queue has
nothing to coalesce with, and a timeout forgoes the wish as long as a
slot is free. -/
def needsSlot (q : EventQueue) (forceNew : Bool) (event : Event) : Bool :=
  if q.full then forceNew else q.isEmpty || (forceNew && !event.isTimeout)

/-- The queue with other data in its newest event. -/
def replaceNewest (q : EventQueue) (data : EventData) : EventQueue where
  slots := q.slots.set q.newestSlot { q.newest with data := data } q.newestSlot_lt
  head := q.head
  tail := q.tail
  full := q.full
  head_lt := by simpa using q.head_lt
  tail_lt := by simpa using q.tail_lt
  head_eq_tail := q.head_eq_tail

/-- The queue with an event in the next free slot. -/
def append (q : EventQueue) (event : Event) : EventQueue where
  slots := q.slots.set q.tail event q.tail_lt
  head := q.head
  tail := q.next q.tail
  full := q.next q.tail == q.head
  head_lt := by simpa using q.head_lt
  tail_lt := by
    rw [Array.size_set]
    exact q.next_lt q.tail_lt
  head_eq_tail := fun h => (beq_iff_eq.mp h).symm

/-- **Adding an event.** It coalesces with the newest pending event if
their codes agree and it needs no slot of its own; otherwise it takes a
slot, and is refused if there is none. -/
def push (q : EventQueue) (forceNew : Bool) (event : Event) :
    Except Error Enqueued × EventQueue :=
  if !q.needsSlot forceNew event && q.newest.code == event.code then
    (.ok .coalesced, q.replaceNewest event.data)
  else if q.full then
    (.error .queueFull, q)
  else
    (.ok .appended, q.append event)

/-- The queue without its oldest event. -/
def dropOldest (q : EventQueue) : EventQueue where
  slots := q.slots
  head := q.next q.head
  tail := q.tail
  full := false
  head_lt := q.next_lt q.head_lt
  tail_lt := q.tail_lt
  head_eq_tail := fun h => nomatch h

/-- The oldest pending event and the queue without it. -/
def pop (q : EventQueue) : Option (Event × EventQueue) :=
  if q.isEmpty then none else some (getElem q.slots q.head q.head_lt, q.dropOldest)

/-- The queue without its pending events. -/
def clear (q : EventQueue) : EventQueue where
  slots := q.slots
  head := 0
  tail := 0
  full := false
  head_lt := q.capacity_pos
  tail_lt := q.capacity_pos
  head_eq_tail := fun _ => rfl

/-! ## The pending events -/

/-- The tail is one slot behind the newest event. -/
theorem tail_eq_slotAt_size (q : EventQueue) : q.tail = q.slotAt q.size := by
  have : q.head < q.capacity := q.head_lt
  have : q.tail < q.capacity := q.tail_lt
  have := q.head_eq_tail
  unfold slotAt size
  grind

/-- Different places in the queue are different slots. -/
theorem slotAt_ne (q : EventQueue) {m n : Nat} (hmn : m < n) (hn : n < q.capacity) :
    q.slotAt m ≠ q.slotAt n := by
  have : q.head < q.capacity := q.head_lt
  unfold slotAt
  grind

@[simp] theorem length_toList (q : EventQueue) : q.toList.length = q.size := by
  simp [toList]

theorem getElem_toList (q : EventQueue) {n : Nat} (h : n < q.toList.length) :
    q.toList[n] = getElem q.slots (q.slotAt n) (q.slotAt_lt (by
      have := q.size_le_capacity
      rw [length_toList] at h
      omega)) := by
  simp [toList]

/-- A queue is full when every slot is taken. -/
theorem full_iff (q : EventQueue) : q.full = true ↔ q.toList.length = q.capacity := by
  have : q.head < q.capacity := q.head_lt
  have : q.tail < q.capacity := q.tail_lt
  rw [length_toList]
  unfold size
  grind

/-- A queue is empty when nothing is pending. -/
theorem isEmpty_iff (q : EventQueue) : q.isEmpty = true ↔ q.toList = [] := by
  have : q.head < q.capacity := q.head_lt
  have : q.tail < q.capacity := q.tail_lt
  have := q.head_eq_tail
  rw [← List.length_eq_zero_iff, length_toList]
  unfold size isEmpty
  grind

@[simp] theorem capacity_append (q : EventQueue) (event : Event) :
    (q.append event).capacity = q.capacity := by
  simp [capacity, append]

@[simp] theorem capacity_replaceNewest (q : EventQueue) (data : EventData) :
    (q.replaceNewest data).capacity = q.capacity := by
  simp [capacity, replaceNewest]

theorem size_append (q : EventQueue) (event : Event) (h : q.full = false) :
    (q.append event).size = q.size + 1 := by
  have : q.head < q.capacity := q.head_lt
  have : q.tail < q.capacity := q.tail_lt
  unfold size
  rw [capacity_append]
  simp only [append, next, beq_iff_eq]
  grind

theorem slotAt_append (q : EventQueue) (event : Event) (n : Nat) :
    (q.append event).slotAt n = q.slotAt n := by
  unfold slotAt
  rw [capacity_append]
  rfl

/-- **An event that takes a slot comes last.** -/
theorem toList_append (q : EventQueue) (event : Event) (h : q.full = false) :
    (q.append event).toList = q.toList ++ [event] := by
  have hsize := q.size_append event h
  have hle : q.size + 1 ≤ q.capacity := by
    rw [← hsize, ← q.capacity_append event]
    exact size_le_capacity _
  refine List.ext_getElem (by simp [hsize]) fun n hn _ => ?_
  simp only [length_toList, hsize] at hn
  simp only [getElem_toList, slotAt_append]
  by_cases hnew : n = q.size
  · subst hnew
    simp [append, ← tail_eq_slotAt_size]
  · have hold : n < q.size := by omega
    have : q.tail ≠ q.slotAt n := by
      rw [tail_eq_slotAt_size]
      exact (q.slotAt_ne hold hle).symm
    rw [List.getElem_append_left (by simpa using hold), getElem_toList]
    exact Array.getElem_set_ne q.tail_lt _ this

theorem size_pos (q : EventQueue) (h : q.isEmpty = false) : 0 < q.size := by
  rw [← length_toList, List.length_pos_iff, ne_eq, ← isEmpty_iff, h]
  decide

theorem toList_ne_nil (q : EventQueue) (h : q.isEmpty = false) : q.toList ≠ [] :=
  List.length_pos_iff.mp (q.length_toList ▸ q.size_pos h)

/-- The newest slot holds the last pending event. -/
theorem newestSlot_eq (q : EventQueue) (h : q.isEmpty = false) :
    q.newestSlot = q.slotAt (q.size - 1) := by
  have := q.size_pos h
  have := q.size_le_capacity
  have : q.head < q.capacity := q.head_lt
  unfold newestSlot previous
  rw [tail_eq_slotAt_size]
  unfold slotAt
  grind

/-- **An event that coalesces** gives the last one its data. -/
theorem toList_replaceNewest (q : EventQueue) (data : EventData) (h : q.isEmpty = false) :
    (q.replaceNewest data).toList = q.toList.dropLast ++ [⟨q.newest.code, data⟩] := by
  have hpos := q.size_pos h
  have hle := q.size_le_capacity
  have hsize : (q.replaceNewest data).size = q.size := by
    unfold size
    rw [capacity_replaceNewest]
    rfl
  have hslot (n : Nat) : (q.replaceNewest data).slotAt n = q.slotAt n := by
    unfold slotAt
    rw [capacity_replaceNewest]
    rfl
  refine List.ext_getElem (by simp [hsize]; omega) fun n hn _ => ?_
  simp only [length_toList, hsize] at hn
  simp only [getElem_toList, hslot]
  by_cases hlast : n = q.size - 1
  · subst hlast
    simp [replaceNewest, ← newestSlot_eq q h]
  · have : q.newestSlot ≠ q.slotAt n := by
      rw [newestSlot_eq q h]
      exact (q.slotAt_ne (by omega) (by omega)).symm
    rw [List.getElem_append_left (by simp; omega), List.getElem_dropLast, getElem_toList]
    exact Array.getElem_set_ne q.newestSlot_lt _ this

/-- The newest pending event is the last one. -/
theorem getLast?_toList (q : EventQueue) (h : q.isEmpty = false) :
    q.toList.getLast? = some q.newest := by
  have hpos := q.size_pos h
  rw [List.getLast?_eq_getElem?, List.getElem?_eq_getElem (by simp; omega), getElem_toList]
  simp [newest, newestSlot_eq q h]

/-- **The oldest event comes first**, and is what a pop takes away. -/
theorem toList_eq_cons (q : EventQueue) (h : q.isEmpty = false) :
    q.toList = getElem q.slots q.head q.head_lt :: q.dropOldest.toList := by
  have hpos := q.size_pos h
  have : q.head < q.capacity := q.head_lt
  have : q.tail < q.capacity := q.tail_lt
  have hsize : q.dropOldest.size + 1 = q.size := by
    have := q.head_eq_tail
    simp only [isEmpty] at h
    unfold size
    rw [show q.dropOldest.capacity = q.capacity from rfl]
    simp only [dropOldest, next]
    grind
  refine List.ext_getElem (by simp [hsize]) fun n hn _ => ?_
  rw [getElem_toList]
  match n with
  | 0 => simp [slotAt, *]
  | n + 1 =>
    have hslot : q.dropOldest.slotAt n = q.slotAt (n + 1) := by
      simp only [length_toList] at hn
      have := q.size_le_capacity
      unfold slotAt
      rw [show q.dropOldest.capacity = q.capacity from rfl]
      simp only [dropOldest, next]
      grind
    rw [List.getElem_cons_succ, getElem_toList]
    simp only [hslot]
    rfl

/-! ## Its operations -/

/-- **What a push can do**: give the newest event other data, refuse the
event, or take a slot for it. -/
theorem push_cases (q : EventQueue) (forceNew : Bool) (event : Event) :
    (q.isEmpty = false ∧ q.push forceNew event = (.ok .coalesced, q.replaceNewest event.data)) ∨
      (q.full = true ∧ q.push forceNew event = (.error .queueFull, q)) ∨
      (q.full = false ∧ q.push forceNew event = (.ok .appended, q.append event)) := by
  unfold push
  split
  · next hcoalesces =>
    refine .inl ⟨?_, rfl⟩
    -- an empty queue forces a slot
    simp only [needsSlot, Bool.and_eq_true, Bool.not_eq_true'] at hcoalesces
    cases hfull : q.full with
    | true => simp [isEmpty, hfull]
    | false => simp_all
  · split
    · next hfull => exact .inr (.inl ⟨hfull, rfl⟩)
    · next hfull => exact .inr (.inr ⟨by simpa using hfull, rfl⟩)

@[simp] theorem toList_clear (q : EventQueue) : q.clear.toList = [] := by
  rw [← isEmpty_iff]
  rfl

/-- A new queue is empty and has the capacity that was asked for. -/
theorem toList_of_create {capacity : Nat} {q : EventQueue} (h : create capacity = .ok q) :
    q.toList = [] ∧ q.capacity = capacity := by
  unfold create at h
  split at h
  · cases h
    rw [← isEmpty_iff]
    simp [isEmpty, EventQueue.capacity]
  · cases h

theorem pop_eq_none_iff (q : EventQueue) : q.pop = none ↔ q.toList = [] := by
  rw [← isEmpty_iff]
  simp [pop]

theorem toList_of_pop {q rest : EventQueue} {event : Event} (h : q.pop = some (event, rest)) :
    q.toList = event :: rest.toList := by
  unfold pop at h
  split at h
  · cases h
  · rename_i hempty
    cases h
    exact q.toList_eq_cons (by simpa using hempty)

end EventQueue

end TimedMachines
