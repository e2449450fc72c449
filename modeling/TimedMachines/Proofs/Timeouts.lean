import TimedMachines.Proofs.BoundedList

/-!
# Timeouts in a queue

A timeout behind a timeout says nothing new. Pushed without a wish for a
slot of its own it takes the place of the one before, also in a ring
without room, and in a ring with room even that wish changes nothing
(`timeout_merges_behind_timeout`). It is only refused when it insists on a
slot and none is left (`timeout_refused_behind_timeout`).

Whatever event is pushed without that wish, a queue has had enough of it
after one push: it either ends with that event or has no room for it, and
the same push once more changes nothing (`push_push`).
-/

namespace TimedMachines.EventQueue

/-! ## The newest event -/

/-- Something is pending in a queue that has a last event. -/
theorem isEmpty_of_getLast? {q : EventQueue} {newest : Event}
    (h : q.toList.getLast? = some newest) : q.isEmpty = false := by
  rw [← Bool.not_eq_true, isEmpty_iff]
  rintro hnil
  rw [hnil] at h
  cases h

theorem newest_of_getLast? {q : EventQueue} {newest : Event}
    (h : q.toList.getLast? = some newest) : q.newest = newest :=
  Option.some.inj ((q.getLast?_toList (isEmpty_of_getLast? h)).symm.trans h)

/-- An event that takes a slot is the newest. -/
theorem getLast?_append (q : EventQueue) (event : Event) (h : q.full = false) :
    (q.append event).toList.getLast? = some event := by
  rw [q.toList_append event h, List.getLast?_concat]

/-- An event that merges leaves its data behind. -/
theorem getLast?_replaceNewest (q : EventQueue) (data : EventData) (h : q.isEmpty = false) :
    (q.replaceNewest data).toList.getLast? = some ⟨q.newest.code, data⟩ := by
  rw [q.toList_replaceNewest data h, List.getLast?_concat]

/-- Data that the newest event has already changes nothing. -/
theorem replaceNewest_newest (q : EventQueue) : q.replaceNewest q.newest.data = q := by
  have hslots : q.slots.set q.newestSlot q.newest q.newestSlot_lt = q.slots :=
    Array.set_getElem_self _
  unfold replaceNewest
  simp only [hslots]

/-! ## Events that merge -/

/-- **An event merges** with a newest one of its code, unless it insists on
a slot and is no timeout that could have one. -/
theorem push_of_newest {q : EventQueue} {newest event : Event}
    (hlast : q.toList.getLast? = some newest) (hcode : newest.code = event.code) {forceNew : Bool}
    (hmerges : forceNew = false ∨ (q.full = false ∧ event.isTimeout = true)) :
    q.push forceNew event = (.ok .coalesced, q.replaceNewest event.data) := by
  rw [← newest_of_getLast? hlast] at hcode
  exact if_pos ((q.merges_iff (isEmpty_of_getLast? hlast) forceNew event).mpr ⟨hcode, hmerges⟩)

/-- An event that the queue ends with already changes nothing. -/
theorem push_newest {q : EventQueue} {event : Event} (hlast : q.toList.getLast? = some event) :
    q.push false event = (.ok .coalesced, q) := by
  have hnewest := newest_of_getLast? hlast
  rw [push_of_newest hlast rfl (.inl rfl), ← hnewest, replaceNewest_newest]

/-! ## A timeout behind a timeout -/

/-- **A timeout behind a timeout.** Whatever was done to the queue before,
if its newest event is a timeout, then a timeout that does not insist on a
slot takes that event's place, also in a full ring, and so does one that
insists while a slot is free. It is refused, and changes nothing, exactly
if it insists and no slot is free. -/
theorem timeout_merges_behind_timeout (q : EventQueue) (forceNew : Bool) (event : Event)
    {newest : Event} (hlast : q.toList.getLast? = some newest) (hnewest : newest.isTimeout = true)
    (hevent : event.isTimeout = true) :
    (forceNew = false ∨ q.toList.length < q.capacity →
      ∃ merged, q.push forceNew event = (.ok .coalesced, merged) ∧
        merged.toList = q.toList.dropLast ++ [{ newest with data := event.data }] ∧
        merged.capacity = q.capacity) ∧
      (forceNew = true ∧ q.toList.length = q.capacity →
        q.push forceNew event = (.error .queueFull, q)) := by
  have hpending := isEmpty_of_getLast? hlast
  have hcode : newest.code = event.code :=
    (beq_iff_eq.mp hnewest).trans (beq_iff_eq.mp hevent).symm
  refine ⟨fun hmerges => ?_, fun ⟨hforce, hlength⟩ => ?_⟩
  · have hpush : q.push forceNew event = (.ok .coalesced, q.replaceNewest event.data) :=
      push_of_newest hlast hcode (hmerges.imp_right fun room => ⟨q.room_iff.mp room, hevent⟩)
    refine ⟨_, hpush, ?_, q.capacity_replaceNewest event.data⟩
    rw [q.toList_replaceNewest event.data hpending, newest_of_getLast? hlast]
  · have hfull : q.full = true := q.full_iff.mpr hlength
    have hneeds : q.needsSlot forceNew event = true := (if_pos hfull).trans hforce
    rw [push, hneeds]
    exact (if_neg Bool.false_ne_true).trans (if_pos hfull)

/-- In a full ring of two slots a timeout takes other data, and with one
slot free also if it insists on that slot. -/
theorem timeout_merges_behind_timeout_full :
    ∃ q, create 2 = .ok q ∧
      let one := (q.performAll [.push false ⟨0, 3⟩]).2
      let two := (q.performAll [.push false ⟨1, 7⟩, .push false ⟨0, 3⟩]).2
      (one.toList.getLast? = some ⟨0, 3⟩ ∧ one.toList.length < one.capacity ∧
        ∃ merged, one.push true ⟨0, 9⟩ = (.ok .coalesced, merged) ∧ merged.toList = [⟨0, 9⟩]) ∧
      (two.toList.getLast? = some ⟨0, 3⟩ ∧ two.full = true ∧
        ∃ merged, two.push false ⟨0, 9⟩ = (.ok .coalesced, merged) ∧
          merged.toList = [⟨1, 7⟩, ⟨0, 9⟩]) := by
  refine ⟨_, rfl, ?_⟩
  intro one two
  have hone : one.toList.getLast? = some ⟨0, 3⟩ := by decide +kernel
  have htwo : two.toList.getLast? = some ⟨0, 3⟩ := by decide +kernel
  have hroom : one.toList.length < one.capacity := by decide +kernel
  obtain ⟨merged, hpush, hlist, -⟩ :=
    (timeout_merges_behind_timeout one true ⟨0, 9⟩ hone rfl rfl).1 (.inr hroom)
  obtain ⟨merged', hpush', hlist', -⟩ :=
    (timeout_merges_behind_timeout two false ⟨0, 9⟩ htwo rfl rfl).1 (.inl rfl)
  exact ⟨⟨hone, hroom, merged, hpush, hlist.trans (by decide +kernel)⟩,
    htwo, by decide +kernel, merged', hpush', hlist'.trans (by decide +kernel)⟩

/-- **A timeout that insists is refused** behind a timeout that fills the
only slot. -/
theorem timeout_refused_behind_timeout :
    ∃ q, create 1 = .ok q ∧
      let one := (q.performAll [.push false .timeout]).2
      one.toList = [.timeout] ∧ one.push true ⟨0, 5⟩ = (.error .queueFull, one) :=
  ⟨_, rfl, by decide +kernel, rfl⟩

/-! ## The same event again -/

/-- **What a push without that wish does**: the event takes the place of a
newest one of its code, or it is refused by a full ring, or it comes
last. -/
theorem push_quietly (q : EventQueue) (event : Event) :
    (q.isEmpty = false ∧ q.newest.code = event.code ∧
        q.push false event = (.ok .coalesced, q.replaceNewest event.data)) ∨
      (q.full = true ∧ q.push false event = (.error .queueFull, q)) ∨
      (q.full = false ∧ q.push false event = (.ok .appended, q.append event)) := by
  obtain ⟨hpending, hpush⟩ | hrefused | happended := q.push_cases false event
  · have hcode : q.newest.code = event.code := by
      refine Decidable.byContradiction fun hne => ?_
      have hmerges := mt (q.merges_iff hpending false event).mp fun h => hne h.1
      rw [push, if_neg hmerges] at hpush
      split at hpush <;> cases hpush
    exact .inl ⟨hpending, hcode, hpush⟩
  · exact .inr (.inl hrefused)
  · exact .inr (.inr happended)

/-- **The same event once more** changes nothing: it merges with itself,
and where it was refused it is refused again. -/
theorem push_push (q : EventQueue) (event : Event) :
    (q.push false event).2.push false event =
      ((q.push false event).1.map fun _ => .coalesced, (q.push false event).2) := by
  obtain ⟨hpending, hcode, hpush⟩ | ⟨-, hpush⟩ | ⟨hroom, hpush⟩ := q.push_quietly event
  · have hlast := q.getLast?_replaceNewest event.data hpending
    rw [hcode] at hlast
    rw [hpush]
    exact push_newest hlast
  · rw [hpush]
    exact hpush
  · rw [hpush]
    exact push_newest (q.getLast?_append event hroom)

/-- **A timeout leaves a single trace**: it comes last, or in the place of a
timeout that came last, or nowhere. -/
theorem toList_push_timeout (q : EventQueue) :
    let after := (q.push false .timeout).2.toList
    after = q.toList ∨ after = q.toList ++ [.timeout] ∨
      ∃ earlier late, late.isTimeout = true ∧ q.toList = earlier ++ [late] ∧
        after = earlier ++ [.timeout] := by
  obtain ⟨hpending, hcode, hpush⟩ | ⟨-, hpush⟩ | ⟨hroom, hpush⟩ := q.push_quietly .timeout
  · obtain ⟨earlier, hlist⟩ := List.getLast?_eq_some_iff.mp (q.getLast?_toList hpending)
    refine .inr (.inr ⟨earlier, q.newest, beq_iff_eq.mpr hcode, hlist, ?_⟩)
    rw [hpush, q.toList_replaceNewest _ hpending, hcode, hlist, List.dropLast_concat]
  · exact .inl (by rw [hpush])
  · exact .inr (.inl (by rw [hpush, q.toList_append _ hroom]))

end TimedMachines.EventQueue
