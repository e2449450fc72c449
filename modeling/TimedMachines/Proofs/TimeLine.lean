import Mathlib
import TimedMachines.Timestamp

/-!
# Time is a line

A timestamp is a counter that wraps and a flag, and everything that is
done with timestamps is said in terms of the two. What it comes to is
arithmetic on a line of 2³³ points, on which `Timestamp.value` places
each timestamp and which has a timestamp at each of its points
(`exists_value_eq`).

On the line, comparison is the order of numbers; a delay goes so far, or
to the end of the line; the time left is the way to a later point, up to
whole turns of the counter; and moving the counter goes ahead by as much
as the counter did, as long as it has not wrapped before. A delay and the
time left undo each other wherever neither runs out of room
(`ticksUntil_offset`, `offset_ticksUntil`).
-/

namespace TimedMachines.Timestamp

/-! ## Points -/

/-- Every point of the line is the place of a timestamp. -/
theorem exists_value_eq {point : Nat} (h : point < 2 ^ 33) : ∃ t : Timestamp, t.value = point := by
  by_cases hwrap : point < 2 ^ 32
  · refine ⟨⟨UInt32.ofNat point, false⟩, ?_⟩
    simp only [value, UInt32.toNat_ofNat', Bool.false_eq_true, if_false]
    omega
  · refine ⟨⟨UInt32.ofNat (point - 2 ^ 32), true⟩, ?_⟩
    simp only [value, UInt32.toNat_ofNat', if_true]
    omega

/-! ## Comparison -/

/-- Counters compare as numbers do. -/
theorem compare_ticks (a b : Ticks) : compare a b = compare a.toNat b.toNat := by
  simp only [compare, compareOfLessAndEq, UInt32.lt_iff_toNat_lt, UInt32.toNat_inj]

/-- **The order of times is that of their points.** -/
theorem order_eq_compare (t u : Timestamp) : t.order u = compare t.value u.value := by
  have ht := t.ticks.toNat_lt
  have hu := u.ticks.toNat_lt
  obtain ⟨a, p⟩ := t
  obtain ⟨b, q⟩ := u
  unfold order value
  rw [compare_ticks]
  -- times of the same turn compare by their counters, any others by their flags
  cases p <;> cases q
  · rfl
  · refine (Nat.compare_eq_lt.mpr ?_).symm
    simp only [Bool.false_eq_true, if_false, if_true] at *
    omega
  · refine (Nat.compare_eq_gt.mpr ?_).symm
    simp only [Bool.false_eq_true, if_false, if_true] at *
    omega
  · simp [Nat.compare_eq_ite_lt]

theorem value_later (a b : Timestamp) : (a.later b).value = max a.value b.value := by
  unfold later
  split
  · next h =>
    rw [atOrAfter_iff] at h
    omega
  · next h =>
    rw [atOrAfter_iff] at h
    omega

/-! ## Ways -/

/-- The counter's way from one value to another, across a wrap if the
other is lower. -/
theorem toNat_ticks_sub (a b : Ticks) :
    (b - a).toNat = (2 ^ 32 + b.toNat - a.toNat) % 2 ^ 32 := by
  have := a.toNat_lt
  rw [UInt32.toNat_sub]
  omega

/-- **The time left** is the way to a later point, less whole turns of the
counter. -/
theorem toNat_ticksUntil_mod (now deadline : Timestamp) :
    (now.ticksUntil deadline).toNat = (deadline.value - now.value) % 2 ^ 32 := by
  have hnow := now.ticks.toNat_lt
  have hdeadline := deadline.ticks.toNat_lt
  unfold ticksUntil
  split
  · next hafter =>
    rw [after_iff] at hafter
    obtain ⟨a, p⟩ := now
    obtain ⟨b, q⟩ := deadline
    rw [toNat_ticks_sub]
    unfold value at *
    cases p <;> cases q <;> simp only [Bool.false_eq_true, if_false, if_true] at * <;> omega
  · next hafter =>
    rw [after_iff] at hafter
    rw [UInt32.toNat_zero]
    omega

/-- **A delay is the time left until it ends**, if it ends on the line. -/
theorem ticksUntil_offset {t : Timestamp} {delay : Ticks} (h : t.value + delay.toNat < 2 ^ 33) :
    t.ticksUntil (t.offset delay) = delay := by
  have hdelay := delay.toNat_lt
  have hoffset := t.value_offset delay
  rw [← UInt32.toNat_inj, toNat_ticksUntil_mod]
  omega

/-- **The time left, as a delay, ends at the deadline**, if the deadline
is less than a turn of the counter away. -/
theorem offset_ticksUntil {now deadline : Timestamp} (hle : now.value ≤ deadline.value)
    (hturn : deadline.value - now.value < 2 ^ 32) :
    now.offset (now.ticksUntil deadline) = deadline := by
  have hline := deadline.value_lt
  rw [← value_inj, value_offset, toNat_ticksUntil_mod]
  omega

/-- **Moving the counter goes ahead on the line**, if it has not wrapped
before. -/
theorem value_advanceTo_of_unwrapped {now : Timestamp} (h : now.overflow = false) (ticks : Ticks) :
    (now.advanceTo ticks).value =
      now.value + (2 ^ 32 + ticks.toNat - now.ticks.toNat) % 2 ^ 32 := by
  rw [← toNat_ticks_sub]
  exact value_advanceTo fun hwrapped => absurd (h.symm.trans hwrapped) Bool.false_ne_true

/-! ## The line -/

/-- **Time is a line of 2³³ points**, one for each timestamp. All ways to
compare two times are the order of their points. A delay leads as far
ahead as it says, or to the last point if there are not so many. The time
left until a later point is the distance, less whole turns of the counter,
and none until any other point. A delay that ends on the line is the time
left until its end, and the time left until a point less than a turn away
is the delay that ends there. From a time before the wrap, moving the
counter leads ahead by as much as the counter moved, so it never leads
back. -/
theorem time_is_a_line :
    (∀ t : Timestamp, t.value < 2 ^ 33 ∧
        t.value = if t.overflow then t.ticks.toNat + 2 ^ 32 else t.ticks.toNat) ∧
      (∀ point < 2 ^ 33, ∃! t : Timestamp, t.value = point) ∧
      ∀ a b : Timestamp,
        (a.order b = compare a.value b.value ∧
          (a.atOrAfter b = true ↔ b.value ≤ a.value) ∧ (a.after b = true ↔ b.value < a.value) ∧
          (a.earlier b).value = min a.value b.value ∧ (a.later b).value = max a.value b.value) ∧
        (∀ delay : Ticks, (a.offset delay).value = min (a.value + delay.toNat) (2 ^ 33 - 1)) ∧
        (a.ticksUntil b).toNat =
          (if a.value < b.value then (b.value - a.value) % 2 ^ 32 else 0) ∧
        (∀ delay : Ticks, a.value + delay.toNat < 2 ^ 33 →
          a.ticksUntil (a.offset delay) = delay) ∧
        (a.value ≤ b.value → b.value - a.value < 2 ^ 32 → a.offset (a.ticksUntil b) = b) ∧
        (a.overflow = false → ∀ ticks : Ticks,
          (a.advanceTo ticks).value =
              a.value + (2 ^ 32 + ticks.toNat - a.ticks.toNat) % 2 ^ 32 ∧
            a.value ≤ (a.advanceTo ticks).value) := by
  refine ⟨fun t => ⟨t.value_lt, ?_⟩, fun point hpoint => ?_, fun a b => ⟨?_, ?_, ?_, ?_, ?_, ?_⟩⟩
  · unfold value
    split <;> rfl
  · obtain ⟨t, ht⟩ := exists_value_eq hpoint
    exact ⟨t, ht, fun u hu => value_inj.mp (hu.trans ht.symm)⟩
  · exact ⟨order_eq_compare a b, atOrAfter_iff, after_iff, value_earlier a b, value_later a b⟩
  · exact a.value_offset
  · rw [toNat_ticksUntil_mod]
    split <;> omega
  · exact fun delay => ticksUntil_offset
  · exact offset_ticksUntil
  · intro hunwrapped ticks
    have hahead := value_advanceTo_of_unwrapped hunwrapped ticks
    exact ⟨hahead, by omega⟩

/-- Sixteen ticks before the wrap: a delay ends past it, the time left
until then is that delay, and the counter goes on past zero. -/
theorem time_is_a_line_acrossWrap :
    let a : Timestamp := ⟨0xFFFFFFF0, false⟩
    let b : Timestamp := ⟨0x10, true⟩
    a.value + (0x20 : Ticks).toNat < 2 ^ 33 ∧ a.ticksUntil (a.offset 0x20) = 0x20 ∧
      a.value ≤ b.value ∧ b.value - a.value < 2 ^ 32 ∧ a.offset (a.ticksUntil b) = b ∧
      a.overflow = false ∧ (a.advanceTo 5).value = a.value + 0x15 ∧
      ∃! t : Timestamp, t.value = 2 ^ 32 + 5 := by
  intro a b
  obtain ⟨-, hpoints, hline⟩ := time_is_a_line
  obtain ⟨-, -, -, hdelay, hleft, hahead⟩ := hline a b
  have hroom : a.value + (0x20 : Ticks).toNat < 2 ^ 33 := by decide
  have hle : a.value ≤ b.value := by decide
  have hturn : b.value - a.value < 2 ^ 32 := by decide
  exact ⟨hroom, hdelay 0x20 hroom, hle, hturn, hleft hle hturn, rfl, (hahead rfl 5).1,
    hpoints _ (by decide)⟩

end TimedMachines.Timestamp
