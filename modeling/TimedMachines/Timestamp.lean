import TimedMachines.Text.Decimal

/-!
# Timestamps

Time is counted in ticks by a 32-bit counter that wraps around. A
timestamp is a counter value together with a flag that says whether the
counter has wrapped once since the current epoch began, so that times
right before a wrap and right after it can still be told apart:
`Timestamp.value` places every timestamp on a line of 2³³ points, and
comparison is the order of that line. When every time still in use lies
past the wrap, the wrap becomes the start of a new epoch and the flags
are dropped (`rebased`).
-/

namespace TimedMachines

/-- A duration or a counter value, in ticks. -/
abbrev Ticks := UInt32

/-- The time left before a wakeup that is not scheduled. -/
def infiniteTicks : Ticks := 0xFFFFFFFF

/-- **A point in time**: a counter value, and whether the counter has
wrapped around since the epoch began. -/
structure Timestamp where
  /-- The value of the counter. -/
  ticks : Ticks
  /-- Whether the counter has wrapped in this epoch. -/
  overflow : Bool
deriving DecidableEq, Repr

namespace Timestamp

/-- The start of the epoch. -/
def zero : Timestamp := ⟨0, false⟩

/-- The last representable time. -/
def latest : Timestamp := ⟨0xFFFFFFFF, true⟩

/-- A time in the first turn of the counter. -/
def ofTicks (ticks : Ticks) : Timestamp := ⟨ticks, false⟩

instance : Inhabited Timestamp := ⟨zero⟩

/-- The place of a timestamp on the line of 2³³ points. -/
def value (t : Timestamp) : Nat :=
  t.ticks.toNat + if t.overflow then 0x1_0000_0000 else 0

/-- Whether `t` is `u` or later. -/
def atOrAfter (t u : Timestamp) : Bool :=
  if t.overflow = u.overflow then decide (u.ticks ≤ t.ticks) else t.overflow

/-- Whether `t` is later than `u`. -/
def after (t u : Timestamp) : Bool :=
  if t.overflow = u.overflow then decide (u.ticks < t.ticks) else t.overflow

/-- The order of two times: by epoch turn first, then by counter. -/
def order (t u : Timestamp) : Ordering :=
  (compare t.overflow u.overflow).then (compare t.ticks u.ticks)

/-- The earlier of two times. -/
def earlier (t u : Timestamp) : Timestamp :=
  if u.atOrAfter t then t else u

/-- The later of two times. -/
def later (t u : Timestamp) : Timestamp :=
  if u.atOrAfter t then u else t

/-- **The time `delay` ticks after `t`.** A second wrap cannot be
represented and gives the last time instead. -/
def offset (t : Timestamp) (delay : Ticks) : Timestamp :=
  let ticks := t.ticks + delay
  if ticks < t.ticks then
    if t.overflow then latest else ⟨ticks, true⟩
  else
    ⟨ticks, t.overflow⟩

/-- The ticks from `t` to a later time, and none to any other. -/
def ticksUntil (t deadline : Timestamp) : Ticks :=
  if deadline.after t then deadline.ticks - t.ticks else 0

/-- The time when the counter has moved on to `ticks`: a lower value than
before means that it wrapped. -/
def advanceTo (t : Timestamp) (ticks : Ticks) : Timestamp :=
  ⟨ticks, t.overflow || decide (ticks < t.ticks)⟩

/-- The time seen from an epoch that starts at the wrap. -/
def rebased (t : Timestamp) : Timestamp :=
  ⟨t.ticks, false⟩

/-- Ten digits, and `!` past a wrap or `.` before it. -/
def text (t : Timestamp) : String :=
  Decimal.padded 10 t.ticks.toNat ++ (if t.overflow then "!" else ".")

/-! ## The line of time -/

theorem value_lt (t : Timestamp) : t.value < 0x2_0000_0000 := by
  have := t.ticks.toNat_lt
  unfold value
  split <;> omega

theorem value_inj {t u : Timestamp} : t.value = u.value ↔ t = u := by
  refine ⟨fun h => ?_, fun h => h ▸ rfl⟩
  have ht := t.ticks.toNat_lt
  have hu := u.ticks.toNat_lt
  obtain ⟨a, p⟩ := t
  obtain ⟨b, q⟩ := u
  have hflag : p = q := by cases p <;> cases q <;> simp [value] at * <;> omega
  subst hflag
  have hticks : a.toNat = b.toNat := Nat.add_right_cancel h
  rw [UInt32.toNat_inj.mp hticks]

/-- **Comparison is the order of the line.** -/
theorem atOrAfter_iff {t u : Timestamp} : t.atOrAfter u = true ↔ u.value ≤ t.value := by
  have ht := t.ticks.toNat_lt
  have hu := u.ticks.toNat_lt
  obtain ⟨a, p⟩ := t
  obtain ⟨b, q⟩ := u
  cases p <;> cases q <;> simp [atOrAfter, value, UInt32.le_iff_toNat_le] at * <;> omega

theorem after_iff {t u : Timestamp} : t.after u = true ↔ u.value < t.value := by
  have ht := t.ticks.toNat_lt
  have hu := u.ticks.toNat_lt
  obtain ⟨a, p⟩ := t
  obtain ⟨b, q⟩ := u
  cases p <;> cases q <;> simp [after, value, UInt32.lt_iff_toNat_lt] at * <;> omega

/-- Not being after is being reached. -/
theorem after_eq_not_atOrAfter (t u : Timestamp) : t.after u = !u.atOrAfter t := by
  rw [Bool.eq_iff_iff, after_iff, Bool.not_eq_true', ← Bool.not_eq_true, atOrAfter_iff]
  omega

/-! ## Operations on the line -/

/-- **Adding a delay** goes that far on the line, or to its end. -/
theorem value_offset (t : Timestamp) (delay : Ticks) :
    (t.offset delay).value = min (t.value + delay.toNat) (0x1_FFFF_FFFF) := by
  have hdelay := delay.toNat_lt
  have ht := t.ticks.toNat_lt
  obtain ⟨ticks, overflow⟩ := t
  simp only [offset, UInt32.lt_iff_toNat_lt, UInt32.toNat_add, value] at *
  split
  · cases overflow <;> simp [latest] <;> omega
  · cases overflow <;> simp <;> omega

theorem value_earlier (a b : Timestamp) : (a.earlier b).value = min a.value b.value := by
  unfold earlier
  split
  · next h =>
    rw [atOrAfter_iff] at h
    omega
  · next h =>
    rw [atOrAfter_iff] at h
    omega

/-- **The time left is the way on the line**, if that is less than a
turn. -/
theorem toNat_ticksUntil {now deadline : Timestamp}
    (h : deadline.value < now.value + 0x1_0000_0000) :
    (now.ticksUntil deadline).toNat = deadline.value - now.value := by
  unfold ticksUntil
  split
  · next hafter =>
    rw [after_iff] at hafter
    have hnow := now.ticks.toNat_lt
    have hdeadline := deadline.ticks.toNat_lt
    unfold value at *
    rw [UInt32.toNat_sub]
    split at hafter <;> split at hafter <;> simp_all <;> omega
  · next hafter =>
    rw [after_iff] at hafter
    rw [UInt32.toNat_zero]
    omega

/-- **The timestamp is as fast as the counter**, unless it wraps a second
time. -/
theorem value_advanceTo {now : Timestamp} {ticks : Ticks}
    (hsteady : now.overflow = true → now.ticks ≤ ticks) :
    (now.advanceTo ticks).value = now.value + (ticks - now.ticks).toNat := by
  have hticks := ticks.toNat_lt
  have hnow := now.ticks.toNat_lt
  obtain ⟨old, overflow⟩ := now
  simp only [advanceTo, value, UInt32.toNat_sub, UInt32.lt_iff_toNat_lt,
    UInt32.le_iff_toNat_le] at *
  by_cases hwrap : ticks.toNat < old.toNat
  · cases overflow with
    | true =>
      have := hsteady rfl
      omega
    | false =>
      simp [hwrap]
      omega
  · simp only [hwrap, decide_false, Bool.or_false]
    omega

/-- **A timestamp is never faster than the counter.** -/
theorem value_advanceTo_le (now : Timestamp) (ticks : Ticks) :
    (now.advanceTo ticks).value ≤ now.value + (ticks - now.ticks).toNat := by
  have hticks := ticks.toNat_lt
  have hnow := now.ticks.toNat_lt
  obtain ⟨old, overflow⟩ := now
  simp only [advanceTo, value, UInt32.toNat_sub, UInt32.lt_iff_toNat_lt] at *
  by_cases hwrap : ticks.toNat < old.toNat
  · simp only [hwrap, decide_true, Bool.or_true, if_true]
    split <;> omega
  · simp only [hwrap, decide_false, Bool.or_false]
    omega

/-- A time past the wrap is one turn of the counter earlier in the epoch
that starts there. -/
theorem value_rebased (t : Timestamp) (h : t.overflow = true) :
    t.rebased.value + 0x1_0000_0000 = t.value := by
  simp [value, rebased, h]

theorem rebased_eq_self (t : Timestamp) (h : t.overflow = false) : t.rebased = t := by
  obtain ⟨ticks, overflow⟩ := t
  simp_all [rebased]

/-- A new epoch takes no more than a turn of the counter away. -/
theorem value_le_rebased (t : Timestamp) : t.value ≤ t.rebased.value + 0x1_0000_0000 := by
  obtain ⟨ticks, overflow⟩ := t
  cases overflow <;> simp [value, rebased]

theorem rebased_le_value (t : Timestamp) : t.rebased.value ≤ t.value := by
  obtain ⟨ticks, overflow⟩ := t
  cases overflow <;> simp [value, rebased]

/-- Past the wrap, everything later is past the wrap too. -/
theorem overflow_of_value_le {t u : Timestamp} (ht : t.overflow = true) (h : t.value ≤ u.value) :
    u.overflow = true := by
  have := u.ticks.toNat_lt
  unfold value at h
  cases hu : u.overflow with
  | true => rfl
  | false =>
    simp only [ht, hu, if_true, Bool.false_eq_true, if_false] at h
    omega

end Timestamp

end TimedMachines
