import TimedMachines.Scheduler.Consensus

/-!
# Clocks

What a scheduler needs of time is little: an origin, a way to move on to
a counter value, to add a delay, to compare, to say how much is left, and
to change the epoch. `Clock` has just that, and this module two ways to
provide it.

`Traced` is the timestamp that is really used, which together with its
counter value carries how much time has **elapsed** in truth, without any
bound. Nothing is decided by the latter; it is there to be spoken about.
In `Nat` the elapsed time is all there is: nothing wraps, nothing
saturates, and there are no epochs.
-/

namespace TimedMachines

/-- **A representation of time.** -/
class Clock (τ : Type) where
  /-- The time at startup. -/
  zero : τ
  /-- How a time is shown to handlers. -/
  shown : τ → Timestamp
  /-- The time when the counter has moved on to a value. -/
  advanceTo : τ → Ticks → τ
  /-- The time some ticks later. -/
  offset : τ → Ticks → τ
  /-- Whether the first time is the second or later. -/
  atOrAfter : τ → τ → Bool
  /-- The ticks from the first time to the second, none if that is past. -/
  span : τ → τ → Nat
  /-- The time in the next epoch. -/
  rebased : τ → τ

/-- **A timestamp with the true time**, which counts every tick since
startup. -/
structure Traced where
  /-- The timestamp. -/
  stamp : Timestamp
  /-- The true time. -/
  elapsed : Nat
deriving DecidableEq, Repr

instance : Clock Traced where
  zero := ⟨.zero, 0⟩
  shown time := time.stamp
  advanceTo time ticks :=
    ⟨time.stamp.advanceTo ticks, time.elapsed + (ticks - time.stamp.ticks).toNat⟩
  offset time delay := ⟨time.stamp.offset delay, time.elapsed + delay.toNat⟩
  atOrAfter time other := time.stamp.atOrAfter other.stamp
  span time deadline := (time.stamp.ticksUntil deadline.stamp).toNat
  rebased time := ⟨time.stamp.rebased, time.elapsed⟩

instance : Clock Nat where
  zero := 0
  shown time := .ofTicks (UInt32.ofNat time)
  advanceTo time ticks := time + (ticks - UInt32.ofNat time).toNat
  offset time delay := time + delay.toNat
  atOrAfter time other := decide (other ≤ time)
  span time deadline := deadline - time
  rebased time := time

/-- The earlier of two times, either of which may be missing. -/
def Clock.sooner {τ : Type} [Clock τ] : Option τ → Option τ → Option τ
  | some a, some b => some (if Clock.atOrAfter b a then a else b)
  | some a, none => some a
  | none, b => b

/-! ## Machines -/

/-- **The changing part of a machine** that reads its wakeup off a
clock. -/
structure StatusOn (τ : Type) where
  /-- The state the machine is in. -/
  state : StateId
  /-- When to wake up; without meaning in infinite sleep. -/
  wakeup : τ
  /-- The flags. -/
  flags : MachineFlags
deriving DecidableEq, Repr

namespace StatusOn

variable {τ : Type} [Clock τ]

/-- The status of a machine that has not run. -/
def startup : StatusOn τ := ⟨0, Clock.zero, .startup⟩

/-- The wakeup, unless the machine is in infinite sleep. -/
def scheduled (status : StatusOn τ) : Option τ :=
  if status.flags.infiniteSleep then none else some status.wakeup

/-- Whether a timeout that comes now leaves the machine asleep. -/
def isAsleep (status : StatusOn τ) (now : τ) (wakesSleepers : Bool) : Bool :=
  (status.flags.infiniteSleep && !wakesSleepers) || !Clock.atOrAfter now status.wakeup

/-- The time left until the wakeup, if there is one. -/
def left (status : StatusOn τ) (now : τ) : Option Nat :=
  status.scheduled.map (Clock.span now)

/-- The status while a handler runs. -/
def suspended (status : StatusOn τ) : StatusOn τ :=
  ⟨status.state, Clock.zero, .clear⟩

/-- The status after a vetoed step. -/
def restored (status : StatusOn τ) : StatusOn τ :=
  { status with flags := { status.flags with preventTransition := true } }

/-- The status of a machine that can only be woken by another event. -/
def sleepForever (status : StatusOn τ) : StatusOn τ :=
  { status with flags := { status.flags with infiniteSleep := true } }

/-- The status in the next epoch. -/
def rebased (status : StatusOn τ) : StatusOn τ :=
  { status with wakeup := Clock.rebased status.wakeup }

/-- The status after an initialization that was not vetoed. -/
def prepared (before : StatusOn τ) (wishes : Wishes) (now : τ) : StatusOn τ where
  state := wishes.target.getD before.state
  wakeup :=
    match wishes.stay with
    | .ticks delay => Clock.offset now delay
    | _ => before.wakeup
  flags := { before.flags with
    infiniteSleep :=
      match wishes.stay with
      | .byDefault => before.flags.infiniteSleep
      | .ticks _ => false
      | .forever => true
    nextStateOverride := before.flags.nextStateOverride || wishes.target.isSome }

/-- The status that a step leads to, whose delay counts from `base`. -/
def moved (base : τ) (move : Move) : StatusOn τ where
  state := move.target
  wakeup := (move.delay.map (Clock.offset base)).getD Clock.zero
  flags := ⟨move.delay.isNone, false, move.overridden⟩

end StatusOn

/-- The delay that a wish asks for. -/
def Stay.delay? : Stay → Option Ticks
  | .ticks delay => some delay
  | _ => none

end TimedMachines
