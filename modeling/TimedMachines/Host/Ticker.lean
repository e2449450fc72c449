import TimedMachines.Text.Decimal

/-!
# Heartbeats

On a host the clock is driven by a ticker that calls for a heartbeat once
per period. Its ticks are due at multiples of the period since its start,
so that late ticks do not add up. A period is given in nanoseconds, or as
a rate of whole ticks per second up to `maxRate`.
-/

namespace TimedMachines

/-- The most ticks per second. -/
def maxRate : Nat := 10000

/-- Why heartbeats cannot be produced. -/
inductive TickError where
  /-- A rate of no ticks, or of too many. -/
  | rateOutOfRange (hertz : Nat)
  /-- A period of no time. -/
  | zeroPeriod
deriving DecidableEq, Repr

/-- The wording of an error. -/
def TickError.message : TickError → String
  | .rateOutOfRange hertz =>
    "tick rate " ++ Decimal.text hertz ++ " Hz out of range 1..=" ++ Decimal.text maxRate
  | .zeroPeriod => "tick period must not be zero"

/-- **A rate of ticks** that a host can keep. -/
structure TickRate where
  /-- Ticks per second. -/
  hertz : Nat
  hertz_pos : 0 < hertz
  hertz_le : hertz ≤ maxRate

namespace TickRate

/-- The rate of so many ticks per second. -/
def ofHertz (hertz : Nat) : Except TickError TickRate :=
  if h : 0 < hertz ∧ hertz ≤ maxRate then .ok ⟨hertz, h.1, h.2⟩ else .error (.rateOutOfRange hertz)

/-- The time between two ticks, in whole nanoseconds. -/
def period (rate : TickRate) : Nat :=
  1000000000 / rate.hertz

end TickRate

/-- **A ticker**, some time after its start. -/
structure Ticker where
  /-- The time between two ticks, in nanoseconds. -/
  period : Nat
  period_pos : 0 < period
  /-- The time it has run, in nanoseconds. -/
  elapsed : Nat
  /-- Whether it still runs. -/
  running : Bool

namespace Ticker

/-- A ticker that starts now. -/
def start (period : Nat) : Except TickError Ticker :=
  if h : 0 < period then .ok ⟨period, h, 0, true⟩ else .error .zeroPeriod

/-- The ticks so far. -/
def ticks (ticker : Ticker) : Nat :=
  ticker.elapsed / ticker.period

/-- The ticker some nanoseconds later; one that was stopped stands
still. -/
def elapse (time : Nat) (ticker : Ticker) : Ticker :=
  if ticker.running then { ticker with elapsed := ticker.elapsed + time } else ticker

/-- The ticker, stopped for good. -/
def stop (ticker : Ticker) : Ticker :=
  { ticker with running := false }

/-- Nothing ticks after a stop. -/
theorem ticks_elapse_stop (ticker : Ticker) (time : Nat) :
    (ticker.stop.elapse time).ticks = ticker.ticks := rfl

end Ticker

end TimedMachines
