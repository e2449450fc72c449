import TimedMachines.Text.Decimal

/-!
# Durations as text

A duration is written in seconds from one second on, and in milliseconds
below, with no more decimals than it needs.
-/

namespace TimedMachines.Text

/-- Digits without the zeros at their end. -/
def dropZeros (ds : List Char) : List Char :=
  (ds.reverse.dropWhile (· == '0')).reverse

/-- A number of milliseconds as text. -/
def duration (milliseconds : Nat) : String :=
  if milliseconds < 1000 then
    Decimal.text milliseconds ++ "ms"
  else
    let decimals := String.ofList (dropZeros (Decimal.padded 3 (milliseconds % 1000)).toList)
    Decimal.text (milliseconds / 1000) ++ (if decimals.isEmpty then "" else "." ++ decimals) ++ "s"

end TimedMachines.Text
