/-!
# Decimal numbers as text

Numbers are written in base ten, bare or padded with zeros to a fixed
width, and read back from an optional `+` and a run of ASCII digits.
`value` gives the number a run of digits stands for; `read?` accepts a
text exactly when it is such a run and its value is below a bound.
-/

namespace TimedMachines.Decimal

/-- The digits of `n`, most significant first and without leading zeros. -/
def digits (n : Nat) : List Char :=
  Nat.toDigits 10 n

/-- `n` in base ten. -/
def text (n : Nat) : String :=
  String.ofList (digits n)

/-- `n` in base ten, with leading zeros up to `width` digits. A longer
number is written in full. -/
def padded (width n : Nat) : String :=
  String.ofList (List.replicate (width - (digits n).length) '0' ++ digits n)

/-- An ASCII digit. -/
def isDigit (c : Char) : Bool :=
  decide ('0' ≤ c) && decide (c ≤ '9')

/-- The number a run of digits stands for. -/
def value (ds : List Char) : Nat :=
  ds.foldl (fun n c => 10 * n + (c.toNat - '0'.toNat)) 0

/-- A text without its leading `+`, if it has one. -/
def unsigned : List Char → List Char
  | '+' :: rest => rest
  | text => text

/-- **Reading an unsigned number.** At least one digit and nothing but
digits may follow the optional sign, and the value must be below
`bound`; any number of leading zeros is fine. -/
def read? (bound : Nat) (text : List Char) : Option Nat :=
  let ds := unsigned text
  if !ds.isEmpty && ds.all isDigit && decide (value ds < bound) then some (value ds) else none

/-- Only numbers below the bound are read. -/
theorem read?_lt {bound n : Nat} {text : List Char} (h : read? bound text = some n) :
    n < bound := by
  unfold read? at h
  simp only [] at h
  split at h
  · rename_i hcond
    simp only [Bool.and_eq_true, decide_eq_true_eq] at hcond
    cases h
    exact hcond.2
  · cases h

end TimedMachines.Decimal
