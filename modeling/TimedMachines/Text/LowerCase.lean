import TimedMachines.Text.CaseTable

/-!
# Lower case

The full Unicode lower-case mapping: one character at a time, except for
two rules. `İ` becomes two characters, and `Σ` becomes the final `ς` at
the end of a word – when a cased character comes before it and none
after it, case-ignorable characters in between being skipped – and `σ`
anywhere else.
-/

namespace TimedMachines.Text

/-- Whether one of the ranges holds the character. -/
def inRanges (ranges : List (Nat × Nat)) (c : Char) : Bool :=
  ranges.any fun range => decide (range.1 ≤ c.toNat) && decide (c.toNat ≤ range.2)

/-- Whether a character is a letter that comes in cases. -/
def isCased (c : Char) : Bool :=
  inRanges casedRanges c

/-- Whether a character is transparent to the rule on final sigmas. -/
def isCaseIgnorable (c : Char) : Bool :=
  inRanges caseIgnorableRanges c

/-- Whether a run holds the code point. -/
def CaseRun.covers (run : CaseRun) (code : Nat) : Bool :=
  decide (run.first ≤ code) && decide (code ≤ run.last) && (code - run.first) % run.stride == 0

/-- The lower case of one character, where its surroundings do not
matter. -/
def lowerChar (c : Char) : List Char :=
  if c.toNat < 0x80 then
    [c.toLower]
  else if c = 'İ' then
    ['i', '\u0307']
  else
    match capitalRuns.find? (·.covers c.toNat) with
    | some run => [Char.ofNat (c.toNat + run.shift).toNat]
    | none => [c]

/-- Whether the first character that is not case-ignorable is cased. -/
def meetsCased (cs : List Char) : Bool :=
  ((cs.dropWhile isCaseIgnorable).head?.map isCased).getD false

/-- The lower case of `rest`, where `before` is the text ahead of it in
reverse order. -/
def lowerAfter (before : List Char) : List Char → List Char
  | [] => []
  | c :: rest =>
    let small :=
      if c = 'Σ' then
        if meetsCased before && !meetsCased rest then ['ς'] else ['σ']
      else
        lowerChar c
    small ++ lowerAfter (c :: before) rest

/-- **The lower case of a text.** -/
def lower (cs : List Char) : List Char :=
  lowerAfter [] cs

end TimedMachines.Text
