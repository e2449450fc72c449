/-!
# Taking texts apart

A text is cut in two at the first of some mark, or split into the parts
between all of them. Splitting always gives at least one part: what has
no mark is one part, and a mark at an end has an empty part beyond it.
-/

namespace TimedMachines.Text

/-- The text ahead of the first `mark`, and the text behind it if there is
one. -/
def cut (mark : Char) : List Char → List Char × Option (List Char)
  | [] => ([], none)
  | c :: rest =>
    if c = mark then ([], some rest)
    else
      let (before, after) := cut mark rest
      (c :: before, after)

/-- The parts of a text between the marks. -/
def split (mark : Char) : List Char → List (List Char)
  | [] => [[]]
  | c :: rest =>
    if c = mark then
      [] :: split mark rest
    else
      match split mark rest with
      | [] => [[c]]
      | first :: others => (c :: first) :: others

theorem split_ne_nil (mark : Char) (text : List Char) : split mark text ≠ [] := by
  cases text with
  | nil => simp [split]
  | cons c rest =>
    unfold split
    split
    · simp
    · split <;> simp

end TimedMachines.Text
