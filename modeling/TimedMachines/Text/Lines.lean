/-!
# Lines of a byte stream

A stream of bytes is cut at line feeds. A line ends before its line feed
or before the carriage return ahead of it; what follows the last line
feed is a line of its own unless it is empty. Each line is then read as
UTF-8, and a line that is none is marked as such rather than repaired.
-/

namespace TimedMachines.Text

/-- A line without the carriage return of its line ending. -/
def dropReturn (line : List UInt8) : List UInt8 :=
  if line.getLast? = some 13 then line.dropLast else line

/-- The lines of a stream, where `held` is the unfinished line so far in
reverse order. -/
def linesAfter (held : List UInt8) : List UInt8 → List (List UInt8)
  | [] => if held.isEmpty then [] else [held.reverse]
  | b :: rest =>
    if b = 10 then dropReturn held.reverse :: linesAfter [] rest else linesAfter (b :: held) rest

/-- **The lines of a stream of bytes**; `none` stands for a line that is
not UTF-8. -/
def lines (bytes : List UInt8) : List (Option String) :=
  (linesAfter [] bytes).map fun line => String.fromUTF8? ⟨line.toArray⟩

end TimedMachines.Text
