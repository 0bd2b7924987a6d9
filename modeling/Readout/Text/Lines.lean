/-
  Lines.  A line ends at a line feed; a carriage return in front of the feed belongs to the line end, and
  nothing follows the last feed.

  * `lines` are the lines of a document;
  * `inputLines` are the lines of device output, which lose one more carriage return at their end, be it that
    of a last line without a feed or the second one in front of a feed.
-/
import Readout.Text.Basic

namespace Readout.Text

/-- The text without one carriage return at its end. -/
def dropReturn (t : Text) : Text := if t.getLast? = some '\r' then t.dropLast else t

/-- A last line that no line feed ends; there is none behind the last feed. -/
def openLine : Option Text → List Text
  | none | some [] => []
  | some l => [l]

/-- The lines of a document. -/
def lines (t : Text) : List Text :=
  let ps := t.pieces '\n'
  ps.dropLast.map dropReturn ++ openLine ps.getLast?

/-- The lines of device output. -/
def inputLines (t : Text) : List Text := t.lines.map dropReturn

/-- The lines of a document with their numbers, counted from one. -/
def numberedLines (t : Text) : List (Nat × Text) := t.lines.mapIdx fun i l => (i + 1, l)

example : lines "a\r\nb\n\nc\r".toList = ["a".toList, "b".toList, [], "c\r".toList] := by decide
example : lines "a\n".toList = ["a".toList] := by decide
example : inputLines "a\r\r\nb\r".toList = ["a".toList, "b".toList] := by decide

end Readout.Text
