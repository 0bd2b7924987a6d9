/-
  Tables of runs: code points that stand one behind the other and have a property in common, by its name.  A table is
  written as a text, in which each run is its name and the number of its code points.

  * `readRuns` reads such a table, `runRanges` are the ranges of the runs with given names.
-/
import Readout.Text.Digits
import Readout.Unicode.Ranges

namespace Readout.Unicode

/-- A run of code points, of which `lo` is the first. -/
structure Run where
  name : Text
  lo : Nat
  /-- the number of code points, or 0 as long as none has been read -/
  count : Nat
  deriving DecidableEq, Repr

/-- The first code point behind the run; a run without a number is a single one. -/
def Run.stop (r : Run) : Nat := r.lo + Nat.max 1 r.count

/-- Reads a character more of a table, where the last run stands first: a capital starts a name. -/
def readRun (rs : List Run) (c : Char) : List Run :=
  if c.isUpper then ⟨[c], (rs.head?.map Run.stop).getD 0, 0⟩ :: rs
  else
    match rs with
    | [] => []
    | r :: rs =>
      if c.isDigit then { r with count := 10 * r.count + (c.toNat - '0'.toNat) } :: rs
      else { r with name := r.name ++ [c] } :: rs

/-- Reads a table. -/
def readRuns (lines : List String) : List Run := ((lines.flatMap String.toList).foldl readRun []).reverse

/-- The ranges of the runs with the names. -/
def runRanges (rs : List Run) (names : Text → Bool) : Ranges :=
  (rs.filter fun r => names r.name).map fun r => (r.lo, r.stop - 1)

example : runRanges (readRuns ["Cc32ZsPo", "3Sc"]) (·.head? == some 'P') = [(33, 35)] := by decide

end Readout.Unicode
