/-
  Tables over code points.  A property of characters is a list of closed ranges, and a mapping of
  characters is a list of shifts: every `stride`-th code point of a range goes to the code point at the
  same distance from another place.  The tables are those of Unicode 16.
-/

namespace Readout.Unicode

/-- Closed ranges of code points. -/
abbrev Ranges := List (Nat × Nat)

/-- Does `n` lie in one of the ranges? -/
def Ranges.contains (rs : Ranges) (n : Nat) : Bool := rs.any fun r => r.1 ≤ n && n ≤ r.2

/-- A mapping of the code points `lo`, `lo + stride`, …, `hi` to `target`, `target + stride`, …. -/
structure Shift where
  lo : Nat
  hi : Nat
  stride : Nat
  target : Nat
  deriving DecidableEq, Repr

namespace Shift

/-- Does the shift move `n`? -/
def moves (s : Shift) (n : Nat) : Bool := s.lo ≤ n && n ≤ s.hi && (n - s.lo) % s.stride == 0

/-- Where the shift takes a code point that it moves. -/
def apply (s : Shift) (n : Nat) : Nat := s.target + (n - s.lo)

/-- The shift that leads back. -/
def inverse (s : Shift) : Shift := ⟨s.target, s.target + (s.hi - s.lo), s.stride, s.lo⟩

/-- The image of `n`: a code point that no shift moves stays. -/
def map (ss : List Shift) (n : Nat) : Nat := ((ss.find? (·.moves n)).map (·.apply n)).getD n

/-- The code points that are moved to `n`. -/
def sources (ss : List Shift) (n : Nat) : List Nat :=
  ss.filterMap fun s => if s.inverse.moves n then some (s.inverse.apply n) else none

end Shift

end Readout.Unicode
