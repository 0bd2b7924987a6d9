/-
  The property `White_Space`: blanks between words, line ends, and the paddings that trimming removes.
-/
import Readout.Unicode.Ranges

namespace Readout.Unicode

/-- The code points with the property `White_Space`. -/
def spaceRanges : Ranges :=
  [(0x9, 0xd), (0x20, 0x20), (0x85, 0x85), (0xa0, 0xa0), (0x1680, 0x1680), (0x2000, 0x200a),
   (0x2028, 0x2029), (0x202f, 0x202f), (0x205f, 0x205f), (0x3000, 0x3000)]

/-- Is `c` white space? -/
def isSpace (c : Char) : Bool := spaceRanges.contains c.toNat

example : isSpace ' ' ∧ isSpace '\t' ∧ isSpace '\n' ∧ isSpace '\r' ∧ isSpace '\x0b' := by decide
example : isSpace '\u00a0' ∧ isSpace '\u0085' ∧ isSpace '\u3000' ∧ ¬ isSpace '\u200b' := by decide

end Readout.Unicode
