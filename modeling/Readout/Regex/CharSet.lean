/-
  Sets of characters: what a single element of a regular expression accepts.

  * `CharSet` is the syntax of sets: ranges, tables, the three classes of the standard escapes, set operations,
    and closure under case folding;
  * `contains` decides membership;
  * `ascii?` finds the named ASCII classes of bracket expressions.
-/
import Readout.Text.Basic
import Readout.Unicode.Digit
import Readout.Unicode.Fold
import Readout.Unicode.Word

namespace Readout.Regex

/-- A set of characters. -/
inductive CharSet where
  /-- no character -/
  | empty
  /-- every character -/
  | any
  /-- the characters from `lo` to `hi` -/
  | range (lo hi : Char)
  /-- the characters of a table -/
  | table (rs : Unicode.Ranges)
  /-- decimal digits -/
  | digit
  /-- white space -/
  | space
  /-- word characters -/
  | word
  | union (a b : CharSet)
  | inter (a b : CharSet)
  | diff (a b : CharSet)
  /-- the characters in exactly one of two sets -/
  | either (a b : CharSet)
  | compl (a : CharSet)
  /-- the characters that are the same up to case as one of the set -/
  | folded (a : CharSet)
  deriving DecidableEq, Repr

namespace CharSet

/-- Is `c` in the set? -/
def contains : CharSet → Char → Bool
  | empty, _ => false
  | any, _ => true
  | range lo hi, c => lo ≤ c && c ≤ hi
  | table rs, c => rs.contains c.toNat
  | digit, c => Unicode.isDigit c
  | space, c => Unicode.isSpace c
  | word, c => Unicode.isWord c
  | union a b, c => a.contains c || b.contains c
  | inter a b, c => a.contains c && b.contains c
  | diff a b, c => a.contains c && !b.contains c
  | either a b, c => a.contains c != b.contains c
  | compl a, c => !a.contains c
  | folded a, c => (Unicode.orbit c).any a.contains

/-- The set of one character. -/
def single (c : Char) : CharSet := range c c

/-- The set, closed under case folding if `fold` says so. -/
def foldIf (fold : Bool) (s : CharSet) : CharSet := if fold then folded s else s

/-- The complement if `negate` says so. -/
def complIf (negate : Bool) (s : CharSet) : CharSet := if negate then compl s else s

/-- The union of several sets. -/
def unions (ss : List CharSet) : CharSet := ss.foldr union empty

/-- ASCII, where the standard classes are confined to it. -/
def ascii : CharSet := range '\x00' '\x7f'

/-- Everything but a line feed. -/
def notNewline : CharSet := compl (single '\n')

/-- Hexadecimal digits. -/
def hex : CharSet := unions [range '0' '9', range 'A' 'F', range 'a' 'f']

/-- The ASCII class called `name` in bracket expressions. -/
def ascii? (name : String) : Option CharSet :=
  match name with
  | "alnum" => some (unions [range '0' '9', range 'A' 'Z', range 'a' 'z'])
  | "alpha" => some (unions [range 'A' 'Z', range 'a' 'z'])
  | "ascii" => some ascii
  | "blank" => some (unions [single '\t', single ' '])
  | "cntrl" => some (unions [range '\x00' '\x1f', single '\x7f'])
  | "digit" => some (range '0' '9')
  | "graph" => some (range '!' '~')
  | "lower" => some (range 'a' 'z')
  | "print" => some (range ' ' '~')
  | "punct" => some (unions [range '!' '/', range ':' '@', range '[' '\x60', range '\x7b' '~'])
  | "space" => some (unions [range '\t' '\r', single ' '])
  | "upper" => some (range 'A' 'Z')
  | "word" => some (unions [range '0' '9', range 'A' 'Z', single '_', range 'a' 'z'])
  | "xdigit" => some hex
  | _ => none

@[simp] theorem contains_single (c d : Char) : (single c).contains d = (d == c) := by
  simp only [single, contains]
  rw [Bool.eq_iff_iff]
  simp only [Bool.and_eq_true, decide_eq_true_eq, beq_iff_eq]
  exact ⟨fun h => Char.le_antisymm h.2 h.1, fun h => h ▸ ⟨Char.le_refl _, Char.le_refl _⟩⟩

end CharSet

end Readout.Regex
