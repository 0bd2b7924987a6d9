/-
  Places of a text.  Place `i` stands in front of the `i`-th character, and the last place behind all of
  them; a set of places is a natural number with bit `i` for place `i`, so that the places before a set are
  found by one shift.

  * `ofSet` are the places in front of a character of a set;
  * `ofAnchor` are the places where an anchor holds;
  * `first?` is the leftmost place of a set.
-/
import Readout.Regex.Node

namespace Readout.Regex

/-- A set of places. -/
abbrev Places := Nat

namespace Places

/-- Is place `i` in the set? -/
def has (p : Places) (i : Nat) : Bool := p.testBit i

/-- All places of a text of `n` characters. -/
def upTo (n : Nat) : Places := (1 <<< (n + 1)) - 1

/-- One place. -/
def only (i : Nat) : Places := 1 <<< i

/-- The places of both sets. -/
def both (p q : Places) : Places := p &&& q

/-- The places of either set. -/
def either (p q : Places) : Places := p ||| q

/-- The set without place `i`. -/
def without (p : Places) (i : Nat) : Places := if p.has i then p ^^^ only i else p

/-- The set with place `i` if `other` has it, and without it otherwise. -/
def replacing (p : Places) (i : Nat) (other : Places) : Places :=
  either (p.without i) (both other (only i))

/-- The places one character before those of `p`. -/
def back (p : Places) : Places := p >>> 1

/-- The places in front of a character of `s`. -/
def ofSet (s : CharSet) : Text → Places
  | [] => 0
  | c :: t => 2 * ofSet s t + (if s.contains c then 1 else 0)

/-- The places where `a` holds, behind the character `before` if there is one. -/
def ofAnchorFrom (a : Anchor) (before : Option Char) : Text → Places
  | [] => if a.holds before none then 1 else 0
  | c :: t => 2 * ofAnchorFrom a (some c) t + (if a.holds before (some c) then 1 else 0)

/-- The places where `a` holds. -/
def ofAnchor (a : Anchor) (t : Text) : Places := ofAnchorFrom a none t

/-- The leftmost of `i`, `i + 1`, …, `i + fuel - 1` in the set. -/
def firstFrom (p : Places) (i : Nat) : Nat → Option Nat
  | 0 => none
  | fuel + 1 => if p.has i then some i else p.firstFrom (i + 1) fuel

/-- The leftmost place of the set in a text of `n` characters. -/
def first? (n : Nat) (p : Places) : Option Nat := p.firstFrom 0 (n + 1)

/-- The least set that holds `p` and with a set all that `step` leads to, found in at most `fuel` rounds. -/
def close (step : Places → Places) : Nat → Places → Places
  | 0, p => p
  | fuel + 1, p =>
    let q := either p (step p)
    if q = p then p else close step fuel q

example : ofSet .word "a-b".toList = 0b101 := by decide
example : ofAnchor (.word true .edge) "a-b".toList = 0b1111 := by decide
example : ofAnchor (.word true .stop) "ab c".toList = 0b10100 := by decide
example : first? 3 (ofSet .space "a b".toList) = some 1 := by decide

end Places

end Readout.Regex
