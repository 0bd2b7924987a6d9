/-
  The syntax tree of regular expressions, common to the two dialects: patterns over input lines, which may
  look around and refer back, and patterns over commands, which may not.

  * `Anchor` is a condition on a place between two characters, `Anchor.holds` decides it;
  * `Node` is an expression;
  * `minSize`, `fixedSize` and `simple` measure it: the least number of characters of a match, whether all
    matches have that length, and whether matching needs no look-around and no back reference;
  * `unfolded` counts its elements with counted repetitions written out.
-/
import Readout.Regex.CharSet

namespace Readout.Regex

/-! ## Anchors -/

/-- A condition on the word characters around a place. -/
inductive Edge where
  /-- a word character on exactly one side -/
  | edge
  | notEdge
  /-- a word character behind the place and none in front of it -/
  | start
  /-- a word character in front of the place and none behind it -/
  | stop
  /-- no word character in front of the place -/
  | startHalf
  /-- no word character behind the place -/
  | stopHalf
  deriving DecidableEq, Repr

/-- Does the condition hold where there are word characters as `before` and `after` say? -/
def Edge.holds (before after : Bool) : Edge → Bool
  | edge => before != after
  | notEdge => before == after
  | start => !before && after
  | stop => before && !after
  | startHalf => !before
  | stopHalf => !after

/-- A condition on a place in a text. -/
inductive Anchor where
  | textStart
  | textEnd
  | lineStart
  | lineEnd
  /-- as `lineStart`, where a carriage return ends a line, too, by itself or with a line feed -/
  | breakStart
  /-- as `lineEnd`, where a carriage return ends a line, too, by itself or with a line feed -/
  | breakEnd
  /-- a condition on word characters, of ASCII only unless `unicode` -/
  | word (unicode : Bool) (e : Edge)
  deriving DecidableEq, Repr

/-- Does the anchor hold between the characters `before` and `after`? -/
def Anchor.holds (before after : Option Char) : Anchor → Bool
  | textStart => before.isNone
  | textEnd => after.isNone
  | lineStart => before.isNone || before == some '\n'
  | lineEnd => after.isNone || after == some '\n'
  | breakStart => before.isNone || before == some '\n' || (before == some '\r' && after != some '\n')
  | breakEnd => after.isNone || after == some '\r' || (after == some '\n' && before != some '\r')
  | word unicode e => e.holds (before.any (isWord unicode)) (after.any (isWord unicode))
where
  isWord (unicode : Bool) (c : Char) : Bool := Unicode.isWord c && (unicode || c.toNat < 128)

/-- Is the anchor about words? -/
def Anchor.ofWord : Anchor → Bool
  | word .. => true
  | _ => false

/-! ## Expressions -/

/-- An expression. -/
inductive Node where
  | empty
  /-- one character of a set -/
  | set (s : CharSet)
  | anchor (a : Anchor)
  | seq (a b : Node)
  /-- `a`, or else `b` -/
  | alt (a b : Node)
  /-- a capture group -/
  | group (index : Nat) (a : Node)
  /-- at least `min` and at most `max` times, more rather than less if greedy -/
  | loop (a : Node) (min : Nat) (max : Option Nat) (greedy : Bool)
  /-- a condition on the text that follows, or that precedes if `behind`; `negated` turns it round -/
  | look (behind negated : Bool) (a : Node)
  /-- the first match of `a` only -/
  | atomic (a : Node)
  /-- the text of a capture group again, up to case if `fold` -/
  | backref (index : Nat) (fold : Bool)
  /-- nothing, if the group has taken part -/
  | captured (index : Nat)
  /-- `yes` behind a match of `cond`, `no` if there is none -/
  | branch (cond yes no : Node)
  /-- nothing, but a mark for the place where the reported match begins -/
  | keep
  deriving DecidableEq, Repr

namespace Node

/-- Several expressions one after the other. -/
def concat : List Node → Node
  | [] => empty
  | [a] => a
  | a :: as => seq a (concat as)

/-- Several expressions to choose from. -/
def choice : List Node → Node
  | [] => empty
  | [a] => a
  | a :: as => alt a (choice as)

/-- The least number of characters in a match. -/
def minSize : Node → Nat
  | set _ => 1
  | seq a b => a.minSize + b.minSize
  | alt a b => Nat.min a.minSize b.minSize
  | group _ a | atomic a => a.minSize
  | loop a min _ _ => a.minSize * min
  | branch c y n => Nat.min (c.minSize + y.minSize) n.minSize
  | empty | anchor _ | look .. | backref .. | captured _ | keep => 0

/-- Do all matches have the same number of characters? -/
def fixedSize : Node → Bool
  | empty | set _ | anchor _ | look .. | captured _ | keep => true
  | seq a b => a.fixedSize && b.fixedSize
  | alt a b => a.fixedSize && b.fixedSize && a.minSize == b.minSize
  | group _ a | atomic a => a.fixedSize
  | loop a min max _ => a.fixedSize && max == some min
  | backref .. => false
  | branch c y n => c.fixedSize && y.fixedSize && n.fixedSize && c.minSize + y.minSize == n.minSize

/-- The groups that the expression refers back to. -/
def references : Node → List Nat
  | empty | set _ | anchor _ | keep => []
  | backref i _ | captured i => [i]
  | seq a b | alt a b => a.references ++ b.references
  | group _ a | loop a _ _ _ | look _ _ a | atomic a => a.references
  | branch c y n => c.references ++ y.references ++ n.references

/-- Can the expression be matched place by place, without a look-around and without remembering more than
    the places: it holds nothing that looks around or back, no condition on words, and no group of `refs`,
    the groups that are referred to. -/
def simple (refs : List Nat) : Node → Bool
  | empty | set _ => true
  | anchor a => !a.ofWord
  | seq a b | alt a b => a.simple refs && b.simple refs
  | group i a => !refs.contains i && a.simple refs
  | loop a _ _ _ => a.simple refs
  | look .. | atomic _ | backref .. | captured _ | branch .. | keep => false

/-- The number of elements when counted repetitions are written out. -/
def unfolded : Node → Nat
  | seq a b | alt a b => a.unfolded + b.unfolded + 1
  | group _ a | look _ _ a | atomic a => a.unfolded + 1
  | loop a min max _ => (a.unfolded + 1) * (Nat.max 1 (max.getD (min + 1)))
  | branch c y n => c.unfolded + y.unfolded + n.unfolded + 1
  | empty | set _ | anchor _ | backref .. | captured _ | keep => 1

/-- Expressions beyond this many elements are refused: a stand-in for the memory that their compiled form may take,
    which depends on its layout. -/
def sizeLimit : Nat := 200000

/-- Is the expression small enough to be compiled? -/
def fits (a : Node) : Bool := a.unfolded ≤ sizeLimit

/-- The one character as an expression. -/
def char (fold : Bool) (c : Char) : Node := set ((CharSet.single c).foldIf fold)

end Node

end Readout.Regex
