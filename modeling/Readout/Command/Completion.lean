/-
  Completion patterns.  In the pattern of a command, `[[suffix]]` may be typed as far as one likes, a run of
  white space stands for any other, and the rest is a regular expression.

  * `Segment` is a piece of a pattern, `Segment.ofPattern` takes a pattern apart;
  * `Completion.source` is the pattern as a regular expression;
  * `Matcher` is a pattern with its expression and its core;
  * `Matcher.isExact` and `Matcher.isPartial` are the two ways in which a command can match.
-/
import Readout.Command.Normal
import Readout.Regex.CommandPattern

namespace Readout.Command

/-! ## Segments -/

/-- A piece of a completion pattern. -/
inductive Segment where
  /-- a character of a regular expression -/
  | char (c : Char)
  /-- a text that may be typed as far as one likes -/
  | suffix (s : Text)
  /-- white space -/
  | blank
  deriving DecidableEq, Repr

namespace Segment

/-- The suffix that a pattern starts with, and the text behind it. -/
def suffix? : Text → Option (Text × Text)
  | '[' :: '[' :: t => Text.splitOn? "]]".toList t
  | _ => none

/-- The segments of a pattern that starts without white space.  Every segment takes a character at least, so
    that as much `fuel` as there are characters suffices. -/
def ofText : Nat → Text → List Segment
  | 0, _ => []
  | _, [] => []
  | fuel + 1, c :: t =>
    match suffix? (c :: t) with
    | some (s, rest) => suffix s :: ofText fuel rest
    | none =>
      if Unicode.isSpace c then blank :: ofText fuel (Text.trimStart t) else char c :: ofText fuel t

/-- The segments of a pattern; white space at its ends does not count. -/
def ofPattern (pattern : Text) : List Segment := ofText pattern.length pattern.trim

/-- A text, typed as far as one likes, as a regular expression: each character is optional with all that
    follow it. -/
def typed : Text → Text
  | [] => []
  | c :: s => "(?:".toList ++ Regex.Element.quoted c ++ typed s ++ ")?".toList

/-- The segment as a regular expression. -/
def source : Segment → Text
  | char c => [c]
  | suffix s => typed s
  | blank => "\\s+".toList

end Segment

/-! ## The regular expression of a pattern -/

namespace Completion

/-- The pattern as a regular expression. -/
def source (pattern : Text) : Text := (Segment.ofPattern pattern).flatMap Segment.source

/-- The expression that has to match a command, in any case and from end to end. -/
def wrap (source : Text) : Text := "(?i)^(?:".toList ++ source ++ ")$".toList

example : source " sh[[ow]] \t ver[[s.]] ".toList = "sh(?:o(?:w)?)?\\s+ver(?:s(?:\\.)?)?".toList := by
  decide +kernel
example : source "a[[b]c".toList = "a[[b]c".toList := by decide +kernel

end Completion

/-! ## Matchers -/

/-- A completion pattern, ready for matching. -/
structure Matcher where
  pattern : Text
  /-- the expression, unless it is refused -/
  regex : Option Regex.CommandPattern
  core : Text
  deriving DecidableEq

namespace Matcher

/-- The matcher of a pattern. -/
def ofPattern (pattern : Text) : Matcher where
  pattern
  regex := Regex.CommandPattern.parse? (Completion.wrap (Completion.source pattern))
  core := Command.core pattern

/-- Is the expression accepted? -/
def isCompiled (m : Matcher) : Bool := m.regex.isSome

/-- Does the expression match the command? -/
def isExact (m : Matcher) (command : Text) : Bool :=
  match m.regex with
  | some p => p.occurs command
  | none => false

/-- Is the command a part of the core, or the core of the command? -/
def isPartial (m : Matcher) (command : Text) : Bool :=
  !command.isEmpty && !m.core.isEmpty && (Text.hasInfix m.core command || Text.hasInfix command m.core)

end Matcher

end Readout.Command
