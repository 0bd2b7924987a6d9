/-
  Rules: a pattern that is tried on an input line, and the action behind an arrow.

  * `Rule` is a rule, `Rule.parse` reads one, `Rule.Fault` are the reasons to refuse one;
  * `Rule.print` writes a rule.
-/
import Readout.Template.Action
import Readout.Template.Substitution

namespace Readout.Template

/-- A rule of a state. -/
structure Rule where
  /-- the pattern as written -/
  source : Text
  /-- the pattern with its references replaced -/
  expanded : Text
  regex : Regex.LinePattern
  action : Action
  /-- the positions of the values that the pattern captures, in ascending order -/
  bindings : List Nat
  /-- the line of the template -/
  line : Nat
  deriving DecidableEq

namespace Rule

/-- Why a rule is refused. -/
inductive Fault where
  | action (fault : Action.Fault)
  | substitution (fault : Substitution.Fault)
  | pattern (expanded : Text)
  /-- the rule is not indented, or its pattern is not anchored -/
  | noCaret
  deriving DecidableEq, Repr

/-- The pattern and the action around the last arrow that follows white space; `blank` says that white space
    stands in front of the text. -/
def splitArrowFrom? (blank : Bool) : Text → Option (Text × Text)
  | [] => none
  | c :: t =>
    match splitArrowFrom? (Unicode.isSpace c) t with
    | some (pattern, action) => some (c :: pattern, action)
    | none =>
      match c, t with
      | '-', '>' :: action => if blank then some ([], action) else none
      | _, _ => none

/-- The pattern and the action around the last arrow that follows white space. -/
def splitArrow? (t : Text) : Option (Text × Text) :=
  (splitArrowFrom? false t).map fun (pattern, action) => (pattern.trimEnd, action)

/-- The positions of the values that are names of groups. -/
def bindingsOf (values : List Value) (p : Regex.LinePattern) : List Nat :=
  (List.range values.length).filter fun i => (values[i]?.map fun v => (p.group? v.name).isSome).getD false

/-- Reads a rule of a template that declares `values`. -/
def parse (values : List Value) (line : Nat) (t : Text) : Except Fault Rule := do
  let t := t.trim
  let (source, action) ←
    match splitArrow? t with
    | some (source, action) =>
      match Action.parse action with
      | .ok action => .ok (source, action)
      | .error e => .error (.action e)
    | none => .ok (t, {})
  match substitute values source with
  | .error e => .error (.substitution e)
  | .ok expanded =>
    match Regex.LinePattern.parse? expanded with
    | none => .error (.pattern expanded)
    | some regex => .ok { source, expanded, regex, action, bindings := bindingsOf values regex, line }

/-- Writes a rule. -/
def print (r : Rule) : Text := "  ".toList ++ r.source ++ " -> ".toList ++ r.action.print

end Rule

end Readout.Template
