/-
  References to values in rules.  In a rule, `$name` and a name in braces behind `$` stand for the pattern
  of a declared value as a named group, and `$$` for a dollar sign; what has been put in is not read again.

  * `substitute` replaces the references, `Substitution.Fault` are the reasons to refuse a rule.
-/
import Readout.Template.Value

namespace Readout.Template

namespace Substitution

/-- Why the references of a rule are refused. -/
inductive Fault where
  | unknownValue (name : Text)
  | unterminated
  | badPlaceholder
  deriving DecidableEq, Repr

/-- The wording of a fault. -/
def Fault.message : Fault → String
  | unknownValue name => s!"unknown value '{Text.str name}' in rule"
  | unterminated => "unterminated '$\x7b' substitution"
  | badPlaceholder => "invalid '$' placeholder; use '$$' for an end-of-line anchor"

/-- Is `c` a character of a name without braces? -/
def isPlainChar (c : Char) : Bool := c.isAlphanum || c == '_'

/-- The group of the value called `name`. -/
def group (values : List Value) (name : Text) : Except Fault Text :=
  match values.find? (·.name == name) with
  | some v => .ok v.group
  | none => .error (.unknownValue name)

/-- The reference behind a dollar sign: what it stands for, and the text behind it. -/
def reference (values : List Value) (t : Text) : Except Fault (Text × Text) :=
  match t with
  | '$' :: t => .ok (['$'], t)
  | '{' :: t =>
    match t.span (· != '}') with
    | (name, _ :: rest) => (group values name).map (·, rest)
    | _ => .error .unterminated
  | t =>
    let (name, rest) := t.span isPlainChar
    if (name.head?.map (!·.isDigit)).getD false then (group values name).map (·, rest)
    else .error .badPlaceholder

/-- Replaces references, as many as `fuel` allows. -/
def substituteFrom (values : List Value) : Nat → Text → Except Fault Text
  | 0, t => .ok t
  | _, [] => .ok []
  | fuel + 1, c :: t =>
    if c = '$' then do
      let (s, rest) ← reference values t
      return s ++ (← substituteFrom values fuel rest)
    else (substituteFrom values fuel t).map (c :: ·)

end Substitution

/-- The text with its references replaced. -/
def substitute (values : List Value) (t : Text) : Except Substitution.Fault Text :=
  Substitution.substituteFrom values t.length t

end Readout.Template
