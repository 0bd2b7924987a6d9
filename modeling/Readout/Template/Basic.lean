/-
  Templates: declared values, and states with rules.  A template starts with its values; a blank line ends
  them, and blank lines stand between the states.  A line that starts with `#` is a comment.

  * `Template` is a template, `Template.parse` reads and checks one;
  * `Template.Fault` are the reasons to refuse one, with their lines;
  * `Template.print` writes a template.
-/
import Readout.Template.Rule
import Readout.Text.Lines

namespace Readout

namespace Template

/-! ## States -/

/-- A named list of rules. -/
structure State where
  name : Text
  rules : List Rule
  deriving DecidableEq

/-- The state in which every run starts. -/
def startState : Text := "Start".toList

/-- The state that ends a run at once. -/
def endState : Text := "End".toList

/-- The state that ends a run as the end of the input does. -/
def eofState : Text := "EOF".toList

end Template

/-- A template. -/
structure Template where
  values : List Template.Value
  /-- in written order -/
  states : List Template.State
  deriving DecidableEq

namespace Template

/-- The names of the values. -/
def header (t : Template) : List Text := t.values.map (·.name)

/-- The names of the values that identify a record. -/
def keys (t : Template) : List Text := (t.values.filter (·.has .key)).map (·.name)

/-- The state called `name`. -/
def state? (t : Template) (name : Text) : Option State := t.states.find? (·.name == name)

/-- Is there a state called `name`? -/
def hasState (t : Template) (name : Text) : Bool := (t.state? name).isSome

/-! ## Faults -/

/-- Why a template is refused. -/
inductive Fault where
  | invalidValue (line : Nat) (fault : Value.Fault)
  | noValues (line : Nat)
  | noBlankLine (line : Nat)
  | invalidStateName (line : Nat) (name : Text)
  | duplicateState (line : Nat) (name : Text)
  | invalidRule (line : Nat) (state : Text) (fault : Rule.Fault)
  | missingStart
  | nonEmptyTerminal (name : Text)
  | undefinedState (line : Nat) (state target : Text)
  deriving DecidableEq, Repr

/-- The wording of a fault. -/
def Fault.message : Fault → String
  | invalidValue line fault => s!"Invalid Value declaration: {fault.message}. Line: {line}"
  | noValues line => s!"No Value definitions found. Line: {line}"
  | noBlankLine line => s!"Expected blank line after last Value entry. Line: {line}"
  | invalidStateName line name => s!"Invalid state name '{Text.str name}'. Line: {line}"
  | duplicateState line name => s!"Duplicate state name '{Text.str name}'. Line: {line}"
  | invalidRule line state (.pattern expanded) =>
    s!"Invalid regular expression '{Text.str expanded}' in state '{Text.str state}': REGEX. Line: {line}"
  | invalidRule line state (.action fault) => inRule line state fault.message
  | invalidRule line state (.substitution fault) => inRule line state fault.message
  | invalidRule line state .noCaret =>
    inRule line state "missing white space or carat ('^') before rule"
  | missingStart => "Missing state 'Start'"
  | nonEmptyTerminal name => s!"Non-empty '{Text.str name}' state"
  | undefinedState line state target =>
    s!"State '{Text.str target}' not found, referenced in state '{Text.str state}'. Line: {line}"
where
  inRule (line : Nat) (state : Text) (message : String) : String :=
    s!"Invalid rule in state '{Text.str state}': {message}. Line: {line}"

/-! ## Reading -/

/-- The part of a template that is being read. -/
inductive Section where
  | values
  | between
  /-- the rules of a state whose name stands in line `line` -/
  | rules (line : Nat) (name : Text) (rules : List Rule)

/-- What has been read of a template. -/
structure Reading where
  values : List Value := []
  states : List State := []
  part : Section := .values
  /-- the number of the last line -/
  last : Nat := 0

/-- Is the line a comment? -/
def isComment (line : Text) : Bool := line.trimStart.head? == some '#'

/-- Can the text be the name of a state? -/
def isStateName (t : Text) : Bool := isName t && !isReserved t

/-- Does the line start as a rule: one or two blanks or a tabulator, and the caret of its pattern? -/
def startsRule (line : Text) : Bool :=
  Text.hasPrefix " ^".toList line || Text.hasPrefix "  ^".toList line || Text.hasPrefix "\t^".toList line

namespace Reading

/-- Reads a line of the value section. -/
def readValue (r : Reading) (n : Nat) (line : Text) : Except Fault Reading :=
  if line.isEmpty then
    if r.values.isEmpty then .error (.noValues n) else .ok { r with part := .between }
  else if isComment line then .ok r
  else if Text.hasPrefix "Value ".toList line then
    match Value.parse line with
    | .error e => .error (.invalidValue n e)
    | .ok v =>
      if r.values.any (·.name == v.name) then .error (.invalidValue n (.duplicateName v.name))
      else .ok { r with values := r.values ++ [v] }
  else if r.values.isEmpty then .error (.noValues n)
  else .error (.noBlankLine n)

/-- Reads a line in front of a state. -/
def readHeader (r : Reading) (n : Nat) (line : Text) : Except Fault Reading :=
  if line.isEmpty || isComment line then .ok r
  else if isStateName line then .ok { r with part := .rules n line [] }
  else .error (.invalidStateName n line)

/-- Adds a state that has been read to its end. -/
def addState (r : Reading) (n : Nat) (name : Text) (rules : List Rule) : Except Fault Reading :=
  if r.states.any (·.name == name) then .error (.duplicateState n name)
  else .ok { r with states := r.states ++ [⟨name, rules⟩], part := .between }

/-- Reads a line of a state. -/
def readRule (r : Reading) (start : Nat) (name : Text) (rules : List Rule) (n : Nat) (line : Text) :
    Except Fault Reading :=
  if line.isEmpty then r.addState start name rules
  else if isComment line then .ok r
  else if startsRule line then
    match Rule.parse r.values n line with
    | .error e => .error (.invalidRule n name e)
    | .ok rule => .ok { r with part := .rules start name (rules ++ [rule]) }
  else .error (.invalidRule n name .noCaret)

/-- Reads a line, given without white space at its end. -/
def readLine (r : Reading) (l : Nat × Text) : Except Fault Reading := do
  let r ←
    match r.part with
    | .values => r.readValue l.1 l.2
    | .between => r.readHeader l.1 l.2
    | .rules start name rules => r.readRule start name rules l.1 l.2
  return { r with last := l.1 }

/-- Ends the part that is being read. -/
def finish (r : Reading) : Except Fault Template :=
  match r.part with
  | .values => if r.values.isEmpty then .error (.noValues r.last) else .ok ⟨r.values, r.states⟩
  | .between => .ok ⟨r.values, r.states⟩
  | .rules start name rules => (r.addState start name rules).map fun r => ⟨r.values, r.states⟩

end Reading

/-! ## Checking -/

/-- Can a rule go to the state called `name`? -/
def reaches (t : Template) (name : Text) : Bool := name == endState || name == eofState || t.hasState name

/-- A rule that goes to a state that is not there, with the state it stands in. -/
def dangling? (t : Template) : Option (State × Rule × Text) :=
  t.states.findSome? fun s =>
    s.rules.findSome? fun r =>
      match r.action.target with
      | some name => if t.reaches name then none else some (s, r, name)
      | none => none

/-- Does the state called `name` have rules? -/
def hasRules (t : Template) (name : Text) : Bool := (t.state? name).any (!·.rules.isEmpty)

/-- Checks that a run can start and that all states are there that it can come to. -/
def check (t : Template) : Except Fault Template :=
  if !t.hasState startState then .error .missingStart
  else if t.hasRules endState then .error (.nonEmptyTerminal endState)
  else if t.hasRules eofState then .error (.nonEmptyTerminal eofState)
  else
    match t.dangling? with
    | some (s, r, name) => .error (.undefinedState r.line s.name name)
    | none => .ok t

/-- Reads and checks a template. -/
def parse (source : Text) : Except Fault Template :=
  (((source.numberedLines.map fun (n, l) => (n, Text.trimEnd l)).foldlM Reading.readLine {}).bind
    Reading.finish).bind check

/-! ## Printing -/

/-- The lines of a state. -/
def State.print (s : State) : List Text := s.name :: s.rules.map Rule.print

/-- Writes a template, with a blank line in front of every state. -/
def print (t : Template) : Text :=
  (t.values.map Value.print ++ t.states.flatMap fun s => [] :: s.print).flatMap (· ++ ['\n'])

end Template

end Readout
