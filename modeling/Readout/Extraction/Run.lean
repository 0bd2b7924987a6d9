/-
  Running a template over device output.  The output is read line by line; in each line the rules of the
  present state are tried in order, and the first that matches assigns what it captures and acts.  The end of
  the output counts as one more line, which is empty.

  * `Slot` holds the present value of a column, `Run` a run so far: the state, the slots and the rows;
  * `Run.assign`, `Run.emit`, `Run.clear` and `Run.clearAll` are what rules do to slots and rows;
  * `Run.line` takes in one line, `extract` all of them.
-/
import Readout.Extraction.Record
import Readout.Template.Basic

namespace Readout.Extraction

open Template (State Value Rule)

/-! ## Failures and findings -/

/-- Why a run fails. -/
inductive Failure where
  /-- a rule rejects line `number` of the input -/
  | rejected (state : Text) (rule number : Nat) (line : Text) (message : Option Text)
  /-- a rule needs too many attempts on line `number` -/
  | exhausted (rule number : Nat)
  | noStart
  | undeclaredState (name : Text)
  deriving DecidableEq, Repr

/-- The wording of a failure. -/
def Failure.message : Failure → String
  | rejected state rule number line message =>
    let reason : Text := message.getD "State Error raised".toList
    s!"Input rejected in state '{Text.str state}' by rule at line {rule}: {Text.str reason}. " ++
      s!"Input line {number}: '{Text.str line}'"
  | exhausted rule number =>
    s!"Internal error: matching rule at template line {rule} against input line {number}: " ++
      "Error executing regex: Max limit for backtracking count exceeded"
  | noStart => "Internal error: template has no Start state"
  | undeclaredState name => s!"Internal error: transition to undeclared state '{Text.str name}'"

/-- A finding that does not stop a run. -/
inductive Warning where
  | requiredNeverFilled (value : Text)
  deriving DecidableEq, Repr

/-- The wording of a warning. -/
def Warning.message : Warning → String
  | requiredNeverFilled value => s!"Required value '{Text.str value}' never received a value"

/-- What a run yields. -/
structure Outcome where
  records : List Record := []
  warnings : List Warning := []
  deriving DecidableEq, Repr

/-! ## Slots -/

/-- The present value of a column. -/
inductive Slot where
  | scalar (t : Option Text)
  | list (ts : List Text)
  deriving DecidableEq, Repr

namespace Slot

/-- The slot of a value to which nothing has been assigned. -/
def fresh (v : Value) : Slot := if v.has .list then list [] else scalar none

/-- Has nothing been assigned?  An empty text counts as assigned. -/
def isUnset : Slot → Bool
  | scalar t => t.isNone
  | list ts => ts.isEmpty

/-- Is there nothing to see? -/
def isEmpty : Slot → Bool
  | scalar t => (t.getD []).isEmpty
  | list ts => ts.isEmpty

/-- The slot without its value. -/
def reset : Slot → Slot
  | scalar _ => scalar none
  | list _ => list []

/-- The slot with a text more: it replaces the text of a scalar, and goes to the end of a list. -/
def put (t : Text) : Slot → Slot
  | scalar _ => scalar (some t)
  | list ts => list (ts ++ [t])

/-- The slot as a field. -/
def field : Slot → Field
  | scalar t => .single (t.getD [])
  | list ts => .list ts

end Slot

/-! ## Runs -/

/-- Where a run is. -/
inductive Position where
  | running (s : State)
  /-- stopped, without a last record -/
  | ended
  /-- stopped, as at the end of the input -/
  | atEof
  deriving DecidableEq

/-- Is the run still going? -/
def Position.isRunning : Position → Bool
  | running _ => true
  | _ => false

/-- A run so far. -/
structure Run where
  position : Position
  slots : List Slot
  /-- the emitted rows, the last one first -/
  rows : List Row := []
  deriving DecidableEq

/-- Puts a text into column `i` of the rows, the last one first, up to a row that has something there. -/
def fillUp (i : Nat) (t : Text) : List Row → List Row
  | [] => []
  | row :: rows =>
    if row[i]?.any (!·.isEmpty) then row :: rows else row.set i (.single t) :: fillUp i t rows

namespace Run

/-- Assigns a captured text to value `i`. -/
def assign (values : List Value) (r : Run) (i : Nat) (t : Text) : Run where
  position := r.position
  slots := r.slots.modify i (Slot.put t)
  rows := if !t.isEmpty && values[i]?.any (·.has .fillup) then fillUp i t r.rows else r.rows

/-- Drops all values but those that are filled down. -/
def clear (values : List Value) (r : Run) : Run :=
  { r with slots := List.zipWith (fun v s => if v.has .filldown then s else s.reset) values r.slots }

/-- Drops all values. -/
def clearAll (r : Run) : Run := { r with slots := r.slots.map Slot.reset }

/-- Is there a required value that is empty? -/
def lacksRequired (values : List Value) (r : Run) : Bool :=
  (values.zip r.slots).any fun (v, s) => v.has .required && s.isEmpty

/-- Emits a record, unless a required value is empty or nothing has been assigned. -/
def emit (values : List Value) (r : Run) : Run :=
  if r.lacksRequired values then r.clear values
  else if r.slots.all Slot.isUnset then r
  else { r with rows := r.slots.map Slot.field :: r.rows }.clear values

/-- Carries out a record operation. -/
def act (values : List Value) (r : Run) : Template.RecordOp → Run
  | .noRecord => r
  | .record => r.emit values
  | .clear => r.clear values
  | .clearAll => r.clearAll

/-- Assigns what a rule has captured in a line. -/
def bind (values : List Value) (rule : Rule) (line : Text) (m : Regex.Match) (r : Run) : Run :=
  rule.bindings.foldl (fun r i =>
    match values[i]?.bind fun v => rule.regex.capture? line m v.name with
    | some t => r.assign values i t
    | none => r) r

/-- Where a run comes to by going to the state called `name`. -/
def goTo (t : Template) (name : Text) : Except Failure Position :=
  if name = Template.endState then .ok .ended
  else if name = Template.eofState then .ok .atEof
  else
    match t.state? name with
    | some s => .ok (.running s)
    | none => .error (.undeclaredState name)

/-- Tries rules of the state `s` on line `number`. -/
def tryRules (t : Template) (s : State) (number : Nat) (line : Text) (r : Run) :
    List Rule → Except Failure Run
  | [] => .ok r
  | rule :: rules =>
    match rule.regex.search line with
    | .error () => .error (.exhausted rule.line number)
    | .ok none => tryRules t s number line r rules
    | .ok (some m) =>
      let r := (r.bind t.values rule line m).act t.values rule.action.record
      match rule.action.line with
      | .continue_ => tryRules t s number line r rules
      | .error message => .error (.rejected s.name rule.line number line message)
      | .next =>
        match rule.action.target with
        | none => .ok r
        | some name => (goTo t name).map fun position => { r with position }

/-- Takes in line `number`; a run that has stopped does not look at it. -/
def line (t : Template) (number : Nat) (line : Text) (r : Run) : Except Failure Run :=
  match r.position with
  | .running s => tryRules t s number line r s.rules
  | _ => .ok r

/-- Takes in lines, the first of which has a number. -/
def lines (t : Template) (number : Nat) (r : Run) : List Text → Except Failure Run
  | [] => .ok r
  | l :: ls => (r.line t number l).bind fun r => lines t (number + 1) r ls

/-- A run that has not read anything. -/
def start (t : Template) : Except Failure Run :=
  match t.state? Template.startState with
  | some s => .ok { position := .running s, slots := t.values.map Slot.fresh }
  | none => .error .noStart

/-- Emits the last record, unless the run was ended or the template has a state for the end. -/
def close (t : Template) (r : Run) : Run :=
  if r.position = .ended || t.hasState Template.eofState then r else r.emit t.values

/-- What a run yields: its rows in order, and a warning for each required value that none of them has. -/
def outcome (t : Template) (r : Run) : Outcome where
  records := r.rows.reverse.map fun row => t.header.zip row
  warnings :=
    (t.values.zipIdx.filter fun (v, i) =>
      v.has .required && r.rows.all fun row => !row[i]?.any (!·.isEmpty)).map
        fun (v, _) => .requiredNeverFilled v.name

end Run

/-- Runs a template over device output. -/
def extract (t : Template) (text : Text) : Except Failure Outcome := do
  let r ← Run.start t
  let ls := text.inputLines
  let r ← Run.lines t 1 r (ls ++ [[]])
  return (r.close t).outcome t

end Readout.Extraction
