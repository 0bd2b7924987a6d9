/-
  Actions: what happens behind a rule that matches.  An action is a line operation, a record operation or
  both with a dot between them, and a state to go to; an error has a message in place of the state.

  * `Action` is an action, `Action.parse` reads one, `Action.Fault` are the reasons to refuse one;
  * `Action.print` writes an action.
-/
import Readout.Template.Name

namespace Readout.Template

/-! ## Operations -/

/-- What happens to the input line. -/
inductive LineOp where
  /-- go on with the next line -/
  | next
  /-- try the remaining rules on the same line -/
  | continue_
  /-- reject the input -/
  | error (message : Option Text)
  deriving DecidableEq, Repr

/-- What happens to the record. -/
inductive RecordOp where
  | noRecord
  /-- emit the record -/
  | record
  /-- drop all values but those that are filled down -/
  | clear
  /-- drop all values -/
  | clearAll
  deriving DecidableEq, Repr

/-- The keyword of a line operation. -/
def LineOp.keyword : LineOp → Text
  | next => "Next".toList
  | continue_ => "Continue".toList
  | error _ => "Error".toList

/-- The line operation with a keyword. -/
def LineOp.ofKeyword? (t : Text) : Option LineOp := [next, continue_, error none].find? (·.keyword == t)

/-- The keyword of a record operation. -/
def RecordOp.keyword : RecordOp → Text
  | noRecord => "NoRecord".toList
  | record => "Record".toList
  | clear => "Clear".toList
  | clearAll => "Clearall".toList

/-- The record operation with a keyword. -/
def RecordOp.ofKeyword? (t : Text) : Option RecordOp :=
  [noRecord, record, clear, clearAll].find? (·.keyword == t)

/-- Is the text a keyword, and so no name of a state? -/
def isReserved (t : Text) : Bool := (LineOp.ofKeyword? t).isSome || (RecordOp.ofKeyword? t).isSome

/-! ## Actions -/

/-- What a rule does. -/
structure Action where
  line : LineOp := .next
  record : RecordOp := .noRecord
  /-- the state to go to -/
  target : Option Text := none
  deriving DecidableEq, Repr

namespace Action

/-- Why an action is refused. -/
inductive Fault where
  | unknownLineOp (word : Text)
  | unknownRecordOp (word : Text)
  | malformed (action : Text)
  | badStateName (name : Text)
  | continueToState (name : Text)
  deriving DecidableEq, Repr

/-- The wording of a fault. -/
def Fault.message : Fault → String
  | unknownLineOp word => s!"unknown line operation '{Text.str word}'"
  | unknownRecordOp word => s!"unknown record operation '{Text.str word}'"
  | malformed action => s!"badly formatted action '{Text.str action}'"
  | badStateName name => s!"alphanumeric characters only in state names, got '{Text.str name}'"
  | continueToState name => s!"action 'Continue' with new state {Text.str name} specified"

/-- Reads the operations of an action: the action without its argument, and the argument. -/
def parseOps (action : Text) : Except Fault (Action × Text) :=
  let (op, argument) := action.splitWord
  match op.span (· != '.') with
  | (first, _ :: second) =>
    match LineOp.ofKeyword? first, RecordOp.ofKeyword? second with
    | some l, some r => .ok ({ line := l, record := r }, argument)
    | none, _ => .error (.unknownLineOp first)
    | _, none => .error (.unknownRecordOp second)
  | _ =>
    match LineOp.ofKeyword? op, RecordOp.ofKeyword? op with
    | some l, _ => .ok ({ line := l }, argument)
    | none, some r => .ok ({ record := r }, argument)
    | none, none => if argument.isEmpty then .ok ({}, op) else .error (.malformed action)

/-- Gives an action its argument: the message of an error, or else the state to go to. -/
def withArgument (a : Action) (argument : Text) : Except Fault Action :=
  if argument.isEmpty then .ok a
  else
    match a.line with
    | .error _ => .ok { a with line := .error (some argument.stripQuotes) }
    | .continue_ =>
      if isWord argument then .error (.continueToState argument) else .error (.badStateName argument)
    | .next =>
      if isWord argument then .ok { a with target := some argument } else .error (.badStateName argument)

/-- Reads an action. -/
def parse (t : Text) : Except Fault Action :=
  let t := t.trim
  if t.isEmpty then .ok {} else (parseOps t).bind fun (a, argument) => a.withArgument argument

/-- Writes an action. -/
def print (a : Action) : Text :=
  a.line.keyword ++ ['.'] ++ a.record.keyword ++
    (match a.line, a.target with
     | .error (some message), _ => " \"".toList ++ message ++ ['"']
     | _, some state => ' ' :: state
     | _, none => [])

end Action

end Readout.Template
