/-
  The course of a run.  Which rules fire, and in which states, does not depend on what the run has assigned
  or emitted so far; so the firings can be listed first, and carried out afterwards.

  * `Firing` is a rule that has matched a line; `Firing.captures` are the texts it assigns;
  * `Course.ofText` are the firings of a run in order, and where the run stops;
  * `extract_eq`: a run carries out the firings of its course, one after the other.
-/
import Readout.Extraction.Run

namespace Readout.Extraction

open Template (State Value Rule)

/-! ## Firings -/

/-- A rule that has matched a line. -/
structure Firing where
  rule : Rule
  line : Text
  found : Regex.Match

/-- The texts that a firing assigns, each with the position of its value. -/
def Firing.captures (values : List Value) (f : Firing) : List (Nat × Text) :=
  f.rule.bindings.filterMap fun i =>
    (values[i]?.bind fun v => f.rule.regex.capture? f.line f.found v.name).map (i, ·)

/-- Carries out a firing: it assigns what it captures, and then does its record operation. -/
def Run.fire (values : List Value) (r : Run) (f : Firing) : Run :=
  ((f.captures values).foldl (fun r c => r.assign values c.1 c.2) r).act values f.rule.action.record

/-- Binding assigns the captures of the firing. -/
theorem Run.bind_eq (values : List Value) (rule : Rule) (line : Text) (m : Regex.Match) (r : Run) :
    r.bind values rule line m =
      ((Firing.mk rule line m).captures values).foldl (fun r c => r.assign values c.1 c.2) r := by
  unfold Run.bind Firing.captures
  rw [List.foldl_filterMap]
  congr 1
  funext r i
  cases values[i]?.bind fun v => rule.regex.capture? line m v.name <;> rfl

/-! ## Courses -/

/-- The firings of a run in order, and where they lead. -/
structure Course where
  firings : List Firing
  position : Position

namespace Course

/-- The course with a firing in front. -/
def cons (f : Firing) (c : Course) : Course := { c with firings := f :: c.firings }

/-- The course with firings in front. -/
def prepend (fs : List Firing) (c : Course) : Course := { c with firings := fs ++ c.firings }

/-- The course through line `number` in the state `s`, by some of the rules of the state. -/
def ofRules (t : Template) (s : State) (number : Nat) (line : Text) : List Rule → Except Failure Course
  | [] => .ok ⟨[], .running s⟩
  | rule :: rules =>
    match rule.regex.search line with
    | .error () => .error (.exhausted rule.line number)
    | .ok none => ofRules t s number line rules
    | .ok (some m) =>
      match rule.action.line with
      | .continue_ => (ofRules t s number line rules).map (cons ⟨rule, line, m⟩)
      | .error message => .error (.rejected s.name rule.line number line message)
      | .next =>
        match rule.action.target with
        | none => .ok ⟨[⟨rule, line, m⟩], .running s⟩
        | some name => (Run.goTo t name).map fun position => ⟨[⟨rule, line, m⟩], position⟩

/-- The course through line `number`. -/
def ofLine (t : Template) (number : Nat) (line : Text) : Position → Except Failure Course
  | .running s => ofRules t s number line s.rules
  | position => .ok ⟨[], position⟩

/-- The course through lines, the first of which has a number. -/
def ofLines (t : Template) (number : Nat) (position : Position) : List Text → Except Failure Course
  | [] => .ok ⟨[], position⟩
  | l :: ls =>
    (ofLine t number l position).bind fun c =>
      (ofLines t (number + 1) c.position ls).map (prepend c.firings)

/-- The course of a run over device output. -/
def ofText (t : Template) (text : Text) : Except Failure Course :=
  match t.state? Template.startState with
  | some s => ofLines t 1 (.running s) (text.inputLines ++ [[]])
  | none => .error .noStart

end Course

/-! ## Carrying out a course -/

namespace Run

/-- The run moved to another place. -/
def moveTo (position : Position) (r : Run) : Run := { r with position }

/-- Carries out a course. -/
def follow (values : List Value) (r : Run) (c : Course) : Run :=
  (c.firings.foldl (fire values) r).moveTo c.position

section
variable (values : List Value)

theorem act_moveTo (r : Run) (p : Position) (op : Template.RecordOp) :
    (r.moveTo p).act values op = (r.act values op).moveTo p := by
  cases op with
  | record =>
    change (r.moveTo p).emit values = (r.emit values).moveTo p
    unfold emit
    rw [show (r.moveTo p).lacksRequired values = r.lacksRequired values from rfl,
      show (r.moveTo p).slots = r.slots from rfl]
    cases r.lacksRequired values <;> cases r.slots.all Slot.isUnset <;> rfl
  | _ => rfl

/-- What a firing does to slots and rows does not depend on where the run is. -/
theorem fire_moveTo (r : Run) (p : Position) (f : Firing) :
    (r.moveTo p).fire values f = (r.fire values f).moveTo p := by
  have h : ∀ (cs : List (Nat × Text)) (r : Run),
      cs.foldl (fun r c => r.assign values c.1 c.2) (r.moveTo p) =
        (cs.foldl (fun r c => r.assign values c.1 c.2) r).moveTo p := by
    intro cs
    induction cs with
    | nil => intro r; rfl
    | cons c cs ih => intro r; exact ih (r.assign values c.1 c.2)
  rw [fire, h, act_moveTo]; rfl

theorem foldl_fire_moveTo (p : Position) : ∀ (fs : List Firing) (r : Run),
    fs.foldl (fire values) (r.moveTo p) = (fs.foldl (fire values) r).moveTo p
  | [], _ => rfl
  | f :: fs, r => by
    rw [List.foldl_cons, List.foldl_cons, fire_moveTo, foldl_fire_moveTo p fs]

theorem fire_position (r : Run) (f : Firing) : (r.fire values f).position = r.position := by
  have h := fire_moveTo values r r.position f
  rw [show r.moveTo r.position = r from rfl] at h
  rw [h]; rfl

theorem follow_prepend (r : Run) (c d : Course) :
    r.follow values (d.prepend c.firings) = (r.follow values c).follow values d := by
  simp only [follow, Course.prepend, List.foldl_append, foldl_fire_moveTo]
  rfl

/-- A run that does nothing and stays where it is follows the empty course. -/
theorem follow_nil {r : Run} {p : Position} (h : r.position = p) : r.follow values ⟨[], p⟩ = r := by
  subst h; rfl

end

theorem tryRules_eq (t : Template) (s : State) (number : Nat) (l : Text) :
    ∀ (rules : List Rule) (r : Run), r.position = .running s →
      tryRules t s number l r rules = (Course.ofRules t s number l rules).map (r.follow t.values)
  | [], r, h => by
    simp only [tryRules, Course.ofRules, Except.map, follow_nil t.values h]
  | rule :: rules, r, h => by
    simp only [tryRules, Course.ofRules]
    rcases rule.regex.search l with _ | _ | m
    · rfl
    · exact tryRules_eq t s number l rules r h
    · have hf : (r.bind t.values rule l m).act t.values rule.action.record =
          r.fire t.values ⟨rule, l, m⟩ := by
        rw [bind_eq, fire]
      have hp := (fire_position t.values r ⟨rule, l, m⟩).trans h
      simp only [hf]
      cases rule.action.line with
      | continue_ =>
        simp only [tryRules_eq t s number l rules _ hp]
        cases Course.ofRules t s number l rules <;> rfl
      | error message => rfl
      | next =>
        cases rule.action.target with
        | none => exact congrArg Except.ok (follow_nil t.values hp).symm
        | some name => simp only; cases goTo t name <;> rfl

theorem line_eq (t : Template) (number : Nat) (l : Text) (r : Run) :
    r.line t number l = (Course.ofLine t number l r.position).map (r.follow t.values) := by
  unfold line Course.ofLine
  rcases h : r.position with s | _ | _
  · exact tryRules_eq t s number l s.rules r h
  · simp only [Except.map, follow_nil t.values h]
  · simp only [Except.map, follow_nil t.values h]

theorem lines_eq (t : Template) : ∀ (ls : List Text) (number : Nat) (r : Run),
    lines t number r ls = (Course.ofLines t number r.position ls).map (r.follow t.values)
  | [], number, r => by simp only [lines, Course.ofLines, Except.map, follow_nil t.values rfl]
  | l :: ls, number, r => by
    simp only [lines, Course.ofLines, line_eq]
    rcases Course.ofLine t number l r.position with e | c
    · rfl
    · have ih := lines_eq t ls (number + 1) (r.follow t.values c)
      simp only [Except.map, Except.bind] at ih ⊢
      rw [ih, show (r.follow t.values c).position = c.position from rfl]
      cases Course.ofLines t (number + 1) c.position ls with
      | error e => rfl
      | ok d => simp only [follow_prepend]

/-- A course may be followed from anywhere. -/
theorem follow_moveTo (values : List Value) (r : Run) (p : Position) (c : Course) :
    (r.moveTo p).follow values c = r.follow values c := by
  simp only [follow, foldl_fire_moveTo]; rfl

end Run

/-- The run that follows a course from its start. -/
def Course.run (t : Template) (c : Course) : Run :=
  Run.follow t.values { position := c.position, slots := t.values.map Slot.fresh } c

/-- **A run carries out the firings of its course.** -/
theorem extract_eq (t : Template) (text : Text) :
    extract t text = (Course.ofText t text).map fun c => ((c.run t).close t).outcome t := by
  unfold extract Run.start Course.ofText
  rcases t.state? Template.startState with _ | s
  · rfl
  · have h := Run.lines_eq t (text.inputLines ++ [[]]) 1
      { position := .running s, slots := t.values.map Slot.fresh }
    simp only [bind, Except.bind, h]
    rcases Course.ofLines t 1 (.running s) (text.inputLines ++ [[]]) with e | c
    · rfl
    · simp only [Except.map, pure, Except.pure]
      rw [← Run.follow_moveTo t.values _ c.position]
      rfl

end Readout.Extraction
