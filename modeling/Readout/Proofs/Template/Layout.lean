/-
  The layout of templates.  Comments and white space at the ends of lines count for nothing but the numbers of lines.

  * `Template.unnumbered`, `Fault.unnumbered`, `unnumber`: a template, a fault and a result without the numbers;
  * `Reading.readLine_unnumbered`: without numbers, a line is read as it is without a number;
  * `Reading.foldlM_filter_comments`: comments may be left out;
  * `readLines`, `parseLines`: the lines that count, and how they are read without numbers;
  * `unnumber_parse`: a source is read as the lines that count are, but for the numbers.
-/
import Readout.Proofs.Template.Validity
import Readout.Proofs.Text.Lines

namespace Readout.Template

/-! ## Without numbers -/

/-- The rule without the number of its line. -/
def Rule.unnumbered (r : Rule) : Rule := { r with line := 0 }

/-- The state without the numbers of its lines. -/
def State.unnumbered (s : State) : State := { s with rules := s.rules.map Rule.unnumbered }

/-- The template without the numbers of its lines. -/
def unnumbered (t : Template) : Template := { t with states := t.states.map State.unnumbered }

/-- The fault without the number of its line. -/
def Fault.unnumbered : Fault → Fault
  | invalidValue _ fault => invalidValue 0 fault
  | noValues _ => noValues 0
  | noBlankLine _ => noBlankLine 0
  | invalidStateName _ name => invalidStateName 0 name
  | duplicateState _ name => duplicateState 0 name
  | invalidRule _ state fault => invalidRule 0 state fault
  | missingStart => missingStart
  | nonEmptyTerminal name => nonEmptyTerminal name
  | undefinedState _ state target => undefinedState 0 state target

/-- The part that is being read, without the numbers of its lines. -/
def Section.unnumbered : Section → Section
  | values => values
  | between => between
  | rules _ name rs => rules 0 name (rs.map Rule.unnumbered)

/-- What has been read, without the numbers of the lines. -/
def Reading.unnumbered (r : Reading) : Reading := ⟨r.values, r.states.map State.unnumbered, r.part.unnumbered, 0⟩

/-- A result or a fault, without the numbers of lines. -/
def unnumber {α : Type} (f : α → α) (x : Except Fault α) : Except Fault α := (x.map f).mapError Fault.unnumbered

theorem unnumber_bind {α β : Type} {f : α → α} {g : β → β} {k k' : α → Except Fault β}
    (h : ∀ a, unnumber g (k a) = k' (f a)) (x : Except Fault α) :
    unnumber g (x.bind k) = (unnumber f x).bind k' := by
  rcases x with e | a
  · rfl
  · exact h a

theorem unnumber_ite {α : Type} (f : α → α) (c : Prop) [Decidable c] (x y : Except Fault α) :
    unnumber f (if c then x else y) = if c then unnumber f x else unnumber f y := apply_ite ..

/-! ## Reading -/

/-- Only the number of a rule depends on the number of its line. -/
theorem Rule.parse_unnumbered (values : List Value) (n : Nat) (line : Text) :
    (Rule.parse values n line).map Rule.unnumbered = Rule.parse values 0 line := by
  simp only [Rule.parse, bind, Except.bind]
  split
  · split
    · cases substitute values _ with
      | error => rfl
      | ok expanded => simp only; cases Regex.LinePattern.parse? expanded <;> rfl
    · rfl
  · cases substitute values _ with
    | error => rfl
    | ok expanded => simp only; cases Regex.LinePattern.parse? expanded <;> rfl

namespace Reading

variable (r : Reading) (n : Nat) (line : Text)

theorem readValue_unnumbered : unnumber unnumbered (r.readValue n line) = r.unnumbered.readValue 0 line := by
  unfold readValue
  cases Value.parse line <;> simp only [unnumber_ite] <;> rfl

theorem readHeader_unnumbered : unnumber unnumbered (r.readHeader n line) = r.unnumbered.readHeader 0 line := by
  unfold readHeader
  simp only [unnumber_ite]
  rfl

theorem addState_unnumbered (name : Text) (rules : List Rule) :
    unnumber unnumbered (r.addState n name rules) = r.unnumbered.addState 0 name (rules.map Rule.unnumbered) := by
  have hany : r.unnumbered.states.any (·.name == name) = r.states.any (·.name == name) := by
    simp only [unnumbered, List.any_map]
    rfl
  have hadd : (r.states ++ [(⟨name, rules⟩ : State)]).map State.unnumbered =
      r.unnumbered.states ++ [⟨name, rules.map Rule.unnumbered⟩] := List.map_append
  unfold addState
  rw [hany, unnumber_ite, ← hadd]
  rfl

theorem readRule_unnumbered (start : Nat) (name : Text) (rules : List Rule) :
    unnumber unnumbered (r.readRule start name rules n line) =
      r.unnumbered.readRule 0 name (rules.map Rule.unnumbered) 0 line := by
  have hadd : ∀ rule : Rule, (rules ++ [rule]).map Rule.unnumbered = rules.map Rule.unnumbered ++ [rule.unnumbered] :=
    fun rule => List.map_append
  unfold readRule
  rw [show r.unnumbered.values = r.values from rfl, ← Rule.parse_unnumbered r.values n line]
  simp only [unnumber_ite, addState_unnumbered]
  rcases Rule.parse r.values n line with e | rule
  · rfl
  · simp only [Except.map, ← hadd]
    rfl

/-- **Without numbers, a line is read as it is without a number.** -/
theorem readLine_unnumbered : unnumber unnumbered (r.readLine (n, line)) = r.unnumbered.readLine (0, line) := by
  have hlast : ∀ x : Except Fault Reading, unnumber unnumbered (x.bind fun q => .ok { q with last := n }) =
      (unnumber unnumbered x).bind fun q => .ok { q with last := 0 } := unnumber_bind fun q => rfl
  unfold readLine
  rcases hp : r.part with _ | _ | ⟨start, name, rules⟩
  · have hpart : r.unnumbered.part = .values := by simp only [unnumbered, hp, Section.unnumbered]
    simp only [hpart]
    exact (hlast _).trans (by rw [readValue_unnumbered]; rfl)
  · have hpart : r.unnumbered.part = .between := by simp only [unnumbered, hp, Section.unnumbered]
    simp only [hpart]
    exact (hlast _).trans (by rw [readHeader_unnumbered]; rfl)
  · have hpart : r.unnumbered.part = .rules 0 name (rules.map Rule.unnumbered) := by
      simp only [unnumbered, hp, Section.unnumbered]
    simp only [hpart]
    exact (hlast _).trans (by rw [readRule_unnumbered]; rfl)

theorem finish_unnumbered : unnumber Template.unnumbered r.finish = r.unnumbered.finish := by
  unfold finish
  rcases hp : r.part with _ | _ | ⟨start, name, rules⟩
  · have hpart : r.unnumbered.part = .values := by simp only [unnumbered, hp, Section.unnumbered]
    simp only [hpart, show r.unnumbered.values = r.values from rfl]
    split <;> rfl
  · have hpart : r.unnumbered.part = .between := by simp only [unnumbered, hp, Section.unnumbered]
    simp only [hpart]
    rfl
  · have hpart : r.unnumbered.part = .rules 0 name (rules.map Rule.unnumbered) := by
      simp only [unnumbered, hp, Section.unnumbered]
    simp only [hpart, ← addState_unnumbered r start name rules]
    cases r.addState start name rules <;> rfl

/-- Reads a line without a number. -/
def read (r : Reading) (line : Text) : Except Fault Reading := r.readLine (0, line)

theorem foldlM_unnumbered (ls : List (Nat × Text)) : ∀ r : Reading,
    unnumber unnumbered (ls.foldlM readLine r) = (ls.map (·.2)).foldlM read r.unnumbered := by
  induction ls with
  | nil => intro r; rfl
  | cons l ls ih =>
    intro r
    rw [List.foldlM_cons, List.map_cons, List.foldlM_cons]
    exact (unnumber_bind ih _).trans (by rw [readLine_unnumbered]; rfl)

/-- Nothing comes of a comment. -/
theorem read_of_isComment {r : Reading} (hr : r.last = 0) {line : Text} (h : isComment line) : r.read line = .ok r := by
  have hne : line.isEmpty = false := by
    cases line with
    | nil => cases h
    | cons => rfl
  unfold read readLine
  obtain ⟨values, states, part, last⟩ := r
  cases hr
  cases part <;> simp [readValue, readHeader, readRule, hne, h, bind, Except.bind, pure, Except.pure]

theorem last_of_read {r q : Reading} {line : Text} (h : r.read line = .ok q) : q.last = 0 := by
  obtain ⟨p, -, rfl⟩ := step_of_readLine (n := 0) h
  rfl

/-- Comments may be left out. -/
theorem foldlM_filter_comments (ls : List Text) : ∀ {r : Reading}, r.last = 0 →
    ls.foldlM read r = (ls.filter fun l => !isComment l).foldlM read r := by
  induction ls with
  | nil => intro r _; rfl
  | cons l ls ih =>
    intro r hr
    rw [List.foldlM_cons]
    by_cases hl : isComment l
    · rw [List.filter_cons_of_neg (by simp [hl]), read_of_isComment hr hl]
      exact ih hr
    · rw [List.filter_cons_of_pos (by simp [hl]), List.foldlM_cons]
      rcases hread : r.read l with e | q
      · rfl
      · exact ih (last_of_read hread)

end Reading

/-! ## Checking -/

section
variable (t : Template)

theorem map_name_unnumbered : t.unnumbered.states.map (·.name) = t.states.map (·.name) := by
  simp only [unnumbered, List.map_map]
  rfl

theorem state?_unnumbered (name : Text) : t.unnumbered.state? name = (t.state? name).map State.unnumbered := by
  unfold state? unnumbered
  rw [List.find?_map]
  rfl

theorem reaches_unnumbered (name : Text) : t.unnumbered.reaches name = t.reaches name := by
  simp only [reaches, hasState, state?_unnumbered, Option.isSome_map]

theorem hasRules_unnumbered (name : Text) : t.unnumbered.hasRules name = t.hasRules name := by
  simp only [hasRules, state?_unnumbered]
  cases t.state? name with
  | none => rfl
  | some s => simp [State.unnumbered]

theorem dangling?_unnumbered : t.unnumbered.dangling? =
    t.dangling?.map fun d => (d.1.unnumbered, d.2.1.unnumbered, d.2.2) := by
  unfold dangling?
  rw [List.map_findSome?, show t.unnumbered.states = t.states.map State.unnumbered from rfl, List.findSome?_map]
  congr 1
  funext s
  simp only [Function.comp, show s.unnumbered.rules = s.rules.map Rule.unnumbered from rfl]
  rw [List.findSome?_map, List.map_findSome?]
  congr 1
  funext r
  simp only [Function.comp, reaches_unnumbered, show r.unnumbered.action = r.action from rfl]
  cases r.action.target with
  | none => rfl
  | some name => simp only; split <;> rfl

theorem check_unnumbered : unnumber unnumbered t.check = t.unnumbered.check := by
  unfold check
  simp only [hasState, state?_unnumbered, Option.isSome_map, hasRules_unnumbered, dangling?_unnumbered]
  cases t.dangling? <;> simp only [unnumber_ite] <;> rfl

end

/-! ## Lines that count -/

/-- The lines of a source that count: comments are left out, and so is white space at the ends of lines. -/
def readLines (source : Text) : List Text := (source.lines.map Text.trimEnd).filter fun l => !isComment l

/-- Reads and checks a template from the lines that count, without numbers. -/
def parseLines (ls : List Text) : Except Fault Template := ((ls.foldlM Reading.read {}).bind Reading.finish).bind check

/-- **But for the numbers, a source is read as its lines are.** -/
theorem unnumber_parse (source : Text) : unnumber unnumbered (parse source) = parseLines (readLines source) := by
  unfold parse parseLines
  rw [unnumber_bind check_unnumbered, unnumber_bind Reading.finish_unnumbered, Reading.foldlM_unnumbered, readLines,
    ← Reading.foldlM_filter_comments _ rfl, ← Text.map_snd_numberedLines, List.map_map, List.map_map]
  rfl

end Readout.Template
