/-
  Templates that are accepted.  A template is read line by line, and each line does one of a few things to
  what has been read; what a template can rely on follows from that.

  * `Rule.Written` says how a rule comes from its line;
  * `Reading.Step` lists what a line can do, `step_of_readLine`: there is nothing else;
  * `Accepted` is what a run relies on: there is a state to start from, a rule leads to a state that is there,
    and all rules come from lines, with the declared values;
  * `accepted_of_parse`: a template that is accepted is one to rely on.
-/
import Readout.Template.Basic

namespace Readout.Template

/-- A computation that comes to a result did so in its first part. -/
theorem exists_of_bind {ε α β : Type} {x : Except ε α} {f : α → Except ε β} {b : β}
    (h : x.bind f = .ok b) : ∃ a, x = .ok a ∧ f a = .ok b := by
  rcases x with e | a
  · cases h
  · exact ⟨a, rfl, h⟩

/-- A result that has been made of another one. -/
theorem exists_of_map {ε α β : Type} {x : Except ε α} {f : α → β} {b : β} (h : x.map f = .ok b) :
    ∃ a, x = .ok a ∧ f a = b := by
  rcases x with e | a
  · cases h
  · exact ⟨a, rfl, Except.ok.inj h⟩

/-! ## Rules -/

/-- Is it the rule written in line `n` of a template that declares `values`? -/
structure Rule.Written (values : List Value) (n : Nat) (line : Text) (r : Rule) : Prop where
  parts : (∃ action, Rule.splitArrow? line.trim = some (r.source, action) ∧
      Action.parse action = .ok r.action) ∨
    Rule.splitArrow? line.trim = none ∧ r.source = line.trim ∧ r.action = {}
  expanded : substitute values r.source = .ok r.expanded
  regex : Regex.LinePattern.parse? r.expanded = some r.regex
  bindings : r.bindings = Rule.bindingsOf values r.regex
  line : r.line = n

/-- Behind the parts of the line, the references are replaced and the pattern is compiled. -/
theorem Rule.written_of_parts {values : List Value} {n : Nat} {line source : Text} {action : Action} {r : Rule}
    (hparts : (∃ text, Rule.splitArrow? line.trim = some (source, text) ∧ Action.parse text = .ok action) ∨
      Rule.splitArrow? line.trim = none ∧ source = line.trim ∧ action = {})
    (h : (match substitute values source with
      | .error e => .error (.substitution e)
      | .ok expanded =>
        match Regex.LinePattern.parse? expanded with
        | none => .error (.pattern expanded)
        | some regex =>
          .ok { source, expanded, regex, action, bindings := Rule.bindingsOf values regex, line := n } :
        Except Rule.Fault Rule) = .ok r) : r.Written values n line := by
  split at h
  · cases h
  · rename_i expanded he
    split at h
    · cases h
    · rename_i regex hr
      cases h
      exact ⟨hparts, he, hr, rfl, rfl⟩

theorem Rule.written_of_parse {values : List Value} {n : Nat} {line : Text} {r : Rule}
    (h : Rule.parse values n line = .ok r) : r.Written values n line := by
  simp only [Rule.parse, bind, Except.bind] at h
  split at h
  · rename_i source text hsplit
    split at h
    · rename_i action haction
      exact written_of_parts (.inl ⟨text, hsplit, haction⟩) h
    · cases h
  · rename_i hsplit
    exact written_of_parts (.inr ⟨hsplit, rfl, rfl⟩) h

/-- A rule captures values that are declared. -/
theorem Rule.Written.lt_of_mem_bindings {values : List Value} {n : Nat} {line : Text} {r : Rule}
    (hr : r.Written values n line) {i : Nat} (hi : i ∈ r.bindings) : i < values.length := by
  rw [hr.bindings, Rule.bindingsOf, List.mem_filter] at hi
  exact List.mem_range.1 hi.1

/-! ## Lines -/

namespace Reading

/-- What line `n` does to what has been read. -/
inductive Step (r : Reading) (n : Nat) (line : Text) : Reading → Prop where
  /-- a comment, or a blank line in front of a state -/
  | skip : isComment line ∨ line = [] ∧ r.part = .between → Step r n line r
  | value {v : Value} : r.part = .values → Value.parse line = .ok v → (∀ w ∈ r.values, w.name ≠ v.name) →
    Step r n line { r with values := r.values ++ [v] }
  | endValues : r.part = .values → line = [] → r.values ≠ [] → Step r n line { r with part := .between }
  | header : r.part = .between → isStateName line → Step r n line { r with part := .rules n line [] }
  | rule {start : Nat} {name : Text} {rules : List Rule} {rule : Rule} :
    r.part = .rules start name rules → startsRule line → Rule.parse r.values n line = .ok rule →
    Step r n line { r with part := .rules start name (rules ++ [rule]) }
  | endState {start : Nat} {name : Text} {rules : List Rule} : r.part = .rules start name rules → line = [] →
    (∀ s ∈ r.states, s.name ≠ name) →
    Step r n line { r with states := r.states ++ [⟨name, rules⟩], part := .between }

variable {r r' : Reading} {n : Nat} {line : Text}

theorem step_of_readValue (hp : r.part = .values) (h : r.readValue n line = .ok r') : r.Step n line r' := by
  unfold readValue at h
  split at h
  · rename_i hline
    split at h
    · cases h
    · rename_i hvalues
      cases h
      exact .endValues hp (List.isEmpty_iff.1 hline) fun hnil => hvalues (List.isEmpty_iff.2 hnil)
  · split at h
    · rename_i hcomment
      cases h
      exact .skip (.inl hcomment)
    · split at h
      · split at h
        · cases h
        · rename_i v hv
          split at h
          · cases h
          · rename_i hnew
            cases h
            exact .value hp hv (by simpa using hnew)
      · split at h <;> cases h

theorem step_of_readHeader (hp : r.part = .between) (h : r.readHeader n line = .ok r') :
    r.Step n line r' := by
  unfold readHeader at h
  split at h
  · rename_i hskip
    cases h
    rcases Bool.or_eq_true_iff.1 hskip with hline | hcomment
    · exact .skip (.inr ⟨List.isEmpty_iff.1 hline, hp⟩)
    · exact .skip (.inl hcomment)
  · split at h
    · rename_i hname
      cases h
      exact .header hp hname
    · cases h

/-- A state that is added has a new name. -/
theorem eq_of_addState {name : Text} {rules : List Rule} (h : r.addState n name rules = .ok r') :
    (∀ s ∈ r.states, s.name ≠ name) ∧
      r' = { r with states := r.states ++ [⟨name, rules⟩], part := .between } := by
  unfold addState at h
  split at h
  · cases h
  · rename_i hnew
    cases h
    exact ⟨by simpa using hnew, rfl⟩

theorem step_of_readRule {start : Nat} {name : Text} {rules : List Rule}
    (hp : r.part = .rules start name rules) (h : r.readRule start name rules n line = .ok r') :
    r.Step n line r' := by
  unfold readRule at h
  split at h
  · rename_i hline
    obtain ⟨hnew, rfl⟩ := eq_of_addState h
    exact .endState hp (List.isEmpty_iff.1 hline) hnew
  · split at h
    · rename_i hcomment
      cases h
      exact .skip (.inl hcomment)
    · split at h
      · rename_i hstart
        split at h
        · cases h
        · rename_i rule hrule
          cases h
          exact .rule hp hstart hrule
      · cases h

/-- **A line that is read makes a step.** -/
theorem step_of_readLine (h : r.readLine (n, line) = .ok r') :
    ∃ q, r.Step n line q ∧ r' = { q with last := n } := by
  unfold readLine at h
  rcases hp : r.part with _ | _ | ⟨start, name, rules⟩ <;> rw [hp] at h
  · obtain ⟨q, hq, ⟨⟩⟩ := exists_of_bind h
    exact ⟨q, step_of_readValue hp hq, rfl⟩
  · obtain ⟨q, hq, ⟨⟩⟩ := exists_of_bind h
    exact ⟨q, step_of_readHeader hp hq, rfl⟩
  · obtain ⟨q, hq, ⟨⟩⟩ := exists_of_bind h
    exact ⟨q, step_of_readRule hp hq, rfl⟩

/-! ## What has been read -/

/-- Is it a rule from a line that starts as a rule, with the values that `r` has? -/
def Holds (r : Reading) (rule : Rule) : Prop := ∃ n line, startsRule line ∧ rule.Written r.values n line

/-- Does every rule come from its line?  The values are complete when the first rule is read. -/
structure Sound (r : Reading) : Prop where
  values : r.part = .values → r.states = []
  states : ∀ s ∈ r.states, ∀ rule ∈ s.rules, r.Holds rule
  rules : ∀ n name rules, r.part = .rules n name rules → ∀ rule ∈ rules, r.Holds rule

theorem sound_empty : ({} : Reading).Sound where
  values _ := rfl
  states _ hs := absurd hs List.not_mem_nil
  rules _ _ _ hp := Section.noConfusion hp

theorem Sound.step (hr : r.Sound) (h : r.Step n line r') : r'.Sound := by
  cases h with
  | skip => exact hr
  | @value v hp hv hnew =>
    -- the values change, but no rule that refers to them has been read
    have hnone := hr.values hp
    refine ⟨fun _ => hnone, fun s hs => ?_, fun n name rules hrules => ?_⟩
    · rw [show (_ : Reading).states = r.states from rfl, hnone] at hs; cases hs
    · rw [show (_ : Reading).part = r.part from rfl, hp] at hrules; cases hrules
  | endValues => exact ⟨nofun, hr.states, nofun⟩
  | header => exact ⟨nofun, hr.states, by rintro _ _ _ ⟨⟩; exact nofun⟩
  | @rule start name rules rule hp hstart hrule =>
    refine ⟨nofun, hr.states, ?_⟩
    rintro _ _ _ ⟨⟩
    rw [List.forall_mem_append, List.forall_mem_singleton]
    exact ⟨hr.rules start name rules hp, n, line, hstart, Rule.written_of_parse hrule⟩
  | @endState start name rules hp _ _ =>
    refine ⟨nofun, ?_, nofun⟩
    rw [List.forall_mem_append, List.forall_mem_singleton]
    exact ⟨hr.states, hr.rules start name rules hp⟩

theorem sound_of_foldlM : ∀ {ls : List (Nat × Text)} {r r' : Reading}, r.Sound →
    ls.foldlM readLine r = .ok r' → r'.Sound
  | [], _, _, hr, h => by cases h; exact hr
  | (n, line) :: ls, r, r', hr, h => by
    rw [List.foldlM_cons] at h
    obtain ⟨q, hq, h⟩ := exists_of_bind h
    obtain ⟨p, hstep, rfl⟩ := step_of_readLine hq
    have hp := hr.step hstep
    exact sound_of_foldlM (r := { p with last := n }) ⟨hp.values, hp.states, hp.rules⟩ h

end Reading

/-! ## Checks -/

theorem reaches_of_dangling? {t : Template} (h : t.dangling? = none) {s : State} (hs : s ∈ t.states)
    {rule : Rule} (hrule : rule ∈ s.rules) {name : Text} (hname : rule.action.target = some name) :
    t.reaches name := by
  unfold dangling? at h
  have hnone := List.findSome?_eq_none_iff.1 (List.findSome?_eq_none_iff.1 h s hs) rule hrule
  rw [hname] at hnone
  rcases hreach : t.reaches name with _ | _
  · simp [hreach] at hnone
  · rfl

/-- What a run relies on. -/
structure Accepted (t : Template) : Prop where
  start : t.hasState startState
  targets : ∀ s ∈ t.states, ∀ rule ∈ s.rules, ∀ name, rule.action.target = some name → t.reaches name
  rules : ∀ s ∈ t.states, ∀ rule ∈ s.rules, ∃ n line, startsRule line ∧ rule.Written t.values n line

theorem Reading.Sound.finish {r : Reading} (hr : r.Sound) {t : Template} (h : r.finish = .ok t) :
    ∀ s ∈ t.states, ∀ rule ∈ s.rules, ∃ n line, startsRule line ∧ rule.Written t.values n line := by
  unfold Reading.finish at h
  split at h
  · split at h
    · cases h
    · cases h; exact hr.states
  · cases h; exact hr.states
  · rename_i start name rules hp
    rcases hadd : r.addState start name rules with e | q
    · rw [hadd] at h; cases h
    · obtain ⟨-, rfl⟩ := Reading.eq_of_addState hadd
      rw [hadd] at h; cases h
      rw [List.forall_mem_append, List.forall_mem_singleton]
      exact ⟨hr.states, hr.rules start name rules hp⟩

theorem accepted_of_check {t q : Template} (h : q.check = .ok t)
    (hrules : ∀ s ∈ q.states, ∀ rule ∈ s.rules, ∃ n line, startsRule line ∧ rule.Written q.values n line) :
    Accepted t := by
  unfold check at h
  split at h
  · cases h
  · rename_i hstart
    split at h
    · cases h
    · split at h
      · cases h
      · split at h
        · cases h
        · rename_i hdangling
          cases h
          exact ⟨by simpa using hstart, fun s hs rule hrule name =>
            reaches_of_dangling? hdangling hs hrule, hrules⟩

/-- **A template that is accepted is one to rely on.** -/
theorem accepted_of_parse {source : Text} {t : Template} (h : parse source = .ok t) : Accepted t := by
  unfold parse at h
  obtain ⟨q, hq, hcheck⟩ := exists_of_bind h
  obtain ⟨r, hread, hfinish⟩ := exists_of_bind hq
  have hr : r.Sound := Reading.sound_of_foldlM Reading.sound_empty hread
  exact accepted_of_check hcheck (hr.finish hfinish)

/-- What holds of a template that is accepted, from its source. -/
theorem exists_parse {source : Text} {α : Type} {f : Template → α} {a : α}
    (h : (parse source).toOption.map f = some a) : ∃ t, parse source = .ok t ∧ f t = a := by
  rcases hp : parse source with e | t
  · rw [hp] at h; cases h
  · rw [hp] at h; exact ⟨t, rfl, Option.some.inj h⟩

/-- What holds of a rule of a template that is accepted, from its source. -/
theorem exists_rule (source : Text) {p : Template → Rule → Prop} [∀ t r, Decidable (p t r)]
    (h : (parse source).toOption.any fun t => (t.states.flatMap (·.rules)).any fun r => p t r) :
    ∃ t s rule, parse source = .ok t ∧ s ∈ t.states ∧ rule ∈ s.rules ∧ p t rule := by
  rcases hp : parse source with e | t
  · rw [hp] at h; cases h
  · rw [hp] at h
    obtain ⟨rule, hrule, hholds⟩ := List.any_eq_true.1 h
    obtain ⟨s, hs, hrule⟩ := List.mem_flatMap.1 hrule
    exact ⟨t, s, rule, rfl, hs, hrule, of_decide_eq_true hholds⟩

end Readout.Template
