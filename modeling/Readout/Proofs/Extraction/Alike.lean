/-
  Courses of templates that are alike.

  * `Course.core`, `Failure.unruled`: courses and failures without numbers of lines and positions of values;
  * `stripped`: a result without them;
  * `Course.ofText_core`: the rules fire in the same order, with either template.
-/
import Readout.Proofs.Extraction.Course
import Readout.Proofs.Template.Arrangement

namespace Readout.Extraction

open Template (State Rule)

/-- The failure without the line of its rule. -/
def Failure.unruled : Failure → Failure
  | rejected state _ number line message => rejected state 0 number line message
  | exhausted _ number => exhausted 0 number
  | noStart => noStart
  | undeclaredState name => undeclaredState name

/-- A result without what depends on the order of values, or a failure without the line of its rule. -/
def stripped {α : Type} (f : α → α) (x : Except Failure α) : Except Failure α := (x.map f).mapError Failure.unruled

section
variable {α β : Type} {f : α → α} {g : β → β} {x y : Except Failure α}

theorem stripped_bind (h : stripped f x = stripped f y) {k l : α → Except Failure β}
    (hkl : ∀ a b, f a = f b → stripped g (k a) = stripped g (l b)) :
    stripped g (x.bind k) = stripped g (y.bind l) := by
  rcases x with e | a <;> rcases y with e' | b
  · simpa [stripped, Except.map, Except.mapError, Except.bind] using h
  · simp [stripped, Except.map, Except.mapError] at h
  · simp [stripped, Except.map, Except.mapError] at h
  · exact hkl a b (by simpa [stripped, Except.map, Except.mapError] using h)

theorem stripped_map (h : stripped f x = stripped f y) {k l : α → β} (hkl : ∀ a b, f a = f b → g (k a) = g (l b)) :
    stripped g (x.map k) = stripped g (y.map l) := by
  have hmap : ∀ (z : Except Failure α) (m : α → β), z.map m = z.bind fun a => .ok (m a) := by
    rintro (e | a) m <;> rfl
  rw [hmap, hmap]
  refine stripped_bind h fun a b hab => ?_
  rw [stripped, stripped, Except.map, Except.map, hkl a b hab]

end

/-- The firing without the line of its rule and the positions of values. -/
def Firing.core (f : Firing) : Firing := { f with rule := f.rule.core }

/-- The position without the lines of its rules and the positions of values. -/
def Position.core : Position → Position
  | running s => running s.core
  | ended => ended
  | atEof => atEof

namespace Course

/-- The course without the lines of rules and the positions of values. -/
def core (c : Course) : Course := ⟨c.firings.map Firing.core, c.position.core⟩

variable {t t' : Template} (h : ∀ name, (t.state? name).map State.core = (t'.state? name).map State.core)
include h

theorem goTo_core (name : Text) :
    stripped Position.core (Run.goTo t name) = stripped Position.core (Run.goTo t' name) := by
  have hname := h name
  unfold Run.goTo
  split
  · rfl
  · split
    · rfl
    · revert hname
      rcases t.state? name with _ | s <;> rcases t'.state? name with _ | s' <;> intro hname
      · rfl
      · cases hname
      · cases hname
      · rw [Option.map_some, Option.map_some, Option.some.injEq] at hname
        simp only [stripped, Except.map, Except.mapError, Position.core, hname]

theorem ofRules_core {s s' : State} (hs : s.core = s'.core) (n : Nat) (l : Text) {rules : List Rule} :
    ∀ {rules' : List Rule}, rules.map Rule.core = rules'.map Rule.core →
      stripped core (ofRules t s n l rules) = stripped core (ofRules t' s' n l rules') := by
  have hname : s.name = s'.name := (congrArg State.name hs :)
  induction rules with
  | nil =>
    intro rules' hrules
    obtain rfl := List.map_eq_nil_iff.1 hrules.symm
    simp only [ofRules, stripped, Except.map, Except.mapError, core, Position.core, hs]
  | cons rule rules ih =>
    intro rules' hrules
    obtain ⟨rule', rules', rfl, hrule, hrules⟩ := List.map_eq_cons_iff.1 hrules.symm
    have hregex : rule'.regex = rule.regex := (congrArg Rule.regex hrule :)
    have haction : rule'.action = rule.action := (congrArg Rule.action hrule :)
    have hfiring : ∀ m, (Firing.mk rule l m).core = (Firing.mk rule' l m).core := by
      intro m
      simp only [Firing.core, hrule]
    have hrest := ih hrules.symm
    simp only [ofRules, hregex, haction]
    rcases rule.regex.search l with _ | _ | m
    · rfl
    · exact hrest
    · rcases rule.action.line with _ | _ | message
      · rcases rule.action.target with _ | name
        · simp [stripped, Except.map, Except.mapError, core, Position.core, hs, hfiring]
        · have hgo := goTo_core h name
          refine stripped_map hgo fun p p' hp => ?_
          simp [core, hp, hfiring]
      · refine stripped_map hrest fun c c' hc => ?_
        obtain ⟨hfirings, hposition⟩ := Course.mk.inj hc
        simp [core, cons, hfirings, hposition, hfiring]
      · simp [stripped, Except.map, Except.mapError, Failure.unruled, hname]

theorem ofLine_core (n : Nat) (l : Text) {p p' : Position} (hp : p.core = p'.core) :
    stripped core (ofLine t n l p) = stripped core (ofLine t' n l p') := by
  cases p with
  | running s =>
    cases p' with
    | running s' =>
      have hs : s.core = s'.core := Position.running.inj hp
      exact ofRules_core h hs n l (congrArg State.rules hs)
    | ended => cases hp
    | atEof => cases hp
  | ended =>
    cases p' with
    | running s' => cases hp
    | ended => rfl
    | atEof => cases hp
  | atEof =>
    cases p' with
    | running s' => cases hp
    | ended => cases hp
    | atEof => rfl

theorem ofLines_core (ls : List Text) : ∀ (n : Nat) {p p' : Position}, p.core = p'.core →
    stripped core (ofLines t n p ls) = stripped core (ofLines t' n p' ls) := by
  induction ls with
  | nil =>
    intro n p p' hp
    simp only [ofLines, stripped, Except.map, Except.mapError, core, hp]
  | cons l ls ih =>
    intro n p p' hp
    refine stripped_bind (ofLine_core h n l hp) fun c c' hc => ?_
    obtain ⟨hfirings, hposition⟩ := Course.mk.inj hc
    refine stripped_map (ih (n + 1) hposition) fun d d' hd => ?_
    obtain ⟨hfirings', hposition'⟩ := Course.mk.inj hd
    simp [core, prepend, hfirings, hfirings', hposition']

/-- **The rules fire in the same order.** -/
theorem ofText_core (text : Text) : stripped core (ofText t text) = stripped core (ofText t' text) := by
  have hstart := h Template.startState
  unfold ofText
  revert hstart
  rcases t.state? Template.startState with _ | s <;> rcases t'.state? Template.startState with _ | s' <;> intro hstart
  · rfl
  · cases hstart
  · cases hstart
  · exact ofLines_core h _ 1 (congrArg Position.running (Option.some.inj hstart))

end Course

end Readout.Extraction
