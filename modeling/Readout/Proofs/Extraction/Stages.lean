/-
  The stages of a run.  Lines are taken in one after the other, and what a run makes of a line depends on the lines in
  front of it only through the place that it has come to.

  * `Run.through`: a run behind the first lines of its input, `Course.through`: its firings up to there;
  * `ofText_eq_through`, `extract_eq_through`: a text is its lines, and an empty one at the end;
  * `Course.through_append`: more lines are taken in from where the others have led to;
  * `Course.ofLines_of_stopped`: a run that has stopped looks at no line;
  * `Course.within_through`, `rule_mem_through`: a run is in a state of its template, and its rules are of such states;
  * `Course.through_eq_error_iff`: a run fails in a line, behind others that it has got through.
-/
import Mathlib.Data.List.Induction
import Readout.Proofs.Extraction.Course

namespace Readout.Extraction

open Template (State Rule)

/-- A run that has taken in the first lines of its input. -/
def Run.through (t : Template) (ls : List Text) : Except Failure Run :=
  (Run.start t).bind fun r => Run.lines t 1 r ls

/-- Is the state that a run is in, if it is still going, one of the template? -/
def Position.Within (t : Template) (p : Position) : Prop := ∀ s, p = .running s → s ∈ t.states

namespace Course

/-- The course through the first lines of an input. -/
def through (t : Template) (ls : List Text) : Except Failure Course :=
  match t.state? Template.startState with
  | some s => ofLines t 1 (.running s) ls
  | none => .error .noStart

theorem ofText_eq_through (t : Template) (text : Text) : ofText t text = through t (text.inputLines ++ [[]]) := rfl

variable {t : Template}

/-! ## One line after the other -/

theorem prepend_prepend (fs gs : List Firing) (c : Course) : prepend fs (prepend gs c) = prepend (fs ++ gs) c := by
  simp [prepend]

theorem ofLines_append (ls ls' : List Text) : ∀ (n : Nat) (p : Position), ofLines t n p (ls ++ ls') =
    (ofLines t n p ls).bind fun c => (ofLines t (n + ls.length) c.position ls').map (prepend c.firings) := by
  induction ls with
  | nil =>
    intro n p
    simp only [List.nil_append, ofLines, Except.bind, List.length_nil, Nat.add_zero]
    cases ofLines t n p ls' <;> rfl
  | cons l ls ih =>
    intro n p
    simp only [List.cons_append, ofLines, List.length_cons]
    rcases ofLine t n l p with e | c
    · rfl
    · simp only [Except.bind, ih, Nat.add_assoc, Nat.add_comm 1]
      rcases ofLines t (n + 1) c.position ls with e | d
      · rfl
      · simp only [Except.map]
        rw [show (prepend c.firings d).position = d.position from rfl]
        cases ofLines t (n + (ls.length + 1)) d.position ls' with
        | error e => rfl
        | ok c' => exact congrArg Except.ok (prepend_prepend _ _ _)

/-- **More lines are taken in from where the others have led to.** -/
theorem through_append (ls ls' : List Text) : through t (ls ++ ls') =
    (through t ls).bind fun c => (ofLines t (ls.length + 1) c.position ls').map (prepend c.firings) := by
  unfold through
  rcases t.state? Template.startState with _ | s
  · rfl
  · simp only [ofLines_append, Nat.add_comm 1]

theorem ofLines_singleton (n : Nat) (p : Position) (l : Text) : ofLines t n p [l] = ofLine t n l p := by
  simp only [ofLines]
  rcases ofLine t n l p with e | c
  · rfl
  · simp [Except.bind, Except.map, prepend]

/-- A run that has stopped looks at no line. -/
theorem ofLines_of_stopped {p : Position} (hp : p.isRunning = false) (ls : List Text) :
    ∀ n : Nat, ofLines t n p ls = .ok ⟨[], p⟩ := by
  have hline : ∀ (n : Nat) (l : Text), ofLine t n l p = .ok ⟨[], p⟩ := by
    intro n l
    cases p with
    | running s => cases hp
    | ended => rfl
    | atEof => rfl
  induction ls with
  | nil => intro n; rfl
  | cons l ls ih =>
    intro n
    simp only [ofLines, hline, Except.bind, ih]
    rfl

/-! ## States -/

theorem within_goTo {name : Text} {p : Position} (h : Run.goTo t name = .ok p) : p.Within t := by
  unfold Run.goTo at h
  split at h
  · cases h; exact nofun
  · split at h
    · cases h; exact nofun
    · split at h
      · rename_i s hs
        cases h
        rintro _ ⟨⟩
        exact List.mem_of_find?_eq_some hs
      · cases h

theorem within_ofRules {s : State} (hs : s ∈ t.states) {n : Nat} {l : Text} {rules : List Rule} :
    ∀ {c : Course}, ofRules t s n l rules = .ok c → c.position.Within t := by
  have hstay : (Position.running s).Within t := by rintro _ ⟨⟩; exact hs
  induction rules with
  | nil => rintro c ⟨⟩; exact hstay
  | cons rule rules ih =>
    intro c h
    unfold ofRules at h
    split at h
    · cases h
    · exact ih h
    · split at h
      · rcases hrest : ofRules t s n l rules with e | d <;> rw [hrest] at h
        · cases h
        · cases h
          have hd : d.position.Within t := ih hrest
          exact hd
      · cases h
      · split at h
        · cases h; exact hstay
        · rename_i name _
          rcases hgo : Run.goTo t name with e | p <;> rw [hgo] at h
          · cases h
          · cases h; exact within_goTo hgo

theorem within_ofLine {n : Nat} {l : Text} {p : Position} {c : Course} (hp : p.Within t)
    (h : ofLine t n l p = .ok c) : c.position.Within t := by
  cases p with
  | running s => exact within_ofRules (hp s rfl) h
  | ended => cases h; exact hp
  | atEof => cases h; exact hp

theorem within_ofLines {ls : List Text} : ∀ {n : Nat} {p : Position} {c : Course}, p.Within t →
    ofLines t n p ls = .ok c → c.position.Within t := by
  induction ls with
  | nil => rintro n p c hp ⟨⟩; exact hp
  | cons l ls ih =>
    intro n p c hp h
    unfold ofLines at h
    rcases hline : ofLine t n l p with e | d <;> rw [hline] at h
    · cases h
    · simp only [Except.bind] at h
      rcases hrest : ofLines t (n + 1) d.position ls with e | d' <;> rw [hrest] at h
      · cases h
      · cases h
        have hd : d'.position.Within t := ih (within_ofLine hp hline) hrest
        exact hd

theorem within_start {s : State} (h : t.state? Template.startState = some s) : (Position.running s).Within t := by
  rintro _ ⟨⟩; exact List.mem_of_find?_eq_some h

/-- **A run is in a state of its template.** -/
theorem within_through {ls : List Text} {c : Course} (h : through t ls = .ok c) : c.position.Within t := by
  unfold through at h
  split at h
  · rename_i s hs
    exact within_ofLines (within_start hs) h
  · cases h

/-! ## Rules -/

theorem rule_mem_ofRules {s : State} {n : Nat} {l : Text} {rules : List Rule} :
    ∀ {c : Course}, ofRules t s n l rules = .ok c → ∀ f ∈ c.firings, f.rule ∈ rules := by
  induction rules with
  | nil => rintro c ⟨⟩ f hf; cases hf
  | cons rule rules ih =>
    intro c h
    unfold ofRules at h
    split at h
    · cases h
    · exact fun f hf => List.mem_cons_of_mem _ (ih h f hf)
    · split at h
      · rcases hrest : ofRules t s n l rules with e | d <;> rw [hrest] at h
        · cases h
        · cases h
          refine List.forall_mem_cons.2 ⟨List.mem_cons_self, fun f hf => ?_⟩
          exact List.mem_cons_of_mem _ (ih hrest f hf)
      · cases h
      · split at h
        · cases h
          exact List.forall_mem_singleton.2 List.mem_cons_self
        · rename_i name _
          rcases hgo : Run.goTo t name with e | p <;> rw [hgo] at h
          · cases h
          · cases h
            exact List.forall_mem_singleton.2 List.mem_cons_self

theorem rule_mem_ofLine {n : Nat} {l : Text} {p : Position} {c : Course} (hp : p.Within t)
    (h : ofLine t n l p = .ok c) : ∀ f ∈ c.firings, ∃ s ∈ t.states, f.rule ∈ s.rules := by
  cases p with
  | running s => exact fun f hf => ⟨s, hp s rfl, rule_mem_ofRules h f hf⟩
  | ended => cases h; exact nofun
  | atEof => cases h; exact nofun

theorem rule_mem_ofLines {ls : List Text} : ∀ {n : Nat} {p : Position} {c : Course}, p.Within t →
    ofLines t n p ls = .ok c → ∀ f ∈ c.firings, ∃ s ∈ t.states, f.rule ∈ s.rules := by
  induction ls with
  | nil => rintro n p c hp ⟨⟩ f hf; cases hf
  | cons l ls ih =>
    intro n p c hp h
    unfold ofLines at h
    rcases hline : ofLine t n l p with e | d <;> rw [hline] at h
    · cases h
    · simp only [Except.bind] at h
      rcases hrest : ofLines t (n + 1) d.position ls with e | d' <;> rw [hrest] at h
      · cases h
      · cases h
        exact List.forall_mem_append.2 ⟨rule_mem_ofLine hp hline, ih (within_ofLine hp hline) hrest⟩

/-- **The rules that fire are those of the states.** -/
theorem rule_mem_through {ls : List Text} {c : Course} (h : through t ls = .ok c) :
    ∀ f ∈ c.firings, ∃ s ∈ t.states, f.rule ∈ s.rules := by
  unfold through at h
  split at h
  · rename_i s hs
    exact rule_mem_ofLines (within_start hs) h
  · cases h

/-! ## Failures -/

/-- **A run fails in a line**, behind others that it has got through. -/
theorem through_eq_error_iff {s : State} (hs : t.state? Template.startState = some s) (ls : List Text) (e : Failure) :
    through t ls = .error e ↔ ∃ i l c, ls[i]? = some l ∧ through t (ls.take i) = .ok c ∧
      ofLine t (i + 1) l c.position = .error e := by
  induction ls using List.reverseRecOn with
  | nil => simp [through, hs, ofLines]
  | append_singleton ls l ih =>
    have hlast : through t (ls ++ [l]) =
        (through t ls).bind fun c => (ofLine t (ls.length + 1) l c.position).map (prepend c.firings) := by
      simp only [through_append, ofLines_singleton]
    have htake : ∀ i ≤ ls.length, (ls ++ [l]).take i = ls.take i := fun i hi => List.take_append_of_le_length hi
    constructor
    · intro h
      rcases hc : through t ls with e' | c
      · -- the run has failed before
        rw [hlast, hc] at h
        cases h
        obtain ⟨i, l', c, hl', hthrough, hline⟩ := ih.1 hc
        have hi := (List.getElem?_eq_some_iff.1 hl').1
        refine ⟨i, l', c, ?_, by rwa [htake i (Nat.le_of_lt hi)], hline⟩
        rwa [List.getElem?_append_left hi]
      · rw [hlast, hc] at h
        refine ⟨ls.length, l, c, by simp, by rw [htake _ (Nat.le_refl _), List.take_length, hc], ?_⟩
        simp only [Except.bind] at h
        rcases hline : ofLine t (ls.length + 1) l c.position with e' | d <;> rw [hline] at h
        · cases h; rfl
        · cases h
    · rintro ⟨i, l', c, hl', hthrough, hline⟩
      rcases Nat.lt_or_ge i ls.length with hi | hi
      · rw [List.getElem?_append_left hi] at hl'
        rw [htake i (Nat.le_of_lt hi)] at hthrough
        rw [hlast, ih.2 ⟨i, l', c, hl', hthrough, hline⟩]
        rfl
      · obtain rfl : i = ls.length := by
          have hlt := (List.getElem?_eq_some_iff.1 hl').1
          rw [List.length_append, List.length_singleton] at hlt
          omega
        rw [List.getElem?_concat_length, Option.some.injEq] at hl'
        subst hl'
        rw [htake _ (Nat.le_refl _), List.take_length] at hthrough
        rw [hlast, hthrough]
        simp only [Except.bind, hline]
        rfl

end Course

/-! ## Runs -/

/-- A run through lines carries out the firings of their course. -/
theorem Run.through_eq (t : Template) (ls : List Text) :
    Run.through t ls = (Course.through t ls).map fun c => c.run t := by
  unfold Run.through Run.start Course.through
  rcases t.state? Template.startState with _ | s
  · rfl
  · have h := Run.lines_eq t ls 1 { position := .running s, slots := t.values.map Slot.fresh }
    simp only [Except.bind, h]
    rcases Course.ofLines t 1 (.running s) ls with e | c
    · rfl
    · simp only [Except.map, Course.run]
      rw [← Run.follow_moveTo t.values _ c.position]
      rfl

/-- Where a run has come to, from its course. -/
theorem Run.exists_course {t : Template} {ls : List Text} {r : Run} (h : Run.through t ls = .ok r) :
    ∃ c, Course.through t ls = .ok c ∧ c.run t = r ∧ c.position = r.position := by
  rw [Run.through_eq] at h
  rcases hc : Course.through t ls with e | c <;> rw [hc] at h
  · cases h
  · cases h; exact ⟨c, rfl, rfl, rfl⟩

/-- **A text is its lines, and an empty one at the end.** -/
theorem extract_eq_through (t : Template) (text : Text) :
    extract t text = (Run.through t (text.inputLines ++ [[]])).map fun r => (r.close t).outcome t := by
  unfold extract Run.through
  rcases Run.start t with e | r
  · rfl
  · simp only [bind, Except.bind]
    cases Run.lines t 1 r (text.inputLines ++ [[]]) <;> rfl

end Readout.Extraction
