/-
  Templates that are accepted run safely.

  A run looks up values, slots and fields by their position, and states by their name.  In a checked run each
  of these looks is a step of its own, which fails where nothing is found.

  * `Checked.extract` is a checked run, `Fault` are its failures;
  * `Run.Fits`: there is a slot for each value and a field for each value in each row, and the state is one of
    the template;
  * `Agree` relates a checked computation to a plain one, `tryRules_agree`, `lines_agree` and the like show
    that they come to the same;
  * `Raised` are the failures that the rules of a template raise: an error action, or a budget that is used up;
  * `extract_safe`: with a template that is accepted, no look fails, and there are no failures but these.
-/
import Mathlib.Data.List.Basic
import Readout.Extraction.Run
import Readout.Proofs.Template.Accepted

namespace Readout.Extraction

open Template (State Value Rule Accepted)

/-! ## Checked runs -/

/-- Why a checked run fails. -/
inductive Fault where
  /-- as a run does -/
  | failure (e : Failure)
  /-- nothing stands at position `i` -/
  | outOfRange (i : Nat)
  deriving DecidableEq, Repr

namespace Checked

/-- What stands at a position. -/
def look {α : Type} (as : List α) (i : Nat) : Except Fault α :=
  match as[i]? with
  | some a => .ok a
  | none => .error (.outOfRange i)

/-- Puts a text into column `i` of the rows, the last one first, up to a row that has something there. -/
def fillUp (i : Nat) (u : Text) : List Row → Except Fault (List Row)
  | [] => .ok []
  | row :: rows =>
    (look row i).bind fun f =>
      if !f.isEmpty then .ok (row :: rows)
      else (fillUp i u rows).map (row.set i (.single u) :: ·)

/-- Assigns what a group has captured to value `i`, if it has taken part. -/
def assign (values : List Value) (r : Run) (i : Nat) (u : Option Text) : Except Fault Run :=
  (look r.slots i).bind fun slot =>
    match u with
    | none => .ok r
    | some u =>
      let slots := r.slots.set i (slot.put u)
      if u.isEmpty then .ok { r with slots }
      else
        (look values i).bind fun v =>
          if v.has .fillup then (fillUp i u r.rows).map fun rows => { r with slots, rows }
          else .ok { r with slots }

/-- Assigns what a rule has captured in a line. -/
def bind (values : List Value) (rule : Rule) (line : Text) (m : Regex.Match) (r : Run) : Except Fault Run :=
  rule.bindings.foldlM (fun r i =>
    (look values i).bind fun v => assign values r i (rule.regex.capture? line m v.name)) r

/-- Tries rules of the state `s` on line `number`. -/
def tryRules (t : Template) (s : State) (number : Nat) (line : Text) (r : Run) :
    List Rule → Except Fault Run
  | [] => .ok r
  | rule :: rules =>
    match rule.regex.search line with
    | .error () => .error (.failure (.exhausted rule.line number))
    | .ok none => tryRules t s number line r rules
    | .ok (some m) =>
      (bind t.values rule line m r).bind fun r =>
        let r := r.act t.values rule.action.record
        match rule.action.line with
        | .continue_ => tryRules t s number line r rules
        | .error message => .error (.failure (.rejected s.name rule.line number line message))
        | .next =>
          match rule.action.target with
          | none => .ok r
          | some name => ((Run.goTo t name).mapError .failure).map fun position => { r with position }

/-- Takes in line `number`; a run that has stopped does not look at it. -/
def line (t : Template) (number : Nat) (line : Text) (r : Run) : Except Fault Run :=
  match r.position with
  | .running s => tryRules t s number line r s.rules
  | _ => .ok r

/-- Takes in lines, the first of which has a number. -/
def lines (t : Template) (number : Nat) (r : Run) : List Text → Except Fault Run
  | [] => .ok r
  | l :: ls => (line t number l r).bind fun r => lines t (number + 1) r ls

/-- Is column `i` empty in all rows? -/
def lacking (i : Nat) : List Row → Except Fault Bool
  | [] => .ok true
  | row :: rows => (look row i).bind fun f => if f.isEmpty then lacking i rows else .ok false

/-- The warnings for values, each with its position. -/
def warnings (rows : List Row) : List (Value × Nat) → Except Fault (List Warning)
  | [] => .ok []
  | (v, i) :: vs =>
    (if v.has .required then lacking i rows else .ok false).bind fun lacks =>
      (warnings rows vs).map fun ws => if lacks then .requiredNeverFilled v.name :: ws else ws

/-- What a run yields. -/
def outcome (t : Template) (r : Run) : Except Fault Outcome :=
  (warnings r.rows.reverse t.values.zipIdx).map fun ws =>
    { records := r.rows.reverse.map fun row => t.header.zip row, warnings := ws }

/-- Runs a template over device output. -/
def extract (t : Template) (text : Text) : Except Fault Outcome :=
  ((Run.start t).mapError .failure).bind fun r =>
    (lines t 1 r (text.inputLines ++ [[]])).bind fun r => outcome t (r.close t)

end Checked

/-! ## Runs that fit -/

/-- Is there a slot for each value and a field for each value in each row, and is the state one of the
    template? -/
structure Run.Fits (t : Template) (r : Run) : Prop where
  slots : r.slots.length = t.values.length
  rows : ∀ row ∈ r.rows, row.length = t.values.length
  state : ∀ s, r.position = .running s → s ∈ t.states

theorem length_of_mem_fillUp {i : Nat} {u : Text} {n : Nat} : ∀ {rows : List Row},
    (∀ row ∈ rows, row.length = n) → ∀ row ∈ fillUp i u rows, row.length = n
  | [], h => h
  | row :: rows, h => by
    obtain ⟨hrow, hrows⟩ := List.forall_mem_cons.1 h
    unfold fillUp
    split
    · exact h
    · rw [List.forall_mem_cons, List.length_set]
      exact ⟨hrow, length_of_mem_fillUp hrows⟩

namespace Run
variable {t : Template} {r : Run}

theorem Fits.assign (hr : r.Fits t) (i : Nat) (u : Text) : (r.assign t.values i u).Fits t where
  slots := by rw [Run.assign, List.length_modify, hr.slots]
  rows := by
    unfold Run.assign
    split
    · exact length_of_mem_fillUp hr.rows
    · exact hr.rows
  state := hr.state

theorem Fits.clear (hr : r.Fits t) : (r.clear t.values).Fits t where
  slots := by rw [Run.clear, List.length_zipWith, hr.slots, Nat.min_self]
  rows := hr.rows
  state := hr.state

theorem Fits.emit (hr : r.Fits t) : (r.emit t.values).Fits t := by
  unfold Run.emit
  split
  · exact hr.clear
  · split
    · exact hr
    · refine Fits.clear ⟨hr.slots, ?_, hr.state⟩
      rw [List.forall_mem_cons, List.length_map]
      exact ⟨hr.slots, hr.rows⟩

theorem Fits.act (hr : r.Fits t) (op : Template.RecordOp) : (r.act t.values op).Fits t := by
  cases op with
  | noRecord => exact hr
  | record => exact hr.emit
  | clear => exact hr.clear
  | clearAll => exact ⟨by rw [Run.act, Run.clearAll, List.length_map, hr.slots], hr.rows, hr.state⟩

theorem Fits.close (hr : r.Fits t) : (r.close t).Fits t := by
  unfold Run.close
  split
  · exact hr
  · exact hr.emit

end Run

/-! ## Looks that succeed -/

namespace Checked

theorem look_eq {α : Type} {as : List α} {i : Nat} (hi : i < as.length) : look as i = .ok as[i] := by
  rw [look, List.getElem?_eq_getElem hi]

theorem fillUp_eq {i : Nat} {u : Text} : ∀ {rows : List Row}, (∀ row ∈ rows, i < row.length) →
    fillUp i u rows = .ok (Extraction.fillUp i u rows)
  | [], _ => rfl
  | row :: rows, h => by
    obtain ⟨hrow, hrows⟩ := List.forall_mem_cons.1 h
    rw [fillUp, look_eq hrow, Extraction.fillUp, List.getElem?_eq_getElem hrow, fillUp_eq hrows]
    simp only [Except.bind, Option.any_some]
    split <;> rfl

theorem lacking_eq {i : Nat} : ∀ {rows : List Row}, (∀ row ∈ rows, i < row.length) →
    lacking i rows = .ok (rows.all fun row => !row[i]?.any (!·.isEmpty))
  | [], _ => rfl
  | row :: rows, h => by
    obtain ⟨hrow, hrows⟩ := List.forall_mem_cons.1 h
    rw [lacking, look_eq hrow, List.all_cons, List.getElem?_eq_getElem hrow, lacking_eq hrows]
    cases hf : row[i].isEmpty <;> simp [Except.bind, hf]

variable {t : Template} {r : Run}

theorem assign_eq (hr : r.Fits t) {i : Nat} (hi : i < t.values.length) (u : Option Text) :
    assign t.values r i u = .ok (match u with
      | some u => r.assign t.values i u
      | none => r) := by
  have hslot : i < r.slots.length := hr.slots ▸ hi
  have hrows : ∀ row ∈ r.rows, i < row.length := fun row hrow => hr.rows row hrow ▸ hi
  rw [assign, look_eq hslot]
  cases u with
  | none => rfl
  | some u =>
    have hput : r.slots.set i (r.slots[i].put u) = r.slots.modify i (Slot.put u) :=
      (List.modify_eq_set_get _ hslot).symm
    simp only [Except.bind, hput, look_eq hi, fillUp_eq hrows, Run.assign, List.getElem?_eq_getElem hi]
    cases u.isEmpty
    · cases hf : t.values[i].has .fillup <;> simp [Except.map, hf]
    · rfl

theorem bind_eq {rule : Rule} (hb : ∀ i ∈ rule.bindings, i < t.values.length) (hr : r.Fits t)
    (line : Text) (m : Regex.Match) :
    bind t.values rule line m r = .ok (r.bind t.values rule line m) ∧
      (r.bind t.values rule line m).Fits t := by
  unfold bind Run.bind
  generalize rule.bindings = is at hb
  induction is generalizing r with
  | nil => exact ⟨rfl, hr⟩
  | cons i is ih =>
    obtain ⟨hi, his⟩ := List.forall_mem_cons.1 hb
    rw [List.foldlM_cons, List.foldl_cons, look_eq hi, List.getElem?_eq_getElem hi]
    simp only [Option.bind_some, Bind.bind, Except.bind, assign_eq hr hi]
    cases rule.regex.capture? line m t.values[i].name with
    | none => exact ih hr his
    | some u => exact ih (hr.assign i u) his

theorem warnings_eq {rows : List Row} (hrows : ∀ row ∈ rows, row.length = t.values.length) :
    ∀ {vs : List (Value × Nat)}, (∀ p ∈ vs, p.2 < t.values.length) →
      warnings rows vs = .ok ((vs.filter fun (v, i) =>
        v.has .required && rows.all fun row => !row[i]?.any (!·.isEmpty)).map
          fun (v, _) => .requiredNeverFilled v.name)
  | [], _ => rfl
  | (v, i) :: vs, h => by
    obtain ⟨hi, hvs⟩ := List.forall_mem_cons.1 h
    rw [warnings, lacking_eq fun row hrow => (hrows row hrow).symm ▸ hi, warnings_eq hrows hvs,
      List.filter_cons]
    cases hq : v.has .required
    · simp [Except.bind, Except.map, hq]
    · simp only [if_true, Except.bind, Except.map, hq, Bool.true_and]
      split <;> rfl

theorem outcome_eq (hr : r.Fits t) : outcome t r = .ok (r.outcome t) := by
  have hpositions : ∀ p ∈ t.values.zipIdx, p.2 < t.values.length := fun p hp =>
    (List.getElem?_eq_some_iff.1 (List.mem_zipIdx_iff_getElem?.1 hp)).1
  rw [outcome, warnings_eq (fun row hrow => hr.rows row (List.mem_reverse.1 hrow)) hpositions]
  simp only [Except.map, Run.outcome, List.all_reverse]

end Checked

/-! ## Runs that agree -/

/-- Do a checked computation and a plain one come to the same: a result with `P`, or a failure with `E`? -/
inductive Agree {α : Type} (P : α → Prop) (E : Failure → Prop) : Except Fault α → Except Failure α → Prop where
  | ok {a : α} : P a → Agree P E (.ok a) (.ok a)
  | error {e : Failure} : E e → Agree P E (.error (.failure e)) (.error e)

section
variable {α : Type} {P : α → Prop} {E : Failure → Prop} {x : Except Fault α} {y : Except Failure α}

theorem Agree.bind {β : Type} {Q : β → Prop} (h : Agree P E x y) {f : α → Except Fault β}
    {g : α → Except Failure β} (hf : ∀ a, P a → Agree Q E (f a) (g a)) :
    Agree Q E (x.bind f) (y.bind g) := by
  cases h with
  | ok ha => exact hf _ ha
  | error he => exact .error he

theorem Agree.eq (h : Agree P E x y) : x = y.mapError .failure := by
  cases h <;> rfl

theorem Agree.ok_or_error (h : Agree P E x y) : (∃ a, y = .ok a) ∨ ∃ e, y = .error e ∧ E e := by
  cases h with
  | ok => exact Or.inl ⟨_, rfl⟩
  | error he => exact Or.inr ⟨_, rfl, he⟩

end

/-- The failures that rules raise while a run takes in the lines `ls`. -/
inductive Raised (t : Template) (ls : List Text) : Failure → Prop where
  /-- a rule matches a line, and its action is an error -/
  | rejected {s : State} {rule : Rule} {k : Nat} {l : Text} {message : Option Text} {m : Regex.Match} :
    s ∈ t.states → rule ∈ s.rules → ls[k]? = some l → rule.regex.search l = .ok (some m) →
    rule.action.line = .error message → Raised t ls (.rejected s.name rule.line (k + 1) l message)
  /-- the search for a match of a rule in a line is given up -/
  | exhausted {s : State} {rule : Rule} {k : Nat} {l : Text} :
    s ∈ t.states → rule ∈ s.rules → ls[k]? = some l → rule.regex.search l = .error () →
    Raised t ls (.exhausted rule.line (k + 1))

theorem goTo_agree {t : Template} {name : Text} (hname : t.reaches name) {r : Run} (hr : r.Fits t)
    (E : Failure → Prop) :
    Agree (Run.Fits t) E
      (((Run.goTo t name).mapError .failure).map fun position => { r with position })
      ((Run.goTo t name).map fun position => { r with position }) := by
  have hmove : ∀ p : Position, (∀ s, p = .running s → s ∈ t.states) →
      Run.Fits t { r with position := p } := fun _ hp => ⟨hr.slots, hr.rows, hp⟩
  unfold Run.goTo
  split
  · exact .ok (hmove _ nofun)
  · split
    · exact .ok (hmove _ nofun)
    · rename_i hend heof
      rcases hs : t.state? name with _ | s
      · simp [Template.reaches, hend, heof, Template.hasState, hs] at hname
      · refine .ok (hmove _ ?_)
        rintro _ ⟨⟩
        exact List.mem_of_find?_eq_some hs

section
variable {t : Template} (ht : Accepted t)
include ht

theorem tryRules_agree {ls : List Text} {k : Nat} {l : Text} (hl : ls[k]? = some l) {s : State}
    (hs : s ∈ t.states) : ∀ {rules : List Rule} {r : Run}, (∀ rule ∈ rules, rule ∈ s.rules) → r.Fits t →
      Agree (Run.Fits t) (Raised t ls) (Checked.tryRules t s (k + 1) l r rules)
        (Run.tryRules t s (k + 1) l r rules)
  | [], _, _, hr => .ok hr
  | rule :: rules, r, hrules, hr => by
    obtain ⟨hrule, hrest⟩ := List.forall_mem_cons.1 hrules
    obtain ⟨n, line, -, hwritten⟩ := ht.rules s hs rule hrule
    unfold Checked.tryRules Run.tryRules
    rcases hm : rule.regex.search l with _ | _ | m
    · exact .error (.exhausted hs hrule hl hm)
    · exact tryRules_agree hl hs hrest hr
    · obtain ⟨hbind, hfits⟩ := Checked.bind_eq (fun i => hwritten.lt_of_mem_bindings) hr l m
      have hact := hfits.act rule.action.record
      simp only [hbind, Except.bind]
      cases haction : rule.action.line with
      | continue_ => exact tryRules_agree hl hs hrest hact
      | error message => exact .error (.rejected hs hrule hl hm haction)
      | next =>
        cases htarget : rule.action.target with
        | none => exact .ok hact
        | some name => exact goTo_agree (ht.targets s hs rule hrule name htarget) hact _

theorem line_agree {ls : List Text} {k : Nat} {l : Text} (hl : ls[k]? = some l) {r : Run} (hr : r.Fits t) :
    Agree (Run.Fits t) (Raised t ls) (Checked.line t (k + 1) l r) (Run.line t (k + 1) l r) := by
  unfold Checked.line Run.line
  rcases hp : r.position with s | _ | _
  · exact tryRules_agree ht hl (hr.state s hp) (fun _ => id) hr
  · exact .ok hr
  · exact .ok hr

/-- `done` are the lines that have been taken in already. -/
theorem lines_agree : ∀ (ls done : List Text) {r : Run}, r.Fits t →
    Agree (Run.Fits t) (Raised t (done ++ ls)) (Checked.lines t (done.length + 1) r ls)
      (Run.lines t (done.length + 1) r ls)
  | [], _, _, hr => .ok hr
  | l :: ls, done, r, hr => by
    have hl : (done ++ l :: ls)[done.length]? = some l := by simp
    refine (line_agree ht hl hr).bind fun q hq => ?_
    have ih := lines_agree ls (done ++ [l]) hq
    rwa [List.append_assoc, List.length_append] at ih

theorem extract_agree (text : Text) :
    Agree (fun _ => True) (Raised t (text.inputLines ++ [[]])) (Checked.extract t text) (extract t text) := by
  have hstart : Agree (Run.Fits t) (Raised t (text.inputLines ++ [[]]))
      ((Run.start t).mapError .failure) (Run.start t) := by
    unfold Run.start
    rcases hs : t.state? Template.startState with _ | s
    · simpa [Template.hasState, hs] using ht.start
    · refine .ok ⟨List.length_map _, nofun, ?_⟩
      rintro _ ⟨⟩
      exact List.mem_of_find?_eq_some hs
  refine hstart.bind fun r hr => (lines_agree ht _ [] hr).bind fun q hq => ?_
  rw [Checked.outcome_eq hq.close]
  exact .ok trivial

end

/-- **A template that is accepted runs safely.**  In a checked run every look finds what it looks for, so
    that it comes to the same as a plain one: to an outcome, to an error action of a rule that matches the
    line, or to a search that is given up.  There is a state to start from, and a state wherever a rule
    leads. -/
theorem extract_safe {source : Text} {t : Template} (h : Template.parse source = .ok t) (text : Text) :
    Checked.extract t text = (extract t text).mapError .failure ∧
      ((∃ o, extract t text = .ok o) ∨
        ∃ e, extract t text = .error e ∧ Raised t (text.inputLines ++ [[]]) e) := by
  have hagree := extract_agree (Template.accepted_of_parse h) text
  exact ⟨hagree.eq, hagree.ok_or_error⟩

/-- A run that emits a record, fills it up and then meets an error action. -/
theorem extract_safe_rejected :
    ∃ t, Template.parse ("Value Fillup A (x*)\nValue Required B (\\d)\n\n".toList ++
        "Start\n  ^${B} -> Record\n  ^a${A}\n  ^b -> Error \"odd\"\n".toList) = .ok t ∧
      extract t "1\nax\nb\n".toList = .error (.rejected "Start".toList 7 3 ['b'] (some "odd".toList)) ∧
      Checked.extract t "1\nax\nb\n".toList =
        (extract t "1\nax\nb\n".toList).mapError .failure ∧
      ((∃ o, extract t "1\nax\nb\n".toList = .ok o) ∨
        ∃ e, extract t "1\nax\nb\n".toList = .error e ∧
          Raised t (Text.inputLines "1\nax\nb\n".toList ++ [[]]) e) := by
  have h : (Template.parse ("Value Fillup A (x*)\nValue Required B (\\d)\n\n".toList ++
      "Start\n  ^${B} -> Record\n  ^a${A}\n  ^b -> Error \"odd\"\n".toList)).toOption.map
        (extract · "1\nax\nb\n".toList) =
      some (.error (.rejected "Start".toList 7 3 ['b'] (some "odd".toList))) := by
    decide +kernel
  obtain ⟨t, ht, he⟩ := Template.exists_parse h
  exact ⟨t, ht, he, extract_safe ht _⟩

end Readout.Extraction
