/-
  What the lines of a template say.  The lines in front of the first blank one declare the values, and each block of
  lines behind them is a state.

  * `valueLines`, `blocks`: the lines of the values, and those of each state;
  * `ReadsValue`, `ReadsRule`, `ReadsState`: what is written in a line or in a block;
  * `foldlM_eq_ok_iff`: things that are read one after the other, where each must go with those in front of it;
  * `Reading.readTo_states`: the blocks behind the values are the states;
  * `Described`, `parseLines_eq_ok_iff`: what the lines of a template that is accepted say of it.
-/
import Mathlib.Data.List.Forall2
import Readout.Proofs.Template.Layout

namespace Readout.Template

/-! ## Lines and blocks -/

/-- The lines of the values: those in front of the first blank one. -/
def valueLines (ls : List Text) : List Text := ls.takeWhile (!·.isEmpty)

/-- Blocks of lines with blank lines between them. -/
def blocksOf (ls : List Text) : List (List Text) := (ls.splitOnP (·.isEmpty)).filter (!·.isEmpty)

/-- The lines of each state: the blocks behind the values. -/
def blocks (ls : List Text) : List (List Text) := blocksOf (ls.dropWhile (!·.isEmpty))

/-! ## What the lines say -/

/-- Does the line declare the value? -/
def ReadsValue (line : Text) (v : Value) : Prop := Text.hasPrefix "Value ".toList line ∧ Value.parse line = .ok v

/-- Is the rule written in the line? -/
def ReadsRule (values : List Value) (line : Text) (r : Rule) : Prop :=
  startsRule line ∧ Rule.parse values 0 line = .ok r

/-- Is the state written in the block?  Its name stands above its rules. -/
inductive ReadsState (values : List Value) : List Text → State → Prop where
  | intro {name : Text} {ls : List Text} {rules : List Rule} : isStateName name →
    List.Forall₂ (ReadsRule values) ls rules → ReadsState values (name :: ls) ⟨name, rules⟩

/-- What lines say of a template that is accepted. -/
structure Described (ls : List Text) (t : Template) : Prop where
  values : List.Forall₂ ReadsValue (valueLines ls) t.values
  values_ne_nil : t.values ≠ []
  header_nodup : t.header.Nodup
  states : List.Forall₂ (ReadsState t.values) (blocks ls) t.states
  names_nodup : (t.states.map (·.name)).Nodup
  check : t.check = .ok t

/-! ## Reading what counts -/

/-- Things that are read one after the other, where each must go with those in front of it. -/
theorem foldlM_eq_ok_iff {ε α β σ : Type} {f : σ → α → Except ε σ} {g : List β → σ} {R : α → β → Prop}
    {P : List β → Prop} (hfront : ∀ bs cs, P (bs ++ cs) → P bs) {as : List α}
    (hstep : ∀ a ∈ as, ∀ bs s, P bs → (f (g bs) a = .ok s ↔ ∃ b, R a b ∧ P (bs ++ [b]) ∧ s = g (bs ++ [b]))) :
    ∀ (bs : List β) {s : σ}, P bs →
      (as.foldlM f (g bs) = .ok s ↔ ∃ cs, List.Forall₂ R as cs ∧ P (bs ++ cs) ∧ s = g (bs ++ cs)) := by
  induction as with
  | nil =>
    intro bs s hbs
    constructor
    · rintro ⟨⟩
      exact ⟨[], .nil, by rwa [List.append_nil], by rw [List.append_nil]⟩
    · rintro ⟨cs, ⟨⟩, -, rfl⟩
      rw [List.append_nil]
      rfl
  | cons a as ih =>
    rw [List.forall_mem_cons] at hstep
    intro bs s hbs
    rw [List.foldlM_cons]
    constructor
    · intro h
      obtain ⟨s', hs', h⟩ := exists_of_bind h
      obtain ⟨b, hab, hb, rfl⟩ := (hstep.1 bs s' hbs).1 hs'
      obtain ⟨cs, hcs, hP, rfl⟩ := (ih hstep.2 _ hb).1 h
      rw [← List.append_cons] at hP ⊢
      exact ⟨b :: cs, .cons hab hcs, hP, rfl⟩
    · rintro ⟨_, hbcs, hP, rfl⟩
      obtain ⟨b, cs, hab, hcs, rfl⟩ := List.forall₂_cons_left_iff.1 hbcs
      rw [List.append_cons] at hP ⊢
      have hb := hfront _ _ hP
      rw [(hstep.1 bs _ hbs).2 ⟨b, hab, hb, rfl⟩]
      exact (ih hstep.2 _ hb).2 ⟨cs, hcs, hP, rfl⟩

theorem nodup_map_concat {α : Type} (f : α → Text) (xs : List α) (x : α) :
    ((xs ++ [x]).map f).Nodup ↔ (xs.map f).Nodup ∧ ∀ y ∈ xs, f y ≠ f x := by
  rw [List.map_append, List.map_singleton, List.nodup_append]
  simp

theorem nodup_map_of_append {α : Type} {f : α → Text} {xs ys : List α} (h : ((xs ++ ys).map f).Nodup) :
    (xs.map f).Nodup := by
  rw [List.map_append] at h
  exact h.of_append_left

namespace Reading

variable {vs : List Value} {q : Reading} {line : Text}

theorem read_value_iff (hne : line ≠ []) (hc : isComment line = false) :
    read ⟨vs, [], .values, 0⟩ line = .ok q ↔
      ∃ v, ReadsValue line v ∧ (∀ w ∈ vs, w.name ≠ v.name) ∧ q = ⟨vs ++ [v], [], .values, 0⟩ := by
  have hempty : line.isEmpty = false := by simpa using hne
  simp only [read, readLine, readValue, hempty, hc, ReadsValue]
  cases hp : Text.hasPrefix "Value ".toList line with
  | false => cases hvs : vs.isEmpty <;> simp [bind, Except.bind]
  | true =>
    rcases hv : Value.parse line with e | v
    · simp [bind, Except.bind]
    · simp only [Bool.false_eq_true, if_false, if_true]
      cases hany : vs.any (·.name == v.name) with
      | false =>
        have hnew : ∀ w ∈ vs, w.name ≠ v.name := by simpa using hany
        constructor
        · rintro ⟨⟩
          exact ⟨v, ⟨trivial, rfl⟩, hnew, rfl⟩
        · rintro ⟨w, ⟨-, hw⟩, -, rfl⟩
          cases hw
          rfl
      | true =>
        constructor
        · rintro ⟨⟩
        · rintro ⟨w, ⟨-, hw⟩, hnew, -⟩
          cases hw
          obtain ⟨u, hu, hname⟩ := List.any_eq_true.1 hany
          exact absurd (beq_iff_eq.1 hname) (hnew u hu)

/-- **The lines of the values.** -/
theorem foldlM_values {ls : List Text} (hls : ∀ l ∈ ls, l ≠ [] ∧ isComment l = false) :
    ls.foldlM read {} = .ok q ↔
      ∃ vs, List.Forall₂ ReadsValue ls vs ∧ (vs.map (·.name)).Nodup ∧ q = ⟨vs, [], .values, 0⟩ :=
  foldlM_eq_ok_iff (g := fun vs => (⟨vs, [], .values, 0⟩ : Reading)) (P := fun vs => (vs.map (·.name)).Nodup)
    (fun _ _ => nodup_map_of_append) (fun l hl vs q hvs => by
      rw [read_value_iff (hls l hl).1 (hls l hl).2]
      simp only [nodup_map_concat, hvs, true_and]) [] List.nodup_nil

theorem read_header_iff {ss : List State} (hne : line ≠ []) (hc : isComment line = false) :
    read ⟨vs, ss, .between, 0⟩ line = .ok q ↔ isStateName line ∧ q = ⟨vs, ss, .rules 0 line [], 0⟩ := by
  have hempty : line.isEmpty = false := by simpa using hne
  simp only [read, readLine, readHeader, hempty, hc]
  cases isStateName line with
  | false => simp [bind, Except.bind]
  | true =>
    constructor
    · rintro ⟨⟩
      exact ⟨rfl, rfl⟩
    · rintro ⟨-, rfl⟩
      rfl

theorem read_rule_iff {ss : List State} {name : Text} {rs : List Rule} (hne : line ≠ [])
    (hc : isComment line = false) : read ⟨vs, ss, .rules 0 name rs, 0⟩ line = .ok q ↔
      ∃ r, ReadsRule vs line r ∧ q = ⟨vs, ss, .rules 0 name (rs ++ [r]), 0⟩ := by
  have hempty : line.isEmpty = false := by simpa using hne
  simp only [read, readLine, readRule, hempty, hc, ReadsRule]
  cases startsRule line with
  | false => simp [bind, Except.bind]
  | true =>
    rcases Rule.parse vs 0 line with e | r
    · simp [bind, Except.bind]
    · constructor
      · rintro ⟨⟩
        exact ⟨r, ⟨rfl, rfl⟩, rfl⟩
      · rintro ⟨r', ⟨-, hr⟩, rfl⟩
        cases hr
        rfl

/-- What comes of blocks of lines behind states that have been read. -/
def Completes (vs : List Value) (bs : List (List Text)) (ss : List State) (t : Template) : Prop :=
  ∃ new, List.Forall₂ (ReadsState vs) bs new ∧ ((ss ++ new).map (·.name)).Nodup ∧ t = ⟨vs, ss ++ new⟩

theorem completes_nil {ss : List State} {t : Template} :
    Completes vs [] ss t ↔ (ss.map (·.name)).Nodup ∧ t = ⟨vs, ss⟩ := by
  constructor
  · rintro ⟨_, ⟨⟩, hnodup, rfl⟩
    rw [List.append_nil] at hnodup ⊢
    exact ⟨hnodup, rfl⟩
  · rintro ⟨hnodup, rfl⟩
    exact ⟨[], .nil, by rwa [List.append_nil], by rw [List.append_nil]⟩

theorem completes_cons {b : List Text} {bs : List (List Text)} {ss : List State} {t : Template} :
    Completes vs (b :: bs) ss t ↔ ∃ s, ReadsState vs b s ∧ Completes vs bs (ss ++ [s]) t := by
  constructor
  · rintro ⟨_, hbs, hnodup, rfl⟩
    obtain ⟨s, new, hs, hnew, rfl⟩ := List.forall₂_cons_left_iff.1 hbs
    rw [List.append_cons] at hnodup ⊢
    exact ⟨s, hs, new, hnew, hnodup, rfl⟩
  · rintro ⟨s, hs, new, hnew, hnodup, rfl⟩
    rw [← List.append_cons] at hnodup ⊢
    exact ⟨s :: new, .cons hs hnew, hnodup, rfl⟩

/-- The end of a state. -/
theorem addState_eq_ok_iff {ss : List State} {name : Text} {rs : List Rule} (hss : (ss.map (·.name)).Nodup) :
    addState ⟨vs, ss, .rules 0 name rs, 0⟩ 0 name rs = .ok q ↔
      ((ss ++ [(⟨name, rs⟩ : State)]).map (·.name)).Nodup ∧ q = ⟨vs, ss ++ [⟨name, rs⟩], .between, 0⟩ := by
  simp only [nodup_map_concat, hss, true_and, addState]
  cases hany : ss.any (·.name == name) with
  | false =>
    have hnew : ∀ s ∈ ss, s.name ≠ name := by simpa using hany
    constructor
    · rintro ⟨⟩
      exact ⟨hnew, rfl⟩
    · rintro ⟨-, rfl⟩
      rfl
  | true =>
    constructor
    · rintro ⟨⟩
    · rintro ⟨hnew, -⟩
      obtain ⟨s, hs, hname⟩ := List.any_eq_true.1 hany
      exact absurd (beq_iff_eq.1 hname) (hnew s hs)

/-- Reads lines to the end of a template. -/
def readTo (r : Reading) (ls : List Text) : Except Fault Template := (ls.foldlM read r).bind finish

theorem readTo_cons (r : Reading) (l : Text) (ls : List Text) : r.readTo (l :: ls) = (r.read l).bind (readTo · ls) := by
  unfold readTo
  rw [List.foldlM_cons]
  cases h : r.read l <;> rfl

/-- Where a line does one thing only, the others are read behind it. -/
theorem readTo_cons_eq_ok_iff {r : Reading} {l : Text} {ls : List Text} {t : Template} :
    r.readTo (l :: ls) = .ok t ↔ ∃ q, r.read l = .ok q ∧ q.readTo ls = .ok t := by
  rw [readTo_cons]
  cases r.read l <;> simp [Except.bind]

/-- A blank line behind rules ends the state, and so does the end of the template. -/
theorem read_blank_iff {ss : List State} {name : Text} {rs : List Rule} (hss : (ss.map (·.name)).Nodup) :
    read ⟨vs, ss, .rules 0 name rs, 0⟩ [] = .ok q ↔
      ((ss ++ [(⟨name, rs⟩ : State)]).map (·.name)).Nodup ∧ q = ⟨vs, ss ++ [⟨name, rs⟩], .between, 0⟩ := by
  rw [← addState_eq_ok_iff hss, show read ⟨vs, ss, .rules 0 name rs, 0⟩ [] =
    (addState ⟨vs, ss, .rules 0 name rs, 0⟩ 0 name rs).bind fun r => .ok { r with last := 0 } from rfl]
  unfold addState
  split <;> rfl

theorem finish_rules_iff {ss : List State} {name : Text} {rs : List Rule} (hss : (ss.map (·.name)).Nodup)
    {t : Template} : finish ⟨vs, ss, .rules 0 name rs, 0⟩ = .ok t ↔ Completes vs [] (ss ++ [⟨name, rs⟩]) t := by
  rw [completes_nil, show finish ⟨vs, ss, .rules 0 name rs, 0⟩ =
    (addState ⟨vs, ss, .rules 0 name rs, 0⟩ 0 name rs).map fun r => ⟨r.values, r.states⟩ from rfl]
  constructor
  · intro h
    rcases hadd : addState ⟨vs, ss, .rules 0 name rs, 0⟩ 0 name rs with e | q <;> rw [hadd] at h
    · cases h
    · cases h
      obtain ⟨hnodup, rfl⟩ := (addState_eq_ok_iff hss).1 hadd
      exact ⟨hnodup, rfl⟩
  · rintro ⟨hnodup, rfl⟩
    rw [(addState_eq_ok_iff hss).2 ⟨hnodup, rfl⟩]
    rfl

/-- **The lines behind the values.**  Between two states, the blocks of the lines are the next states; in a state, the
    lines up to the first blank one are its other rules, and the blocks behind them the next states. -/
theorem readTo_states (vs : List Value) {ls : List Text} (hls : ∀ l ∈ ls, isComment l = false) :
    ∃ first others, ls.splitOnP (·.isEmpty) = first :: others ∧
      (∀ ss t, (ss.map (·.name)).Nodup → (readTo ⟨vs, ss, .between, 0⟩ ls = .ok t ↔
        Completes vs ((first :: others).filter (!·.isEmpty)) ss t)) ∧
      ∀ ss name rs t, (ss.map (·.name)).Nodup → (readTo ⟨vs, ss, .rules 0 name rs, 0⟩ ls = .ok t ↔
        ∃ rs', List.Forall₂ (ReadsRule vs) first rs' ∧
          Completes vs (others.filter (!·.isEmpty)) (ss ++ [⟨name, rs ++ rs'⟩]) t) := by
  induction ls with
  | nil =>
    refine ⟨[], [], rfl, fun ss t hss => ?_, fun ss name rs t hss => ?_⟩
    · rw [show ([[]] : List (List Text)).filter (!·.isEmpty) = [] from rfl, completes_nil]
      constructor
      · rintro ⟨⟩
        exact ⟨hss, rfl⟩
      · rintro ⟨-, rfl⟩
        rfl
    · refine (finish_rules_iff hss).trans ⟨fun h => ⟨[], .nil, by rwa [List.append_nil]⟩, ?_⟩
      rintro ⟨_, ⟨⟩, h⟩
      rwa [List.append_nil] at h
  | cons l ls ih =>
    rw [List.forall_mem_cons] at hls
    obtain ⟨first, others, hsplit, hbetween, hrules⟩ := ih hls.2
    cases l with
    | nil =>
      refine ⟨[], first :: others, ?_, fun ss t hss => ?_, fun ss name rs t hss => ?_⟩
      · rw [List.splitOnP_cons_eq_if_modifyHead, hsplit]
        rfl
      · -- a blank line between two states
        rw [readTo_cons_eq_ok_iff, List.filter_cons_of_neg (by simp), ← hbetween ss t hss]
        constructor
        · rintro ⟨q, ⟨⟩, h⟩
          exact h
        · exact fun h => ⟨_, rfl, h⟩
      · -- a blank line at the end of a state
        simp only [readTo_cons_eq_ok_iff, read_blank_iff hss]
        constructor
        · rintro ⟨q, ⟨hnodup, rfl⟩, h⟩
          refine ⟨[], .nil, ?_⟩
          rw [List.append_nil]
          exact (hbetween _ t hnodup).1 h
        · rintro ⟨_, ⟨⟩, h⟩
          rw [List.append_nil] at h
          have hnodup : ((ss ++ [(⟨name, rs⟩ : State)]).map (·.name)).Nodup := by
            obtain ⟨new, -, hnodup, -⟩ := h
            exact nodup_map_of_append hnodup
          exact ⟨_, ⟨hnodup, rfl⟩, (hbetween _ t hnodup).2 h⟩
    | cons c l =>
      refine ⟨(c :: l) :: first, others, ?_, fun ss t hss => ?_, fun ss name rs t hss => ?_⟩
      · rw [List.splitOnP_cons_eq_if_modifyHead, hsplit]
        rfl
      · -- the name of a state
        rw [show (((c :: l) :: first) :: others).filter (!·.isEmpty) =
          ((c :: l) :: first) :: others.filter (!·.isEmpty) from rfl, completes_cons]
        simp only [readTo_cons_eq_ok_iff, read_header_iff (List.cons_ne_nil c l) hls.1]
        constructor
        · rintro ⟨q, ⟨hname, rfl⟩, h⟩
          obtain ⟨rs, hrs, h⟩ := (hrules ss _ [] t hss).1 h
          exact ⟨_, .intro hname hrs, h⟩
        · rintro ⟨_, ⟨hname, hrs⟩, h⟩
          exact ⟨_, ⟨hname, rfl⟩, (hrules ss _ [] t hss).2 ⟨_, hrs, h⟩⟩
      · -- a rule
        simp only [readTo_cons_eq_ok_iff, read_rule_iff (List.cons_ne_nil c l) hls.1]
        constructor
        · rintro ⟨q, ⟨r, hr, rfl⟩, h⟩
          obtain ⟨rs', hrs', h⟩ := (hrules ss _ _ t hss).1 h
          rw [← List.append_cons] at h
          exact ⟨r :: rs', .cons hr hrs', h⟩
        · rintro ⟨_, hrs, h⟩
          obtain ⟨r, rs', hr, hrs', rfl⟩ := List.forall₂_cons_left_iff.1 hrs
          rw [List.append_cons rs] at h
          exact ⟨_, ⟨r, hr, rfl⟩, (hrules ss _ _ t hss).2 ⟨rs', hrs', h⟩⟩

/-- Behind the values, nothing depends on whether their section has ended yet, if there are any. -/
theorem readTo_values {vs : List Value} {ls : List Text} {t : Template}
    (hls : ls.takeWhile (!·.isEmpty) = []) : readTo ⟨vs, [], .values, 0⟩ ls = .ok t ↔
      vs ≠ [] ∧ readTo ⟨vs, [], .between, 0⟩ ls = .ok t := by
  cases vs with
  | nil =>
    have hnone : readTo ⟨[], [], .values, 0⟩ ls = .error (.noValues 0) := by
      rcases ls with _ | ⟨_ | ⟨c, l⟩, ls⟩
      · rfl
      · rfl
      · simp at hls
    simp [hnone]
  | cons v vs =>
    have hsame : readTo ⟨v :: vs, [], .values, 0⟩ ls = readTo ⟨v :: vs, [], .between, 0⟩ ls := by
      rcases ls with _ | ⟨_ | ⟨c, l⟩, ls⟩
      · rfl
      · rfl
      · simp at hls
    simp [hsame]

end Reading

theorem takeWhile_dropWhile {α : Type} (p : α → Bool) (xs : List α) : (xs.dropWhile p).takeWhile p = [] := by
  induction xs with
  | nil => rfl
  | cons x xs ih =>
    rw [List.dropWhile_cons]
    split
    · exact ih
    · rename_i hx
      exact List.takeWhile_cons_of_neg hx

/-- **What the lines of a template that is accepted say of it.** -/
theorem parseLines_eq_ok_iff {ls : List Text} (hls : ∀ l ∈ ls, isComment l = false) {t : Template} :
    parseLines ls = .ok t ↔ Described ls t := by
  have hvalueLines : ∀ l ∈ valueLines ls, l ≠ [] ∧ isComment l = false := by
    intro l hl
    refine ⟨?_, hls l ((List.takeWhile_sublist _).subset hl)⟩
    simpa using List.mem_takeWhile_imp hl
  have hrest : ∀ l ∈ ls.dropWhile (!·.isEmpty), isComment l = false :=
    fun l hl => hls l ((List.dropWhile_sublist _).subset hl)
  have hread : parseLines ls = ((valueLines ls).foldlM Reading.read {}).bind fun q =>
      (q.readTo (ls.dropWhile (!·.isEmpty))).bind check := by
    conv_lhs => rw [parseLines, ← List.takeWhile_append_dropWhile (p := (!·.isEmpty)) (l := ls), List.foldlM_append]
    rw [← valueLines]
    cases (valueLines ls).foldlM Reading.read {} <;> rfl
  have hstop : (ls.dropWhile (!·.isEmpty)).takeWhile (!·.isEmpty) = [] := takeWhile_dropWhile _ ls
  rw [hread]
  constructor
  · intro h
    obtain ⟨q, hq, h⟩ := exists_of_bind h
    obtain ⟨vs, hvs, hheader, rfl⟩ := (Reading.foldlM_values hvalueLines).1 hq
    obtain ⟨u, hu, hcheck⟩ := exists_of_bind h
    obtain ⟨rfl, -⟩ := check_eq_ok_iff.1 hcheck
    obtain ⟨hne, hu⟩ := (Reading.readTo_values hstop).1 hu
    obtain ⟨first, others, hsplit, hbetween, -⟩ := Reading.readTo_states vs hrest
    rw [hbetween [] u List.nodup_nil, ← hsplit] at hu
    obtain ⟨ss, hss, hnames, rfl⟩ := hu
    exact ⟨hvs, hne, hheader, hss, hnames, hcheck⟩
  · intro h
    rw [(Reading.foldlM_values hvalueLines).2 ⟨t.values, h.values, h.header_nodup, rfl⟩]
    obtain ⟨first, others, hsplit, hbetween, -⟩ := Reading.readTo_states t.values hrest
    have hstates := h.states
    rw [blocks, blocksOf, hsplit] at hstates
    have hread : Reading.readTo ⟨t.values, [], .values, 0⟩ (ls.dropWhile (!·.isEmpty)) = .ok t :=
      (Reading.readTo_values hstop).2 ⟨h.values_ne_nil,
        (hbetween [] t List.nodup_nil).2 ⟨t.states, hstates, h.names_nodup, rfl⟩⟩
    simp only [Except.bind, hread]
    exact h.check

end Readout.Template
