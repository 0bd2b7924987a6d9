/-
  Rejections.  A rule with `Error` fails the run on the first line that comes to it, and the failure says where.

  * `PassesOn`: a rule leaves a line to the rules behind it; `Rejects`: one of several rules rejects a line;
  * `Course.ofRules_eq_rejected_iff`: a state rejects a line if one of its rules does;
  * `Rejected`: which line of a text is rejected, in which state, and by which rule;
  * `extract_eq_rejected_iff`: a run is rejected exactly there, and reports the line, the state and the rule.
-/
import Readout.Proofs.Extraction.Stages
import Readout.Proofs.Template.Validity

namespace Readout.Extraction

open Template (State Rule)

/-! ## Rules -/

/-- A rule leaves a line to the rules behind it: it does not match the line, or goes on all the same. -/
def PassesOn (l : Text) (rule : Rule) : Prop :=
  rule.regex.search l = .ok none ∨ (∃ m, rule.regex.search l = .ok (some m)) ∧ rule.action.line = .continue_

/-- A rule comes to a line, as those in front of it pass the line on, and rejects it. -/
structure Rejects (rules : List Rule) (l : Text) (rule : Rule) (message : Option Text) : Prop where
  turn : ∃ front behind, rules = front ++ rule :: behind ∧ ∀ q ∈ front, PassesOn l q
  found : ∃ m, rule.regex.search l = .ok (some m)
  action : rule.action.line = .error message

section
variable {l : Text} {rule q : Rule} {rules : List Rule} {message : Option Text}

theorem not_rejects_nil : ¬ Rejects [] l rule message := by
  rintro ⟨⟨front, behind, h, -⟩, -, -⟩
  cases front <;> cases h

/-- The first rule rejects a line, or it passes the line on and one of the others rejects it. -/
theorem rejects_cons : Rejects (q :: rules) l rule message ↔
    (rule = q ∧ (∃ m, q.regex.search l = .ok (some m)) ∧ q.action.line = .error message) ∨
      (PassesOn l q ∧ Rejects rules l rule message) := by
  constructor
  · rintro ⟨⟨front, behind, h, hfront⟩, hfound, haction⟩
    cases front with
    | nil =>
      cases h
      exact .inl ⟨rfl, hfound, haction⟩
    | cons q' front =>
      cases h
      rw [List.forall_mem_cons] at hfront
      exact .inr ⟨hfront.1, ⟨front, behind, rfl, hfront.2⟩, hfound, haction⟩
  · rintro (⟨rfl, hfound, haction⟩ | ⟨hq, ⟨front, behind, rfl, hfront⟩, hfound, haction⟩)
    · exact ⟨⟨[], rules, rfl, nofun⟩, hfound, haction⟩
    · refine ⟨⟨q :: front, behind, rfl, ?_⟩, hfound, haction⟩
      rw [List.forall_mem_cons]
      exact ⟨hq, hfront⟩

theorem Rejects.mem (h : Rejects rules l rule message) : rule ∈ rules := by
  obtain ⟨front, behind, rfl, -⟩ := h.turn
  simp

end

/-- Going to another state rejects nothing. -/
theorem Run.goTo_ne_rejected {t : Template} {name state l : Text} {n k : Nat} {message : Option Text} :
    Run.goTo t name ≠ .error (.rejected state n k l message) := by
  unfold Run.goTo
  split
  · nofun
  · split
    · nofun
    · split <;> nofun

/-- **A state rejects a line if one of its rules does**, and the failure names the state, the rule and the line. -/
theorem Course.ofRules_eq_rejected_iff {t : Template} {s : State} {number : Nat} {line : Text} {rules : List Rule}
    {state l : Text} {n k : Nat} {message : Option Text} :
    ofRules t s number line rules = .error (.rejected state n k l message) ↔
      ∃ rule, Rejects rules line rule message ∧ state = s.name ∧ n = rule.line ∧ k = number ∧ l = line := by
  induction rules with
  | nil =>
    constructor
    · rintro ⟨⟩
    · rintro ⟨rule, h, -⟩
      exact absurd h not_rejects_nil
  | cons q rules ih =>
    simp only [rejects_cons, PassesOn]
    unfold ofRules
    rcases hsearch : q.regex.search line with _ | _ | m
    · simp
    · -- the first rule does not match
      simp [ih]
    · simp only [Except.ok.injEq, Option.some.injEq, reduceCtorEq, false_or, exists_eq', true_and]
      rcases haction : q.action.line with _ | _ | message'
      · -- the first rule is the last to be tried
        simp only [reduceCtorEq, and_false, false_and, or_self, exists_false, iff_false]
        rcases q.action.target with _ | name
        · rintro ⟨⟩
        · intro h
          simp only at h
          rcases hgo : Run.goTo t name with e | p <;> rw [hgo] at h <;> cases h
          exact Run.goTo_ne_rejected hgo
      · -- the first rule goes on
        have hmap : ∀ x : Except Failure Course, x.map (cons ⟨q, line, m⟩) = .error (.rejected state n k l message) ↔
            x = .error (.rejected state n k l message) := by
          rintro (e | c) <;> simp [Except.map]
        simp [hmap, ih]
      · -- the first rule rejects the line
        simp only [Except.error.injEq, Failure.rejected.injEq, reduceCtorEq, false_and, or_false,
          Template.LineOp.error.injEq]
        constructor
        · rintro ⟨rfl, rfl, rfl, rfl, rfl⟩
          exact ⟨q, ⟨rfl, rfl⟩, rfl, rfl, rfl, rfl⟩
        · rintro ⟨rule, ⟨rfl, rfl⟩, rfl, rfl, rfl, rfl⟩
          exact ⟨rfl, rfl, rfl, rfl, rfl⟩

/-! ## Runs -/

/-- Line `k` of a text, or the empty line behind its last one, is rejected in the state that the lines in front of it
    lead to, by a rule of that state. -/
structure Rejected (t : Template) (text : Text) (k : Nat) (l : Text) (s : State) (rule : Rule)
    (message : Option Text) : Prop where
  one_le : 1 ≤ k
  le : k ≤ text.inputLines.length + 1
  line : l = (text.inputLines[k - 1]?).getD []
  state : ∃ r, Run.through t (text.inputLines.take (k - 1)) = .ok r ∧ r.position = .running s
  rejects : Rejects s.rules l rule message

/-- The reason that is given for a rejection. -/
def reason (message : Option Text) : Text := message.getD "State Error raised".toList

/-- A run is rejected in a line exactly if the state that it has come to rejects it. -/
theorem Course.ofLine_eq_rejected_iff {t : Template} {number : Nat} {line : Text} {p : Position} {state l : Text}
    {n k : Nat} {message : Option Text} : ofLine t number line p = .error (.rejected state n k l message) ↔
      ∃ s rule, p = .running s ∧ Rejects s.rules line rule message ∧ state = s.name ∧ n = rule.line ∧
        k = number ∧ l = line := by
  cases p with
  | running s => simp [ofLine, ofRules_eq_rejected_iff]
  | ended => simp [ofLine]
  | atEof => simp [ofLine]

theorem through_eq_rejected_iff {t : Template} {s₀ : State} (hs₀ : t.state? Template.startState = some s₀)
    {text state l : Text} {n k : Nat} {message : Option Text} :
    Course.through t (text.inputLines ++ [[]]) = .error (.rejected state n k l message) ↔
      ∃ s rule, Rejected t text k l s rule message ∧ state = s.name ∧ n = rule.line := by
  -- the lines in front of a line, which is none of the text only if it is the empty one at the end
  have hline : ∀ i ≤ text.inputLines.length,
      (text.inputLines ++ [[]])[i]? = some ((text.inputLines[i]?).getD []) := by
    intro i hi
    rcases Nat.lt_or_eq_of_le hi with hi | rfl
    · rw [List.getElem?_append_left hi, List.getElem?_eq_getElem hi, Option.getD_some]
    · rw [List.getElem?_concat_length, List.getElem?_eq_none (Nat.le_refl _), Option.getD_none]
  have htake : ∀ i ≤ text.inputLines.length, (text.inputLines ++ [[]]).take i = text.inputLines.take i :=
    fun i hi => List.take_append_of_le_length hi
  simp only [Course.through_eq_error_iff hs₀, Course.ofLine_eq_rejected_iff]
  constructor
  · rintro ⟨i, line, c, hget, hthrough, s, rule, hp, hrejects, rfl, rfl, rfl, rfl⟩
    have hi : i ≤ text.inputLines.length := by
      have hlt := (List.getElem?_eq_some_iff.1 hget).1
      rw [List.length_append, List.length_singleton] at hlt
      omega
    rw [hline i hi, Option.some.injEq] at hget
    rw [htake i hi] at hthrough
    refine ⟨s, rule, ⟨by omega, by omega, hget.symm, ⟨c.run t, ?_, hp⟩, hrejects⟩, rfl, rfl⟩
    rw [Nat.add_sub_cancel, Run.through_eq, hthrough]
    rfl
  · rintro ⟨s, rule, ⟨hone, hle, rfl, ⟨r, hr, hp⟩, hrejects⟩, rfl, rfl⟩
    obtain ⟨c, hc, -, hposition⟩ := Run.exists_course hr
    have hk : k - 1 ≤ text.inputLines.length := by omega
    exact ⟨k - 1, _, c, hline _ hk, by rw [htake _ hk, hc], s, rule, hposition.trans hp, hrejects, rfl, rfl,
      by omega, rfl⟩

/-- **Rejections are reported exactly.**  A run fails with a rejection if and only if one of its lines, counted from
    one and with the empty line at the end as the last, is rejected in the state that the lines in front of it lead
    to.  The failure has the number of the line and the line itself, and the name of the state; its rule is that of
    the state that matches the line and has an error for its action, behind others that do not match or go on all the
    same, and is the one in its line of the source; and its message is that of the rule, or else the usual one. -/
theorem extract_eq_rejected_iff {source : Text} {t : Template} (h : Template.parse source = .ok t) (text : Text)
    (k : Nat) (l : Text) (message : Option Text) :
    (∀ state n, extract t text = .error (.rejected state n k l message) ↔
      ∃ s rule, Rejected t text k l s rule message ∧ state = s.name ∧ n = rule.line) ∧
    ∀ s rule, Rejected t text k l s rule message →
      s ∈ t.states ∧ rule ∈ s.rules ∧ rule.FromLine source t.values ∧
      (Failure.rejected s.name rule.line k l message).message =
        s!"Input rejected in state '{Text.str s.name}' by rule at line {rule.line}: {Text.str (reason message)}. " ++
          s!"Input line {k}: '{Text.str l}'" := by
  obtain ⟨s₀, hs₀⟩ := Option.isSome_iff_exists.1 (Template.accepted_of_parse h).start
  constructor
  · intro state n
    rw [← through_eq_rejected_iff hs₀, extract_eq, Course.ofText_eq_through]
    cases Course.through t (text.inputLines ++ [[]]) <;> simp [Except.map]
  · intro s rule hrejected
    obtain ⟨r, hr, hp⟩ := hrejected.state
    obtain ⟨c, hc, -, hposition⟩ := Run.exists_course hr
    have hs : s ∈ t.states := Course.within_through hc s (hposition.trans hp)
    have hrule := hrejected.rejects.mem
    exact ⟨hs, hrule, Template.fromLine_of_parse h hs hrule, rfl⟩

/-- A rule with a message rejects the second line, though a rule in front of it matches as well; and where there is no
    second line, a rule without a message rejects the end of the input.  The lines of the rules are counted with the
    comments. -/
theorem extract_eq_rejected_iff_end :
    let source := ("# digits\nValue A (\\d)\n\nStart\n  ^${A} -> Continue.Record\n  # not two\n" ++
      "  ^2 -> Error \"two\"\n  ^$$ -> Error\n").toList
    ∃ t, Template.parse source = .ok t ∧
      extract t "1\n2\n3".toList = .error (.rejected Template.startState 7 2 ['2'] (some "two".toList)) ∧
      extract t "1".toList = .error (.rejected Template.startState 8 2 [] none) ∧
      (∀ state n, extract t "1".toList = .error (.rejected state n 2 [] none) ↔
        ∃ s rule, Rejected t "1".toList 2 [] s rule none ∧ state = s.name ∧ n = rule.line) ∧
      ∀ s rule, Rejected t "1".toList 2 [] s rule none →
        s ∈ t.states ∧ rule ∈ s.rules ∧ rule.FromLine source t.values ∧
        (Failure.rejected s.name rule.line 2 [] none).message =
          s!"Input rejected in state '{Text.str s.name}' by rule at line {rule.line}: {Text.str (reason none)}. " ++
            s!"Input line {2}: '{Text.str []}'" := by
  intro source
  have h : (Template.parse source).toOption.map (fun t => (extract t "1\n2\n3".toList, extract t "1".toList)) =
      some (.error (.rejected Template.startState 7 2 ['2'] (some "two".toList)),
        .error (.rejected Template.startState 8 2 [] none)) := by
    decide +kernel
  obtain ⟨t, ht, hruns⟩ := Template.exists_parse h
  obtain ⟨hsecond, hend⟩ := Prod.mk.inj hruns
  exact ⟨t, ht, hsecond, hend, extract_eq_rejected_iff ht "1".toList 2 [] none⟩

end Readout.Extraction
