/-
  A template that is written is read back.  Its lines say which part they belong to, so that no line of one part is
  taken for another, and each rule gets the number of the line that it is written in.

  * `numbered`: the template with these numbers;
  * `Printable`: what a template must be like to be written;
  * `Reading.readFrom`: lines are read one after the other, `readFrom_values`, `readFrom_rules`, `readFrom_states`:
    what comes of the lines of a part;
  * `Reading.Closes`: where a part ends, a blank line and the end of the template are the same;
  * `parse_print_numbered`: the template is read back.
-/
import Readout.Proofs.Template.Printing

namespace Readout.Template

open Text (EndsSolid)

/-! ## Numbers of lines -/

/-- The rules, the first of which stands in line `n`. -/
def numberRules (n : Nat) : List Rule → List Rule
  | [] => []
  | r :: rs => { r with line := n } :: numberRules (n + 1) rs

/-- The states that are written behind line `n`: each with a blank line in front, and its name above its rules. -/
def numberStates (n : Nat) : List State → List State
  | [] => []
  | s :: ss => ⟨s.name, numberRules (n + 3) s.rules⟩ :: numberStates (n + 2 + s.rules.length) ss

/-- The template with the lines in which its rules are written. -/
def numbered (t : Template) : Template := ⟨t.values, numberStates t.values.length t.states⟩

/-- Numbers change nothing but the lines. -/
theorem mem_numberRules : ∀ {rs : List Rule} {n : Nat} {r' : Rule}, r' ∈ numberRules n rs →
    ∃ r ∈ rs, r' = { r with line := r'.line }
  | r :: rs, n, r', h => by
    rcases List.mem_cons.1 h with rfl | h
    · exact ⟨r, List.mem_cons_self, rfl⟩
    · obtain ⟨s, hs, heq⟩ := mem_numberRules h
      exact ⟨s, List.mem_cons_of_mem _ hs, heq⟩

theorem map_name_numberStates : ∀ (ss : List State) (n : Nat), (numberStates n ss).map (·.name) = ss.map (·.name)
  | [], _ => rfl
  | s :: ss, n => by rw [numberStates, List.map_cons, List.map_cons, map_name_numberStates ss]

theorem mem_numberStates : ∀ {ss : List State} {n : Nat} {s' : State}, s' ∈ numberStates n ss →
    ∃ s ∈ ss, ∃ m, s' = ⟨s.name, numberRules m s.rules⟩
  | s :: ss, n, s', h => by
    rcases List.mem_cons.1 h with rfl | h
    · exact ⟨s, List.mem_cons_self, _, rfl⟩
    · obtain ⟨s, hs, heq⟩ := mem_numberStates h
      exact ⟨s, List.mem_cons_of_mem _ hs, heq⟩

/-! ## Lines that are written -/

/-- The lines of states, with a blank line in front of each. -/
def printStates (ss : List State) : List Text := ss.flatMap fun s => [] :: s.print

/-- The lines of a template. -/
def printLines (t : Template) : List Text := t.values.map Value.print ++ printStates t.states

/-- The number of a rule says where it stands among the lines that are written. -/
theorem getElem?_print_of_mem_numberRules : ∀ {rs : List Rule} {n : Nat} {r : Rule}, r ∈ numberRules n rs →
    ∃ i, (rs.map Rule.print)[i]? = some r.print ∧ r.line = n + i
  | r :: rs, n, r', h => by
    rcases List.mem_cons.1 h with rfl | h
    · exact ⟨0, rfl, rfl⟩
    · obtain ⟨i, hi, hline⟩ := getElem?_print_of_mem_numberRules h
      exact ⟨i + 1, hi, by omega⟩

theorem getElem?_print_of_mem_numberStates : ∀ {ss : List State} {n : Nat} {s : State} {r : Rule},
    s ∈ numberStates n ss → r ∈ s.rules → ∃ i, (printStates ss)[i]? = some r.print ∧ r.line = n + 1 + i
  | s :: ss, n, s', r, hs, hr => by
    have hlines : printStates (s :: ss) = ([] :: s.name :: s.rules.map Rule.print) ++ printStates ss := rfl
    rw [hlines]
    rcases List.mem_cons.1 hs with rfl | hs
    · obtain ⟨i, hi, hline⟩ := getElem?_print_of_mem_numberRules hr
      have hlt := (List.getElem?_eq_some_iff.1 hi).1
      refine ⟨i + 2, ?_, by omega⟩
      rw [List.getElem?_append_left (by simpa using hlt)]
      exact hi
    · obtain ⟨i, hi, hline⟩ := getElem?_print_of_mem_numberStates hs hr
      refine ⟨2 + s.rules.length + i, ?_, by omega⟩
      rw [List.getElem?_append_right (by simp only [List.length_cons, List.length_map]; omega)]
      simp only [List.length_cons, List.length_map]
      rwa [show 2 + s.rules.length + i - (s.rules.length + 1 + 1) = i by omega]

/-! ## Templates that can be written -/

/-- What a template must be like to be written. -/
structure Printable (t : Template) : Prop where
  values_ne_nil : t.values ≠ []
  values : ∀ v ∈ t.values, v.Printable
  header_nodup : t.header.Nodup
  names : ∀ s ∈ t.states, StateName s.name
  names_nodup : (t.states.map (·.name)).Nodup
  start : ∃ s ∈ t.states, s.name = startState
  terminal : ∀ s ∈ t.states, s.name = endState ∨ s.name = eofState → s.rules = []
  targets : ∀ s ∈ t.states, ∀ rule ∈ s.rules, ∀ name, rule.action.target = some name →
    name = endState ∨ name = eofState ∨ ∃ s ∈ t.states, s.name = name
  rules : ∀ s ∈ t.states, ∀ rule ∈ s.rules, rule.Printable t.values

namespace Printable

variable {t : Template}

/-- Every line that is written ends in its last character. -/
theorem of_mem_printLines (h : t.Printable) {l : Text} (hl : l ∈ t.printLines) : '\n' ∉ l ∧ EndsSolid l := by
  rcases List.mem_append.1 hl with hl | hl
  · obtain ⟨v, hv, rfl⟩ := List.mem_map.1 hl
    exact ⟨(h.values v hv).feed_notMem_print, (h.values v hv).endsSolid_print⟩
  · obtain ⟨s, hs, hl⟩ := List.mem_flatMap.1 hl
    rcases List.mem_cons.1 hl with rfl | hl
    · exact ⟨List.not_mem_nil, nofun⟩
    · rcases List.mem_cons.1 hl with rfl | hl
      · have hsolid := isSolid_of_isNameChar (h.names s hs).chars
        exact ⟨hsolid.feed_notMem, hsolid.endsSolid⟩
      · obtain ⟨r, hr, rfl⟩ := List.mem_map.1 hl
        exact ⟨(h.rules s hs r hr).feed_notMem_print, (h.rules s hs r hr).endsSolid_print⟩

theorem lines_print (h : t.Printable) : t.print.lines = t.printLines := by
  have hlines : t.print.lines = t.printLines.map Text.dropReturn :=
    Text.lines_unlines fun l hl => (h.of_mem_printLines hl).1
  rw [hlines, List.map_congr_left fun l hl => Text.dropReturn_eq_self (h.of_mem_printLines hl).2, List.map_id']

end Printable

/-! ## Reading -/

namespace Reading

/-- Reads lines, the first of which is line `n`. -/
def readFrom : Nat → Reading → List Text → Except Fault Reading
  | _, r, [] => .ok r
  | n, r, l :: ls => (r.readLine (n, l)).bind fun q => q.readFrom (n + 1) ls

theorem readFrom_cons {n : Nat} {r q : Reading} {l : Text} (h : r.readLine (n, l) = .ok q) (ls : List Text) :
    r.readFrom n (l :: ls) = q.readFrom (n + 1) ls := by
  rw [readFrom, h]; rfl

theorem readFrom_append : ∀ {ls : List Text} {n : Nat} {r q : Reading}, r.readFrom n ls = .ok q →
    ∀ ms, r.readFrom n (ls ++ ms) = q.readFrom (n + ls.length) ms
  | [], _, _, _, h, ms => by cases h; rfl
  | l :: ls, n, r, q, h, ms => by
    obtain ⟨p, hp, h⟩ := exists_of_bind h
    rw [List.cons_append, readFrom_cons hp, readFrom_append h, List.length_cons, Nat.add_assoc, Nat.add_comm 1]

/-- A template is read from its first line on. -/
theorem foldlM_numberedLines {source : Text} (h : ∀ l ∈ source.lines, EndsSolid l) :
    (source.numberedLines.map fun (n, l) => (n, Text.trimEnd l)).foldlM readLine {} =
      ({} : Reading).readFrom 1 source.lines := by
  have hread : ∀ (ls : List Text) (n : Nat) (r : Reading), (∀ l ∈ ls, EndsSolid l) →
      ((ls.mapIdx fun i l => (i + n, l)).map fun (n, l) => (n, Text.trimEnd l)).foldlM readLine r =
        r.readFrom n ls := by
    intro ls
    induction ls with
    | nil => intro n r _; rfl
    | cons l ls ih =>
      intro n r hls
      rw [List.forall_mem_cons] at hls
      rw [List.mapIdx_cons, List.map_cons, List.foldlM_cons, Nat.zero_add, readFrom]
      simp only [Text.trimEnd_eq_self hls.1, Nat.add_right_comm _ 1 n]
      exact congrArg _ (funext fun q => ih (n + 1) q hls.2)
  exact hread source.lines 1 {} h

/-! ## Values -/

/-- A line that starts with a letter is no comment. -/
theorem isComment_eq_false {line : Text} {c : Char} (h : line.trimStart.head? = some c) (hc : c ≠ '#') :
    isComment line = false := by
  rw [isComment, h]
  simpa using hc

theorem readValue_print {r : Reading} {v : Value} (h : v.Printable) (hnew : ∀ w ∈ r.values, w.name ≠ v.name)
    (n : Nat) : r.readValue n v.print = .ok { r with values := r.values ++ [v] } := by
  have hempty : v.print.isEmpty = false := by rw [Value.print_eq]; rfl
  have hcomment : isComment v.print = false := by
    refine isComment_eq_false (c := 'V') ?_ (by decide)
    rw [Value.print_eq]; rfl
  have hfront : Text.hasPrefix "Value ".toList v.print = true := by rw [Value.print_eq]; rfl
  have hany : r.values.any (·.name == v.name) = false := by simpa using hnew
  unfold readValue
  simp only [hempty, hcomment, hfront, hany, Value.parse_print h, Bool.false_eq_true, if_true, if_false]

/-- **Values that are written are read back.** -/
theorem readFrom_values : ∀ {new old : List Value} {n : Nat}, ((old ++ new).map (·.name)).Nodup →
    (∀ v ∈ new, v.Printable) →
    readFrom (n + 1) ⟨old, [], .values, n⟩ (new.map Value.print) = .ok ⟨old ++ new, [], .values, n + new.length⟩
  | [], old, n, _, _ => by rw [List.append_nil]; rfl
  | v :: new, old, n, hnodup, h => by
    rw [List.forall_mem_cons] at h
    have hnew : ∀ w ∈ old, w.name ≠ v.name := fun w hw heq => by
      rw [List.map_append, List.nodup_append] at hnodup
      exact hnodup.2.2 _ (List.mem_map_of_mem hw) _ List.mem_cons_self heq
    have hline : readLine ⟨old, [], .values, n⟩ (n + 1, v.print) = .ok ⟨old ++ [v], [], .values, n + 1⟩ := by
      have hread := readValue_print (r := ⟨old, [], .values, n⟩) h.1 hnew (n + 1)
      simp only [readLine, hread]
      rfl
    rw [List.append_cons] at hnodup ⊢
    rw [List.map_cons, readFrom_cons hline, readFrom_values hnodup h.2, List.length_cons, Nat.add_assoc,
      Nat.add_comm 1]

/-! ## States -/

theorem readHeader_name {r : Reading} {name : Text} (h : StateName name) (n : Nat) :
    r.readHeader n name = .ok { r with part := .rules n name [] } := by
  have hempty : name.isEmpty = false := by simpa using h.ne_nil
  have hcomment : isComment name = false := by
    obtain ⟨c, t, rfl⟩ := List.exists_cons_of_ne_nil h.ne_nil
    have hblank : Text.startsBlank (c :: t) = false := (isSolid_of_isNameChar h.chars).startsBlank
    refine isComment_eq_false (c := c) (by rw [Text.trimStart_eq_self hblank]; rfl) ?_
    rintro rfl
    exact notMem_of_isNameChar h.chars (by decide) List.mem_cons_self
  unfold readHeader
  simp only [hempty, hcomment, isStateName_iff.2 h, Bool.or_self, Bool.false_eq_true, if_true, if_false]

theorem readRule_print {r : Reading} {rule : Rule} (h : rule.Printable r.values) (start : Nat) (name : Text)
    (rules : List Rule) (n : Nat) : r.readRule start name rules n rule.print =
      .ok { r with part := .rules start name (rules ++ [{ rule with line := n }]) } := by
  have hempty : rule.print.isEmpty = false := by rw [Rule.print_eq]; rfl
  have hcomment : isComment rule.print = false := by
    obtain ⟨u, hu⟩ := h.source_eq
    refine isComment_eq_false (c := '^') ?_ (by decide)
    rw [Rule.print_eq, hu]; rfl
  unfold readRule
  simp only [hempty, hcomment, h.startsRule_print, Rule.parse_print h, Bool.false_eq_true, if_true, if_false]

/-- **Rules that are written are read back**, with their lines. -/
theorem readFrom_rules {vs : List Value} {ss : List State} {start : Nat} {name : Text} :
    ∀ {new old : List Rule} {n : Nat}, (∀ r ∈ new, r.Printable vs) →
    readFrom (n + 1) ⟨vs, ss, .rules start name old, n⟩ (new.map Rule.print) =
      .ok ⟨vs, ss, .rules start name (old ++ numberRules (n + 1) new), n + new.length⟩
  | [], old, n, _ => by rw [numberRules, List.append_nil]; rfl
  | r :: new, old, n, h => by
    rw [List.forall_mem_cons] at h
    have hline : readLine ⟨vs, ss, .rules start name old, n⟩ (n + 1, r.print) =
        .ok ⟨vs, ss, .rules start name (old ++ [{ r with line := n + 1 }]), n + 1⟩ := by
      have hread := readRule_print (r := ⟨vs, ss, .rules start name old, n⟩) h.1 start name old (n + 1)
      simp only [readLine, hread]
      rfl
    have hlength : n + (r :: new).length = n + 1 + new.length := by rw [List.length_cons]; omega
    rw [List.map_cons, readFrom_cons hline, readFrom_rules h.2, numberRules, List.append_assoc, List.singleton_append,
      hlength]

/-- Does a part end here, with these states read?  A blank line ends it, and so does the end of the template. -/
structure Closes (r : Reading) (vs : List Value) (ss : List State) : Prop where
  blank : ∀ n, r.readLine (n, []) = .ok ⟨vs, ss, .between, n⟩
  finish : r.finish = .ok ⟨vs, ss⟩

theorem closes_values {vs : List Value} (h : vs ≠ []) (n : Nat) : Closes ⟨vs, [], .values, n⟩ vs [] := by
  obtain ⟨v, vs, rfl⟩ := List.exists_cons_of_ne_nil h
  exact ⟨fun _ => rfl, rfl⟩

theorem closes_rules {vs : List Value} {ss : List State} {name : Text} (h : ∀ s ∈ ss, s.name ≠ name)
    (start : Nat) (rules : List Rule) (n : Nat) :
    Closes ⟨vs, ss, .rules start name rules, n⟩ vs (ss ++ [⟨name, rules⟩]) := by
  have hadd : addState ⟨vs, ss, .rules start name rules, n⟩ start name rules =
      .ok ⟨vs, ss ++ [⟨name, rules⟩], .between, n⟩ := by
    have hany : ss.any (·.name == name) = false := by simpa using h
    simp only [addState, hany, Bool.false_eq_true, if_false]
  refine ⟨fun m => ?_, ?_⟩
  · simp only [readLine, readRule, List.isEmpty_nil, if_true, hadd]
    rfl
  · simp only [finish, hadd]
    rfl

/-- **States that are written are read back**, behind a part that ends. -/
theorem readFrom_states {vs : List Value} : ∀ {new old : List State} {r : Reading} {n : Nat}, r.Closes vs old →
    ((old ++ new).map (·.name)).Nodup → (∀ s ∈ new, StateName s.name) →
    (∀ s ∈ new, ∀ rule ∈ s.rules, rule.Printable vs) →
    ∃ q, r.readFrom (n + 1) (printStates new) = .ok q ∧ q.Closes vs (old ++ numberStates n new)
  | [], old, r, n, hr, _, _, _ => ⟨r, rfl, by rwa [numberStates, List.append_nil]⟩
  | s :: new, old, r, n, hr, hnodup, hnames, hrules => by
    rw [List.forall_mem_cons] at hnames hrules
    have hlines : printStates (s :: new) = [] :: s.name :: (s.rules.map Rule.print ++ printStates new) := rfl
    have hnew : ∀ w ∈ old, w.name ≠ s.name := fun w hw heq => by
      rw [List.map_append, List.nodup_append] at hnodup
      exact hnodup.2.2 _ (List.mem_map_of_mem hw) _ List.mem_cons_self heq
    have hname : readLine ⟨vs, old, .between, n + 1⟩ (n + 2, s.name) =
        .ok ⟨vs, old, .rules (n + 2) s.name [], n + 2⟩ := by
      have hread := readHeader_name (r := ⟨vs, old, .between, n + 1⟩) hnames.1 (n + 2)
      simp only [readLine, hread]
      rfl
    -- the rules are pending when the lines of the state end: what follows closes it
    have hclose : Closes ⟨vs, old, .rules (n + 2) s.name (numberRules (n + 3) s.rules), n + 2 + s.rules.length⟩ vs
        (old ++ [⟨s.name, numberRules (n + 3) s.rules⟩]) := closes_rules hnew _ _ _
    obtain ⟨q, hq, hcloses⟩ := readFrom_states hclose (by simpa using hnodup) hnames.2 hrules.2
    refine ⟨q, ?_, ?_⟩
    · rw [hlines, readFrom_cons (hr.blank (n + 1)), readFrom_cons hname,
        readFrom_append (readFrom_rules hrules.1), List.length_map, Nat.add_right_comm _ 1]
      exact hq
    · rw [numberStates, List.append_cons]
      exact hcloses

end Reading

/-! ## Templates -/

namespace Printable

variable {t : Template}

/-- Numbers of lines do not matter to what is checked. -/
theorem check_numbered (h : t.Printable) : t.numbered.check = .ok t.numbered := by
  have hnames : t.numbered.states.map (·.name) = t.states.map (·.name) := map_name_numberStates _ _
  have hnodup : (t.numbered.states.map (·.name)).Nodup := hnames ▸ h.names_nodup
  have hstate : ∀ {name}, (∃ s ∈ t.states, s.name = name) → ∃ s ∈ t.numbered.states, s.name = name := by
    intro name hname
    rw [← List.mem_map] at hname ⊢
    rwa [hnames]
  have hterminal : ∀ {name}, name = endState ∨ name = eofState → t.numbered.hasRules name = false := by
    intro name hname
    refine (hasRules_eq_false_iff hnodup).2 fun s' hs' heq => ?_
    obtain ⟨s, hs, m, rfl⟩ := mem_numberStates hs'
    obtain rfl : s.name = name := heq
    rw [h.terminal s hs hname]; rfl
  refine check_eq_ok_iff.2 ⟨rfl, hasState_iff.2 (hstate h.start), hterminal (.inl rfl), hterminal (.inr rfl), ?_⟩
  refine dangling?_eq_none_iff.2 fun s' hs' rule' hrule' name htarget => reaches_iff.2 ?_
  obtain ⟨s, hs, m, rfl⟩ := mem_numberStates hs'
  obtain ⟨rule, hrule, heq⟩ := mem_numberRules hrule'
  rw [heq] at htarget
  exact (h.targets s hs rule hrule name htarget).imp_right (.imp_right hstate)

/-- The lines of a template are read as the template. -/
theorem readFrom_printLines (h : t.Printable) :
    ∃ r, ({} : Reading).readFrom 1 t.printLines = .ok r ∧ r.Closes t.values t.numbered.states := by
  have hvalues : ({} : Reading).readFrom 1 (t.values.map Value.print) =
      .ok ⟨[] ++ t.values, [], .values, 0 + t.values.length⟩ := Reading.readFrom_values h.header_nodup h.values
  have hnodup : (([] ++ t.states).map State.name).Nodup := h.names_nodup
  obtain ⟨r, hr, hcloses⟩ := Reading.readFrom_states (n := t.values.length)
    (Reading.closes_values h.values_ne_nil (0 + t.values.length)) hnodup h.names h.rules
  refine ⟨r, ?_, hcloses⟩
  rw [printLines, Reading.readFrom_append hvalues, List.length_map, Nat.add_comm 1]
  exact hr

/-- The line of a rule is the one that it is written in. -/
theorem getElem?_lines (h : t.Printable) {s : State} (hs : s ∈ t.numbered.states) {r : Rule} (hr : r ∈ s.rules) :
    ∃ i, t.print.lines[i]? = some r.print ∧ r.line = i + 1 := by
  obtain ⟨i, hi, hline⟩ := getElem?_print_of_mem_numberStates hs hr
  refine ⟨t.values.length + i, ?_, by omega⟩
  rw [h.lines_print, printLines, List.getElem?_append_right (by simp), List.length_map, Nat.add_sub_cancel_left]
  exact hi

end Printable

/-- **A template that is written is read back**, with the lines in which its rules are written. -/
theorem parse_print_numbered {t : Template} (h : t.Printable) :
    parse t.print = .ok t.numbered ∧
      ∀ s ∈ t.numbered.states, ∀ r ∈ s.rules, ∃ i, t.print.lines[i]? = some r.print ∧ r.line = i + 1 := by
  refine ⟨?_, fun s hs r hr => h.getElem?_lines hs hr⟩
  have hsolid : ∀ l ∈ t.print.lines, EndsSolid l := by
    rw [h.lines_print]
    exact fun l hl => (h.of_mem_printLines hl).2
  obtain ⟨r, hread, hcloses⟩ := h.readFrom_printLines
  unfold parse
  rw [Reading.foldlM_numberedLines hsolid, h.lines_print, hread]
  change (r.finish.bind check) = _
  rw [hcloses.finish]
  exact h.check_numbered

/-- A message with an arrow, a pattern with another one, and a state that is reached over the first rule. -/
def arrows : Template :=
  let values : List Value :=
    [⟨"From".toList, "(\\S+)".toList, [.required, .filldown]⟩, ⟨"To_2".toList, "(-> \\S+, )".toList, []⟩]
  ⟨values,
    [⟨startState,
      [Rule.ofSource values "^${From} -> $To_2$$".toList ⟨.next, .record, some "État".toList⟩,
        Rule.ofSource values "^(a|b)".toList ⟨.continue_, .clear, none⟩]⟩,
      ⟨"État".toList, [Rule.ofSource values "^.".toList ⟨.error (some "no->arrow".toList), .noRecord, none⟩]⟩,
      ⟨endState, []⟩]⟩

theorem printable_arrows : arrows.Printable where
  values_ne_nil := List.cons_ne_nil _ _
  values := by
    simp only [arrows, List.forall_mem_cons]
    exact ⟨⟨isName_iff.1 (by decide), by decide, rfl, rfl, by decide, by decide +kernel⟩,
      ⟨isName_iff.1 (by decide), by decide, rfl, rfl, by decide, by decide +kernel⟩, nofun⟩
  header_nodup := by decide
  names := by
    simp only [arrows, List.forall_mem_cons]
    exact ⟨isStateName_iff.1 (by decide), isStateName_iff.1 (by decide), isStateName_iff.1 (by decide), nofun⟩
  names_nodup := by decide
  start := ⟨_, List.mem_cons_self, rfl⟩
  terminal := by decide +kernel
  targets := by
    simp only [arrows, List.forall_mem_cons]
    refine ⟨⟨?_, nofun, nofun⟩, ⟨nofun, nofun⟩, nofun, nofun⟩
    rintro _ ⟨⟩
    exact .inr (.inr ⟨_, List.mem_cons_of_mem _ List.mem_cons_self, rfl⟩)
  rules := by
    simp only [arrows, List.forall_mem_cons]
    refine ⟨⟨?_, ?_, nofun⟩, ⟨?_, nofun⟩, nofun, nofun⟩
    · refine Rule.printable_ofSource rfl (by decide) (by decide) (by decide +kernel) ⟨?_, fun h => absurd rfl h, nofun⟩
      rintro _ ⟨⟩
      exact ⟨by decide, List.all_eq_true.1 (by decide)⟩
    · exact Rule.printable_ofSource rfl (by decide) (by decide) (by decide +kernel) ⟨nofun, fun _ => rfl, nofun⟩
    · refine Rule.printable_ofSource rfl (by decide) (by decide) (by decide +kernel) ⟨nofun, fun _ => rfl, ?_⟩
      rintro _ ⟨⟩
      have hsolid : ∀ c ∈ "no->arrow".toList, !Unicode.isSpace c := List.all_eq_true.1 (by decide)
      refine ⟨by decide, by decide, fun c hc harrow => ?_⟩
      have hmem := hsolid c (harrow.subset List.mem_cons_self)
      rw [hc] at hmem
      cases hmem

theorem parse_print_numbered_arrows : arrows.Printable ∧ parse arrows.print = .ok arrows.numbered ∧
    ∀ s ∈ arrows.numbered.states, ∀ r ∈ s.rules, ∃ i, arrows.print.lines[i]? = some r.print ∧ r.line = i + 1 :=
  ⟨printable_arrows, parse_print_numbered printable_arrows⟩

end Readout.Template
