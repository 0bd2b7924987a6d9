/-
  Templates that are accepted are valid.  Names are checked where they stand, an action where it is read, and the
  states that are gone to at the end; what a template can be relied on to be is put together here.

  * `ProperName` says what a name is, `Rule.Valid` what a rule is, and `Rule.FromLine` which line it comes from;
  * `Reading.induction`: what every line keeps holds behind all lines, `step_of_finish`: the end of a template is read
    as a blank line;
  * `Reading.ValuesValid`, `Reading.NamesValid` and `Reading.RulesPlaced` are kept by every line;
  * `check_eq_ok_iff`: what is checked at the end;
  * `valid_of_parse`: a template that is accepted is valid.
-/
import Mathlib.Data.List.Induction
import Mathlib.Data.List.Nodup
import Readout.Proofs.Template.Anchoring

namespace Readout.Template

/-! ## Names -/

/-- A name: word characters, at least one, but not too many bytes. -/
structure ProperName (t : Text) : Prop where
  ne_nil : t ≠ []
  chars : ∀ c ∈ t, isNameChar c
  bytes : Text.bytes t ≤ 48

theorem isName_iff {t : Text} : isName t ↔ ProperName t := by
  unfold isName isWord
  simp only [Bool.and_eq_true, Bool.not_eq_true', List.isEmpty_eq_false_iff, List.all_eq_true, decide_eq_true_eq]
  exact ⟨fun ⟨⟨hne, hchars⟩, hbytes⟩ => ⟨hne, hchars, hbytes⟩, fun h => ⟨⟨h.ne_nil, h.chars⟩, h.bytes⟩⟩

/-- The name of a state is a name, and no keyword. -/
structure StateName (t : Text) : Prop extends ProperName t where
  ne_lineOp : ∀ op : LineOp, t ≠ op.keyword
  ne_recordOp : ∀ op : RecordOp, t ≠ op.keyword

/-- The operation without the message of an error. -/
def LineOp.bare : LineOp → LineOp
  | .error _ => .error none
  | op => op

theorem LineOp.ofKeyword?_keyword (op : LineOp) : LineOp.ofKeyword? op.keyword = some op.bare := by
  rcases op with _ | _ | _ <;> rfl

theorem RecordOp.ofKeyword?_keyword (op : RecordOp) : RecordOp.ofKeyword? op.keyword = some op := by
  cases op <;> rfl

theorem isReserved_eq_false_iff {t : Text} :
    isReserved t = false ↔ (∀ op : LineOp, t ≠ op.keyword) ∧ ∀ op : RecordOp, t ≠ op.keyword := by
  constructor
  · intro h
    refine ⟨?_, ?_⟩ <;> rintro op rfl
    · rw [isReserved, op.ofKeyword?_keyword, Option.isSome_some, Bool.true_or] at h; cases h
    · rw [isReserved, op.ofKeyword?_keyword, Option.isSome_some, Bool.or_true] at h; cases h
  · rintro ⟨hline, hrecord⟩
    rw [isReserved, Bool.or_eq_false_iff, LineOp.ofKeyword?, RecordOp.ofKeyword?, Option.isSome_eq_false_iff,
      Option.isSome_eq_false_iff, Option.isNone_iff_eq_none, Option.isNone_iff_eq_none, List.find?_eq_none,
      List.find?_eq_none]
    exact ⟨fun op _ h => hline op (beq_iff_eq.1 h).symm, fun op _ h => hrecord op (beq_iff_eq.1 h).symm⟩

theorem isStateName_iff {t : Text} : isStateName t ↔ StateName t := by
  rw [isStateName, Bool.and_eq_true, Bool.not_eq_true', isName_iff, isReserved_eq_false_iff]
  exact ⟨fun ⟨hname, hline, hrecord⟩ => ⟨hname, hline, hrecord⟩,
    fun h => ⟨h.toProperName, h.ne_lineOp, h.ne_recordOp⟩⟩

/-! ## Values -/

namespace Value

/-- Takes in the next option. -/
def addOption (os : List ValueOption) (piece : Text) : Except Fault (List ValueOption) :=
  match ValueOption.ofKeyword? piece with
  | none => .error (.unknownOption piece)
  | some o => if os.contains o then .error (.duplicateOption o) else .ok (os ++ [o])

theorem parseOptions_eq (t : Text) :
    parseOptions t = ((Text.pieces ',' t).filter (!·.isEmpty)).foldlM addOption [] := rfl

theorem nodup_of_addOption {os os' : List ValueOption} {piece : Text} (hos : os.Nodup)
    (h : addOption os piece = .ok os') : os'.Nodup := by
  unfold addOption at h
  split at h
  · cases h
  · rename_i o _
    split at h
    · cases h
    · rename_i hnew
      cases h
      rw [← List.concat_eq_append]
      exact hos.concat (by simpa using hnew)

/-- No option is repeated. -/
theorem nodup_of_foldlM : ∀ {pieces : List Text} {os os' : List ValueOption}, os.Nodup →
    pieces.foldlM addOption os = .ok os' → os'.Nodup
  | [], _, _, hos, h => by cases h; exact hos
  | piece :: pieces, _, _, hos, h => by
    rw [List.foldlM_cons] at h
    obtain ⟨read, hread, h⟩ := exists_of_bind h
    exact nodup_of_foldlM (nodup_of_addOption hos hread) h

/-- What is checked about a declaration that is read. -/
theorem checks_of_parse {line : Text} {v : Value} (h : parse line = .ok v) :
    isName v.name ∧ (v.pattern.head? = some '(' ∧ v.pattern.getLast? = some ')') ∧
      (Regex.LinePattern.parse? v.pattern).isSome ∧ ∃ rest options, "Value".toList.isPrefixOf? line.trim = some rest ∧
        split (Text.trimStart rest) = (options, v.name, v.pattern) ∧ parseOptions options = .ok v.options := by
  unfold parse at h
  split at h
  · cases h
  · rename_i rest hrest
    split at h
    · cases h
    · rcases hsplit : split (Text.trimStart rest) with ⟨options, name, pattern⟩
      rw [hsplit] at h
      simp only at h
      split at h
      · cases h
      · split at h
        · cases h
        · rename_i hname
          split at h
          · cases h
          · rename_i henclosed
            split at h
            · cases h
            · rename_i hcompiles
              rcases hos : parseOptions options with e | os
              · rw [hos] at h; cases h
              · rw [hos] at h; cases h
                refine ⟨by simpa using hname, by simpa using henclosed, ?_, rest, options, hrest, hsplit, hos⟩
                simpa [Option.isSome_iff_ne_none] using hcompiles

theorem proper_of_parse {line : Text} {v : Value} (h : parse line = .ok v) :
    ProperName v.name ∧ v.options.Nodup := by
  obtain ⟨hname, -, -, -, options, -, -, hos⟩ := checks_of_parse h
  exact ⟨isName_iff.1 hname, nodup_of_foldlM List.nodup_nil hos⟩

end Value

/-! ## Rules -/

namespace Action

theorem target_of_parseOps {t argument : Text} {a : Action} (h : parseOps t = .ok (a, argument)) :
    a.target = none := by
  unfold parseOps at h
  simp only at h
  split at h
  · split at h <;> cases h; rfl
  · split at h
    · cases h; rfl
    · cases h; rfl
    · split at h <;> cases h; rfl

/-- Only an action that goes on with the next line goes to another state. -/
theorem target_of_withArgument {argument : Text} {a b : Action} (ha : a.target = none)
    (h : a.withArgument argument = .ok b) (hb : b.line ≠ .next) : b.target = none := by
  unfold withArgument at h
  split at h
  · cases h; exact ha
  · split at h
    · cases h; exact ha
    · split at h <;> cases h
    · rename_i hline
      split at h <;> cases h
      exact absurd hline hb

theorem target_of_parse {t : Text} {a : Action} (h : parse t = .ok a) (hline : a.line ≠ .next) :
    a.target = none := by
  unfold parse at h
  simp only at h
  split at h
  · cases h; rfl
  · obtain ⟨⟨b, argument⟩, hops, harg⟩ := exists_of_bind h
    exact target_of_withArgument (target_of_parseOps hops) harg hline

end Action

namespace Rule

variable {values : List Value} {r : Rule}

/-- What a rule can be relied on to be, in a template that declares `values`. -/
structure Valid (values : List Value) (r : Rule) : Prop where
  caret : r.source.head? = some '^'
  target : r.action.line ≠ .next → r.action.target = none
  ascending : r.bindings.Pairwise (· < ·)
  bindings : ∀ i, i ∈ r.bindings ↔ ∃ v, values[i]? = some v ∧ v.name ∈ r.regex.names.map (·.1)

theorem mem_bindingsOf {p : Regex.LinePattern} {i : Nat} :
    i ∈ bindingsOf values p ↔ ∃ v, values[i]? = some v ∧ v.name ∈ p.names.map (·.1) := by
  rw [bindingsOf, List.mem_filter, List.mem_range]
  rcases hv : values[i]? with _ | v
  · simp
  · have hi : i < values.length := (List.getElem?_eq_some_iff.1 hv).1
    simp [hi, Regex.LinePattern.group?]

theorem Written.valid {n : Nat} {line : Text} (h : r.Written values n line) (hline : startsRule line) :
    r.Valid values where
  caret := by
    obtain ⟨u, hu⟩ := source_caret hline h
    rw [hu]; rfl
  target hnext := by
    rcases h.parts with ⟨text, -, haction⟩ | ⟨-, -, haction⟩
    · exact Action.target_of_parse haction hnext
    · rw [haction]
  ascending := by rw [h.bindings]; exact List.pairwise_lt_range.filter _
  bindings i := by rw [h.bindings]; exact mem_bindingsOf

/-- The rule is what is read in the line of a source that has its number. -/
def FromLine (source : Text) (values : List Value) (r : Rule) : Prop :=
  ∃ i line, source.lines[i]? = some line ∧ r.line = i + 1 ∧ startsRule line.trimEnd ∧
    parse values r.line line.trimEnd = .ok r

end Rule

/-! ## Lines -/

theorem pairwise_numberedLines (source : Text) : source.numberedLines.Pairwise (·.1 < ·.1) := by
  refine List.pairwise_iff_getElem.2 fun i j hi hj hij => ?_
  simp only [Text.numberedLines, List.getElem_mapIdx]
  omega

theorem mem_numberedLines {source line : Text} {n : Nat} :
    (n, line) ∈ source.numberedLines ↔ ∃ i, source.lines[i]? = some line ∧ n = i + 1 := by
  simp only [Text.numberedLines, List.mem_mapIdx, Prod.mk.injEq, List.getElem?_eq_some_iff]
  constructor
  · rintro ⟨i, hi, rfl, rfl⟩; exact ⟨i, ⟨hi, rfl⟩, rfl⟩
  · rintro ⟨i, ⟨hi, rfl⟩, rfl⟩; exact ⟨i, hi, rfl, rfl⟩

/-- The rules of the state that is being read. -/
def Section.current : Section → List Rule
  | .rules _ _ rs => rs
  | _ => []

namespace Reading

/-- The rules that have been read. -/
def rules (r : Reading) : List Rule := r.states.flatMap (·.rules) ++ r.part.current

/-- **What holds of nothing, and is kept by every line, holds of what is read.** -/
theorem induction {P : List (Nat × Text) → Reading → Prop} (hnil : P [] {})
    (hstep : ∀ {ls r n line q}, P ls r → r.Step n line q → P (ls ++ [(n, line)]) { q with last := n })
    {ls : List (Nat × Text)} {r : Reading} (h : ls.foldlM readLine {} = .ok r) : P ls r := by
  induction ls using List.reverseRecOn generalizing r with
  | nil => cases h; exact hnil
  | append_singleton ls l ih =>
    rw [List.foldlM_append] at h
    obtain ⟨r', hr', h⟩ := exists_of_bind h
    rw [List.foldlM_cons] at h
    obtain ⟨q, hq, ⟨⟩⟩ := exists_of_bind h
    obtain ⟨q, hstep', rfl⟩ := step_of_readLine hq
    exact hstep (ih hr') hstep'

variable {r r' : Reading} {n : Nat} {line : Text} {ls : List (Nat × Text)}

/-- **The end of a template is read as a blank line.** -/
theorem step_of_finish {t : Template} (h : r.finish = .ok t) (n : Nat) :
    ∃ q, r.Step n [] q ∧ q.part = .between ∧ t = ⟨q.values, q.states⟩ := by
  unfold finish at h
  split at h
  · rename_i hp
    split at h
    · cases h
    · rename_i hvalues
      cases h
      exact ⟨_, .endValues hp rfl fun hnil => hvalues (List.isEmpty_iff.2 hnil), rfl, rfl⟩
  · rename_i hp
    cases h
    exact ⟨r, .skip (.inr ⟨rfl, hp⟩), hp, rfl⟩
  · rename_i start name rules hp
    rcases hadd : r.addState start name rules with e | q
    · rw [hadd] at h; cases h
    · rw [hadd] at h; cases h
      obtain ⟨hnew, rfl⟩ := eq_of_addState hadd
      exact ⟨_, .endState hp rfl hnew, rfl, rfl⟩

/-! ## Values and names -/

/-- Are the values valid, and is there one behind their section? -/
structure ValuesValid (r : Reading) : Prop where
  proper : ∀ v ∈ r.values, ProperName v.name ∧ v.options.Nodup
  nodup : (r.values.map (·.name)).Nodup
  ne_nil : r.part ≠ .values → r.values ≠ []

theorem ValuesValid.step (hr : r.ValuesValid) (h : r.Step n line r') : r'.ValuesValid := by
  cases h with
  | skip => exact hr
  | @value v hp hv hnew =>
    refine ⟨?_, ?_, fun _ => List.append_ne_nil_of_right_ne_nil _ (List.cons_ne_nil _ _)⟩
    · rw [List.forall_mem_append, List.forall_mem_singleton]
      exact ⟨hr.proper, Value.proper_of_parse hv⟩
    · rw [List.map_append, List.map_singleton, ← List.concat_eq_append]
      exact hr.nodup.concat (by simpa using hnew)
  | endValues hp hline hne => exact ⟨hr.proper, hr.nodup, fun _ => hne⟩
  | header hp | rule hp | endState hp => exact ⟨hr.proper, hr.nodup, fun _ => hr.ne_nil (by rw [hp]; nofun)⟩

/-- Are the names of the states valid, that of the one that is being read included? -/
structure NamesValid (r : Reading) : Prop where
  proper : ∀ s ∈ r.states, StateName s.name
  nodup : (r.states.map (·.name)).Nodup
  current : ∀ start name rules, r.part = .rules start name rules → StateName name

theorem NamesValid.step (hr : r.NamesValid) (h : r.Step n line r') : r'.NamesValid := by
  cases h with
  | skip => exact hr
  | value => exact ⟨hr.proper, hr.nodup, hr.current⟩
  | endValues => exact ⟨hr.proper, hr.nodup, nofun⟩
  | header hp hname => exact ⟨hr.proper, hr.nodup, by rintro _ _ _ ⟨⟩; exact isStateName_iff.1 hname⟩
  | @rule start name rules rule hp =>
    exact ⟨hr.proper, hr.nodup, by rintro _ _ _ ⟨⟩; exact hr.current start name rules hp⟩
  | @endState start name rules hp _ hnew =>
    refine ⟨?_, ?_, nofun⟩
    · rw [List.forall_mem_append, List.forall_mem_singleton]
      exact ⟨hr.proper, hr.current start name rules hp⟩
    · rw [List.map_append, List.map_singleton, ← List.concat_eq_append]
      exact hr.nodup.concat (by simpa using hnew)

/-! ## Rules and their lines -/

/-- Are the rules in the order of their lines, and does each of them come from its line? -/
structure RulesPlaced (ls : List (Nat × Text)) (r : Reading) : Prop where
  early : r.part = .values → r.rules = []
  placed : ∀ rule ∈ r.rules, ∃ line, (rule.line, line) ∈ ls ∧ startsRule line ∧
    Rule.parse r.values rule.line line = .ok rule
  ascending : r.rules.Pairwise (·.line < ·.line)

theorem RulesPlaced.of_rules_eq (hr : r.RulesPlaced ls) (hrules : r'.rules = r.rules) (hvalues : r'.values = r.values)
    (hpart : r'.part = .values → r.part = .values) (l : Nat × Text) : r'.RulesPlaced (ls ++ [l]) where
  early hp := hrules.trans (hr.early (hpart hp))
  placed rule hrule := by
    rw [hrules] at hrule
    obtain ⟨line, hmem, h⟩ := hr.placed rule hrule
    exact ⟨line, List.mem_append_left _ hmem, hvalues ▸ h⟩
  ascending := hrules ▸ hr.ascending

theorem RulesPlaced.step (hr : r.RulesPlaced ls) (hn : ∀ l ∈ ls, l.1 < n) (h : r.Step n line r') :
    r'.RulesPlaced (ls ++ [(n, line)]) := by
  cases h with
  | skip => exact hr.of_rules_eq rfl rfl id _
  | @value v hp hv hnew =>
    -- the values change, but no rule has been read
    have hnone : Reading.rules { r with values := r.values ++ [v] } = [] := hr.early hp
    refine ⟨fun _ => hnone, ?_, ?_⟩
    · rw [hnone]; exact fun _ h => absurd h List.not_mem_nil
    · rw [hnone]; exact .nil
  | endValues hp => exact hr.of_rules_eq (by simp only [rules, hp, Section.current]) (by rfl) (by nofun) _
  | header hp => exact hr.of_rules_eq (by simp only [rules, hp, Section.current]) (by rfl) (by nofun) _
  | endState hp =>
    refine hr.of_rules_eq ?_ (by rfl) (by nofun) _
    simp only [rules, hp, Section.current, List.flatMap_append, List.flatMap_singleton, List.append_nil]
  | @rule start name rules rule hp hstart hrule =>
    have hline : rule.line = n := (Rule.written_of_parse hrule).line
    have hadd : Reading.rules { r with part := .rules start name (rules ++ [rule]) } = r.rules ++ [rule] := by
      simp only [Reading.rules, hp, Section.current, List.append_assoc]
    refine ⟨nofun, ?_, ?_⟩
    · rw [hadd, List.forall_mem_append, List.forall_mem_singleton]
      refine ⟨fun old hold => ?_, line, by simp [hline], hstart, hline ▸ hrule⟩
      obtain ⟨l, hmem, h⟩ := hr.placed old hold
      exact ⟨l, List.mem_append_left _ hmem, h⟩
    · rw [hadd, List.pairwise_append]
      refine ⟨hr.ascending, List.pairwise_singleton _ _, fun old hold new hnew => ?_⟩
      obtain rfl := List.mem_singleton.1 hnew
      obtain ⟨l, hmem, -⟩ := hr.placed old hold
      rw [hline]; exact hn _ hmem

/-! ## Runs -/

theorem valuesValid_of_foldlM (h : ls.foldlM readLine {} = .ok r) : r.ValuesValid := by
  refine induction (P := fun _ r => r.ValuesValid) ⟨nofun, List.nodup_nil, fun h => absurd rfl h⟩ ?_ h
  intro ls r n line q hr hstep
  have hq := hr.step hstep
  exact ⟨hq.proper, hq.nodup, hq.ne_nil⟩

theorem namesValid_of_foldlM (h : ls.foldlM readLine {} = .ok r) : r.NamesValid := by
  refine induction (P := fun _ r => r.NamesValid) ⟨nofun, List.nodup_nil, nofun⟩ ?_ h
  intro ls r n line q hr hstep
  have hq := hr.step hstep
  exact ⟨hq.proper, hq.nodup, hq.current⟩

theorem rulesPlaced_of_foldlM (hls : ls.Pairwise (·.1 < ·.1)) (h : ls.foldlM readLine {} = .ok r) :
    r.RulesPlaced ls := by
  refine induction (P := fun ls r => ls.Pairwise (·.1 < ·.1) → r.RulesPlaced ls)
    (fun _ => ⟨fun _ => rfl, fun _ h => absurd h List.not_mem_nil, .nil⟩) ?_ h hls
  intro ls r n line q hr hstep hls
  rw [List.pairwise_append] at hls
  have hq := (hr hls.1).step (fun l hl => hls.2.2 l hl _ (List.mem_singleton_self _)) hstep
  exact ⟨hq.early, hq.placed, hq.ascending⟩

end Reading

/-! ## Checks -/

section
variable {t : Template}

theorem hasState_iff {name : Text} : t.hasState name ↔ ∃ s ∈ t.states, s.name = name := by
  simp [hasState, state?]

theorem reaches_iff {name : Text} :
    t.reaches name ↔ name = endState ∨ name = eofState ∨ ∃ s ∈ t.states, s.name = name := by
  rw [reaches, Bool.or_eq_true, Bool.or_eq_true, beq_iff_eq, beq_iff_eq, hasState_iff, or_assoc]

theorem dangling?_eq_none_iff : t.dangling? = none ↔
    ∀ s ∈ t.states, ∀ rule ∈ s.rules, ∀ name, rule.action.target = some name → t.reaches name := by
  refine ⟨fun h s hs rule hrule name => reaches_of_dangling? h hs hrule, fun h => ?_⟩
  refine List.findSome?_eq_none_iff.2 fun s hs => List.findSome?_eq_none_iff.2 fun rule hrule => ?_
  rcases htarget : rule.action.target with _ | name
  · rfl
  · simp only [h s hs rule hrule name htarget, if_true]

/-- The state of a name is the only one. -/
theorem state?_of_mem (hnodup : (t.states.map (·.name)).Nodup) {s : State} (hs : s ∈ t.states) :
    t.state? s.name = some s := by
  unfold state?
  rcases hfind : t.states.find? (·.name == s.name) with _ | s'
  · exact absurd (beq_self_eq_true s.name) (List.find?_eq_none.1 hfind s hs)
  · have hname : s'.name = s.name := by simpa using List.find?_some hfind
    rw [hfind, List.inj_on_of_nodup_map hnodup (List.mem_of_find?_eq_some hfind) hs hname]

theorem hasRules_eq_false_iff (hnodup : (t.states.map (·.name)).Nodup) {name : Text} :
    t.hasRules name = false ↔ ∀ s ∈ t.states, s.name = name → s.rules = [] := by
  constructor
  · rintro h s hs rfl
    rw [hasRules, state?_of_mem hnodup hs, Option.any_some, Bool.not_eq_false', List.isEmpty_iff] at h
    exact h
  · intro h
    rw [hasRules, Option.any_eq_false]
    intro s hs
    have hname : s.name = name := by simpa using List.find?_some hs
    simp [h s (List.mem_of_find?_eq_some hs) hname]

/-- **What is checked at the end.** -/
theorem check_eq_ok_iff {q : Template} : q.check = .ok t ↔
    q = t ∧ t.hasState startState ∧ t.hasRules endState = false ∧ t.hasRules eofState = false ∧
      t.dangling? = none := by
  unfold check
  constructor
  · intro h
    split at h
    · cases h
    · split at h
      · cases h
      · split at h
        · cases h
        · split at h
          · cases h
          · cases h
            simp_all
  · rintro ⟨rfl, hstart, hend, heof, hdangling⟩
    simp [hstart, hend, heof, hdangling]

/-! ## Validity -/

/-- What a template from a source can be relied on to be. -/
structure Valid (source : Text) (t : Template) : Prop where
  values_ne_nil : t.values ≠ []
  values : ∀ v ∈ t.values, ProperName v.name ∧ v.options.Nodup
  header_nodup : t.header.Nodup
  names : ∀ s ∈ t.states, StateName s.name
  names_nodup : (t.states.map (·.name)).Nodup
  start : ∃ s ∈ t.states, s.name = startState
  terminal : ∀ s ∈ t.states, s.name = endState ∨ s.name = eofState → s.rules = []
  targets : ∀ s ∈ t.states, ∀ rule ∈ s.rules, ∀ name, rule.action.target = some name →
    name = endState ∨ name = eofState ∨ ∃ s ∈ t.states, s.name = name
  rules : ∀ s ∈ t.states, ∀ rule ∈ s.rules, rule.Valid t.values ∧ rule.FromLine source t.values
  ascending : (t.states.flatMap (·.rules)).Pairwise (·.line < ·.line)

/-- A rule that has been read comes from its line: the blank line behind the source is none. -/
theorem Reading.RulesPlaced.fromLine {source : Text} {r : Reading} {n : Nat}
    (hr : r.RulesPlaced ((source.numberedLines.map fun (n, l) => (n, Text.trimEnd l)) ++ [(n, [])]))
    {rule : Rule} (hrule : rule ∈ r.rules) : rule.Valid r.values ∧ rule.FromLine source r.values := by
  obtain ⟨line, hmem, hstart, hparse⟩ := hr.placed rule hrule
  refine ⟨(Rule.written_of_parse hparse).valid hstart, ?_⟩
  rcases List.mem_append.1 hmem with hmem | hmem
  · obtain ⟨⟨m, l⟩, hml, heq⟩ := List.mem_map.1 hmem
    obtain ⟨rfl, rfl⟩ := Prod.mk.inj heq
    obtain ⟨i, hi, hm⟩ := mem_numberedLines.1 hml
    exact ⟨i, l, hi, hm, hstart, hparse⟩
  · obtain ⟨-, rfl⟩ := Prod.mk.inj (List.mem_singleton.1 hmem)
    cases hstart

/-- The rules of a template that is accepted come from the lines of its source. -/
theorem fromLine_of_parse {source : Text} (h : parse source = .ok t) {s : State} (hs : s ∈ t.states) {rule : Rule}
    (hrule : rule ∈ s.rules) : rule.FromLine source t.values := by
  unfold parse at h
  obtain ⟨q, hq, hcheck⟩ := exists_of_bind h
  obtain ⟨r, hread, hfinish⟩ := exists_of_bind hq
  obtain ⟨rfl, -⟩ := check_eq_ok_iff.1 hcheck
  have hls : (source.numberedLines.map fun (n, l) => (n, Text.trimEnd l)).Pairwise (·.1 < ·.1) :=
    List.pairwise_map.2 (pairwise_numberedLines source)
  obtain ⟨q, hstep, -, rfl⟩ := Reading.step_of_finish hfinish (source.lines.length + 1)
  have hplaced := (Reading.rulesPlaced_of_foldlM hls hread).step (fun l hl => by
    obtain ⟨⟨m, line⟩, hml, rfl⟩ := List.mem_map.1 hl
    obtain ⟨i, hi, rfl⟩ := mem_numberedLines.1 hml
    have := (List.getElem?_eq_some_iff.1 hi).1
    exact Nat.succ_lt_succ this) hstep
  exact (hplaced.fromLine (List.mem_append_left _ (List.mem_flatMap.2 ⟨s, hs, hrule⟩))).2

/-- **A template that is accepted is valid.** -/
theorem valid_of_parse {source : Text} (h : parse source = .ok t) : Valid source t := by
  unfold parse at h
  obtain ⟨q, hq, hcheck⟩ := exists_of_bind h
  obtain ⟨r, hread, hfinish⟩ := exists_of_bind hq
  obtain ⟨rfl, hstart, hend, heof, hdangling⟩ := check_eq_ok_iff.1 hcheck
  have hls : (source.numberedLines.map fun (n, l) => (n, Text.trimEnd l)).Pairwise (·.1 < ·.1) :=
    List.pairwise_map.2 (pairwise_numberedLines source)
  -- the end is read as a blank line behind all others
  obtain ⟨q, hstep, hpart, rfl⟩ := Reading.step_of_finish hfinish (source.lines.length + 1)
  have hvalues := (Reading.valuesValid_of_foldlM hread).step hstep
  have hnames := (Reading.namesValid_of_foldlM hread).step hstep
  have hrules := (Reading.rulesPlaced_of_foldlM hls hread).step (fun l hl => by
    obtain ⟨⟨m, line⟩, hml, rfl⟩ := List.mem_map.1 hl
    obtain ⟨i, hi, rfl⟩ := mem_numberedLines.1 hml
    have := (List.getElem?_eq_some_iff.1 hi).1
    exact Nat.succ_lt_succ this) hstep
  have hall : q.rules = q.states.flatMap (·.rules) := by
    rw [Reading.rules, hpart, Section.current, List.append_nil]
    nofun
  exact {
    values_ne_nil := hvalues.ne_nil (by rw [hpart]; nofun)
    values := hvalues.proper
    header_nodup := hvalues.nodup
    names := hnames.proper
    names_nodup := hnames.nodup
    start := hasState_iff.1 hstart
    terminal := fun s hs hname => by
      rcases hname with hname | hname
      · exact (hasRules_eq_false_iff hnames.nodup).1 hend s hs hname
      · exact (hasRules_eq_false_iff hnames.nodup).1 heof s hs hname
    targets := fun s hs rule hrule name htarget =>
      reaches_iff.1 (dangling?_eq_none_iff.1 hdangling s hs rule hrule name htarget)
    rules := fun s hs rule hrule => hrules.fromLine (hall ▸ List.mem_flatMap.2 ⟨s, hs, hrule⟩)
    ascending := hall ▸ hrules.ascending }

/-- Comments, two values, and a rule that captures both behind one that captures none. -/
theorem valid_of_parse_states :
    let source := ("# ports\nValue Required,Key PORT (\\S+)\nValue List VLAN (\\d+)\n\nStart\n  ^Port -> Ports\n\n" ++
      "Ports\n # one line each\n ^-+ -> Continue.Record\n ^${PORT} $VLAN$$ -> Record\n\nEOF\n").toList
    ∃ t, parse source = .ok t ∧
      t.states.flatMap (·.rules.map fun r => (r.line, r.bindings)) = [(6, []), (10, []), (11, [0, 1])] ∧
      Valid source t := by
  intro source
  have h : (parse source).toOption.map (fun t => t.states.flatMap (·.rules.map fun r => (r.line, r.bindings))) =
      some [(6, []), (10, []), (11, [0, 1])] := by
    decide +kernel
  obtain ⟨t, ht, hlines⟩ := exists_parse h
  exact ⟨t, ht, hlines, valid_of_parse ht⟩

end

end Readout.Template
