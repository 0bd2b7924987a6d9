/-
  The group that stands for a value in a rule.

  * `Value.Opens`: what the first parenthesis of a pattern encloses, and what is left behind the one that closes it;
  * `Value.Opens.takenOff`: in a rule, the group of the value takes off exactly that much;
  * `Value.Grouped`: the parenthesis opens something else than a group, or is closed early, or by the last character;
    in the last case the pattern is one group, and so is the group of the value;
  * `grouped_of_parse`: each value that is read is one of these.
-/
import Readout.Proofs.Regex.Grouping
import Readout.Proofs.Template.Validity

namespace Readout.Template.Value

open Regex (Node LinePattern)
open Regex.LinePattern

/-! ## The first parenthesis of a pattern -/

/-- The pattern behind its first parenthesis. -/
def inner (v : Value) : Text := v.pattern.drop 1

/-- The state in which the pattern is read. -/
def start (v : Value) : LinePattern.Reading := .begin v.pattern

/-- The first parenthesis of the pattern encloses `a`, and `rest` is left behind the one that closes it. -/
def Opens (v : Value) (a : Node) (r : LinePattern.Reading) (rest : Text) : Prop :=
  ∃ fuel, closed? (readChoice? fuel 1 v.start.enter v.inner) = some (a, r, rest)

/-- Where the group of the value is read as a part of a rule, it is one group, and `rest` is left to the rule. -/
def TakenOff (v : Value) (r : LinePattern.Reading) (rest : Text) : Prop :=
  ∀ fuel depth q y a q' z, q.flags.ignoreSpace = false → readAtom? fuel depth q (v.group ++ y) = some (a, q', z) →
    z = rest ++ y ∧ q'.flags.ignoreSpace = r.flags.ignoreSpace ∧ ∃ b, a = .group (q.groups + 1) b

variable {v : Value} {a : Node} {r : LinePattern.Reading} {rest t : Text}

theorem nameChars_of_isName (hname : isName v.name) :
    v.name ≠ [] ∧ ∀ c ∈ v.name, Regex.LinePattern.isNameChar c := by
  simp only [isName, isWord, Bool.and_eq_true, Bool.not_eq_true', List.isEmpty_eq_false_iff, List.all_eq_true] at hname
  refine ⟨hname.1.1, fun c hc => ?_⟩
  have hchar := hname.1.2 c hc
  rwa [Template.isNameChar, Bool.or_comm] at hchar

theorem group_eq (v : Value) : v.group = '(' :: '?' :: 'P' :: '<' :: (v.name ++ '>' :: v.inner) := by
  simp [group, inner]

/-- The group of a value is read as what stands behind the first parenthesis of its pattern. -/
theorem readAtom_group (hname : isName v.name) (fuel depth : Nat) (q : LinePattern.Reading) (y : Text) :
    readAtom? (fuel + 2) depth q (v.group ++ y) =
      if depth + 1 < depthLimit then
        inside? fuel (depth + 1) (.group (q.groups + 1)) (q.enterNamed v.name) (v.inner ++ y)
      else none := by
  obtain ⟨hne, hchars⟩ := nameChars_of_isName hname
  have h := readAtom_named hne hchars fuel depth q (v.inner ++ y)
  simpa [group_eq] using h

/-- What is read where the group of a value stands has been read in its parentheses. -/
theorem inside_of_readAtom (hname : isName v.name) {fuel depth : Nat} {q q' : LinePattern.Reading} {y z : Text}
    (h : readAtom? fuel depth q (v.group ++ y) = some (a, q', z)) : ∃ f b,
      closed? (readChoice? f (depth + 1) (q.enterNamed v.name) (v.inner ++ y)) = some (b, q', z) ∧
        a = .group (q.groups + 1) b := by
  rcases fuel with _ | _ | fuel
  · rw [readAtom?] at h; cases h
  · have hremark : ¬ StartsRemark (v.group ++ y) := by
      rintro ⟨t, ht⟩
      rw [group_eq] at ht
      cases ht
    rw [group_eq, List.cons_append] at h hremark
    rw [readAtom_succ, skip_open hremark, Option.bind_some, atomAt?, if_pos rfl, readGroup?, ite_self] at h
    cases h
  · rw [readAtom_group hname] at h
    split at h
    · obtain ⟨⟨b, q₁, z₁⟩, hclosed, h⟩ := Option.map_eq_some_iff.1 h
      cases h; exact ⟨fuel, b, hclosed, rfl⟩
    · cases h

/-- **In a rule, the group of a value takes off what the first parenthesis of the pattern encloses**, and leaves the
    rest of the pattern. -/
theorem Opens.takenOff (h : v.Opens a r rest) (hname : isName v.name) : v.TakenOff r rest := by
  intro fuel depth q y a' q' z hq hread
  obtain ⟨f, b, hclosed', rfl⟩ := inside_of_readAtom hname hread
  obtain ⟨f', hclosed⟩ := h
  obtain ⟨w, hchoice, hclose⟩ := closed_eq_some.1 hclosed
  have halike : v.start.enter.Alike (q.enterNamed v.name) := hq
  obtain ⟨rfl, hq'⟩ := ((going f').choice hchoice).behind_closed hclose halike hclosed'
  exact ⟨rfl, hq', b, rfl⟩

/-- There is one place where the first parenthesis is closed. -/
theorem Opens.rest_unique {a' : Node} {r' : LinePattern.Reading} {rest' : Text} (h : v.Opens a r rest)
    (h' : v.Opens a' r' rest') : rest' = rest := by
  obtain ⟨f, hclosed⟩ := h
  obtain ⟨f', hclosed'⟩ := h'
  obtain ⟨w, hchoice, hclose⟩ := closed_eq_some.1 hclosed
  rw [← List.append_nil v.inner] at hclosed'
  obtain ⟨hrest, -⟩ := ((going f).choice hchoice).behind_closed hclose rfl hclosed'
  rwa [List.append_nil] at hrest

/-! ## Patterns that are read -/

/-- An accepted pattern is a parenthesis with what stands behind it. -/
theorem pattern_eq (hopen : v.pattern.head? = some '(') : v.pattern = '(' :: v.inner := by
  obtain ⟨t, ht⟩ := List.head?_eq_some_iff.1 hopen
  rw [inner, ht]; rfl

/-- Behind its first parenthesis, the pattern has what an accepted pattern has at its end. -/
theorem inner_getLast (hopen : v.pattern.head? = some '(') (hclose : v.pattern.getLast? = some ')') :
    v.inner.getLast? = some ')' := by
  rw [pattern_eq hopen, List.getLast?_cons] at hclose
  rcases hinner : v.inner.getLast? with _ | c
  · rw [hinner] at hclose; cases hclose
  · rw [hinner] at hclose; exact hclose

/-- The first part of a pattern whose first parenthesis opens a group is what this parenthesis encloses. -/
theorem opens_of_readAtom {fuel : Nat} {u : Text} (hopen : v.pattern.head? = some '(')
    (hplain : ∀ t, v.start.skip? v.inner ≠ some ('?' :: t))
    (h : readAtom? (fuel + 7) 0 v.start v.pattern = some (a, r, u)) :
    ∃ b, a = .group 1 b ∧ closed? (readChoice? (fuel + 5) 1 v.start.enter v.inner) = some (b, r, u) := by
  have hremark : ¬ StartsRemark v.pattern := by
    rintro ⟨t, ht⟩
    rw [pattern_eq hopen] at ht
    refine hplain ('#' :: t) ?_
    rw [(List.cons.inj ht).2]
    exact skip_cons (by decide)
  rw [pattern_eq hopen] at h hremark
  have hgroup := h
  rw [readAtom_succ, skip_open hremark, Option.bind_some, atomAt?, if_pos rfl, if_pos (by decide),
    readGroup_succ] at hgroup
  obtain ⟨w, hskip, hgroup⟩ := Option.bind_eq_some_iff.1 hgroup
  cases w with
  | nil => exact absurd hgroup (inside_nil (going _))
  | cons c w =>
    have hc : c ≠ '?' := by rintro rfl; exact hplain w hskip
    rw [readAtom_open hremark hskip hc (by decide)] at h
    obtain ⟨⟨b, q, z⟩, hclosed, h⟩ := Option.map_eq_some_iff.1 h
    cases h
    refine ⟨b, rfl, ?_⟩
    obtain ⟨v', hchoice, hclose⟩ := closed_eq_some.1 hclosed
    exact closed_eq_some.2 ⟨v', readChoice_of_skip hskip hchoice, hclose⟩

/-- A pattern that is accepted starts with a part. -/
theorem firstPart_of_readChoice {fuel : Nat} {x : Node} (hopen : v.pattern.head? = some '(')
    (h : readChoice? (fuel + 10) 0 v.start v.pattern = some (x, r, [])) :
    ∃ b q u, readAtom? (fuel + 7) 0 v.start v.pattern = some (b, q, u) := by
  obtain ⟨bs, hbranches, -⟩ := readChoice_eq_some h
  obtain ⟨as, r₁, t₁, w, hparts, -⟩ := readBranches_eq_some hbranches
  obtain ⟨hnil, -⟩ | ⟨-, b, q, u, -, -, hatom, -⟩ := readParts_eq_some hparts
  · rw [hnil] at hopen; cases hopen
  · exact ⟨b, q, u, hatom⟩

/-! ## Patterns that are one group -/

/-- The texts of patterns are not longer than their groups. -/
theorem length_pattern_le (hopen : v.pattern.head? = some '(') : v.pattern.length ≤ v.group.length := by
  rw [group_eq, pattern_eq hopen]
  simp only [List.length_cons, List.length_append]
  omega

theorem pattern_of_opens {fuel : Nat} {x b : Node} {q : LinePattern.Reading} (hopen : v.pattern.head? = some '(')
    (hread : readChoice? (fuel + 10) 0 v.start v.pattern = some (x, q, []))
    (hatom : readAtom? (fuel + 7) 0 v.start v.pattern = some (.group 1 b, r, [])) : x = .group 1 b ∧ q = r := by
  obtain ⟨bs, hbranches, rfl⟩ := readChoice_eq_some hread
  have hpattern : v.pattern ≠ [] := by rw [pattern_eq hopen]; exact List.cons_ne_nil _ _
  rw [readBranches_of_atom hpattern hatom (by simp)] at hbranches
  cases hbranches; exact ⟨rfl, rfl⟩

/-- If the last character closes the first parenthesis, the group of the value is the same with a name more. -/
theorem readChoice_group {fuel fuel' : Nat} (hname : isName v.name)
    (hopens : closed? (readChoice? fuel 1 v.start.enter v.inner) = some (a, r, [])) (hnumbered : r.numbered = false)
    (hfuel : fuel + 5 ≤ fuel') :
    ∃ bound, readChoice? fuel' 0 (.begin v.group) v.group = some (.group 1 a, r.alias (v.name, 1) bound, []) := by
  obtain ⟨fuel', rfl⟩ := Nat.exists_eq_add_of_le' ((Nat.le_add_left 5 fuel).trans hfuel)
  have hfuel := Nat.le_of_add_le_add_right hfuel
  obtain ⟨w, hchoice, hclose⟩ := closed_eq_some.1 hopens
  let bound := (LinePattern.Reading.begin v.group).bound
  have hnamed := ((going fuel).choice hchoice).named (not_cut_of_close hclose) hnumbered fuel' hfuel (v.name, 1) bound
  have hclosed : closed? (readChoice? fuel' 1 ((LinePattern.Reading.begin v.group).enterNamed v.name) v.inner) =
      some (a, r.alias (v.name, 1) bound, []) := closed_eq_some.2 ⟨w, hnamed, hclose⟩
  have hatom : readAtom? (fuel' + 2) 0 (.begin v.group) v.group =
      some (.group 1 a, r.alias (v.name, 1) bound, []) := by
    have h := readAtom_group hname fuel' 0 (.begin v.group) []
    rw [List.append_nil, List.append_nil, if_pos (by decide), inside?, hclosed] at h
    exact h
  have hgroup : v.group ≠ [] := by rw [group_eq]; exact List.cons_ne_nil _ _
  have hnumbered' : (r.alias (v.name, 1) bound).numbered = false := hnumbered
  have hbranches := readBranches_of_atom hgroup hatom (by simp)
  exact ⟨bound, readChoice_of_branches hnumbered' hbranches⟩

/-! ## Patterns that open something else -/

theorem refused_of_special {t : Text} (hname : isName v.name) (hclose : v.inner.getLast? = some ')')
    (hspecial : v.start.skip? v.inner = some ('?' :: t)) (fuel depth : Nat) {q : LinePattern.Reading}
    (hq : q.flags.ignoreSpace = false) (y : Text) : readAtom? fuel depth q (v.group ++ y) = none := by
  have hcut : ¬ Cut ('?' :: t) := by
    obtain ⟨s, hs⟩ := Reading.suffix_of_skip hspecial
    rw [← hs, List.getLast?_append_of_ne_nil _ (List.cons_ne_nil _ _)] at hclose
    exact not_cut_of_mem (List.mem_of_getLast? hclose) (by decide)
  rw [Option.eq_none_iff_forall_ne_some]
  rintro ⟨a, q', z⟩ h
  obtain ⟨f, b, hclosed, -⟩ := inside_of_readAtom hname h
  obtain ⟨w, hchoice, -⟩ := closed_eq_some.1 hclosed
  have hskip : (q.enterNamed v.name).skip? (v.inner ++ y) = some ('?' :: (t ++ y)) := skip_append hq hcut hspecial
  rw [readChoice_operator hskip] at hchoice
  cases hchoice

/-! ## What an accepted pattern is -/

/-- What the first parenthesis of a pattern is to the rules that refer to the value. -/
inductive Grouped (v : Value) : Prop where
  /-- It opens something else than a group.  No expression and no rule with the group of the value is accepted. -/
  | special {t : Text} (hopens : v.start.skip? v.inner = some ('?' :: t)) (hrefused : parse? v.group = none)
      (hrule : ∀ fuel depth (q : LinePattern.Reading) y, q.flags.ignoreSpace = false →
        readAtom? fuel depth q (v.group ++ y) = none)
  /-- It is closed before the pattern ends.  The rest of the pattern gets among the parts of the rule. -/
  | early {a : Node} {r : LinePattern.Reading} {c : Char} {rest : Text} (hopens : v.Opens a r (c :: rest))
      (htaken : v.TakenOff r (c :: rest))
  /-- It is closed by the last character.  The pattern is one group, and so is the group of the value. -/
  | whole {a : Node} {r : LinePattern.Reading} (hopens : v.Opens a r []) (htaken : v.TakenOff r [])
      (hpattern : parse? v.pattern = some ⟨.group 1 a, r.names⟩)
      (hgroup : r.numbered = false → ∃ p, parse? v.group = some p ∧ p.node = .group 1 a ∧
        ((∀ g, (v.name, g) ∉ r.names) → p.group? v.name = some 1))

/-- **The check on a pattern does not tell whether it is one group**, but the pattern is one of three things to the
    rules. -/
theorem grouped_of_parse {line : Text} (h : Value.parse line = .ok v) : v.Grouped := by
  obtain ⟨hname, ⟨hopen, hlast⟩, haccepted, -⟩ := checks_of_parse h
  by_cases hspecial : ∃ t, v.start.skip? v.inner = some ('?' :: t)
  · obtain ⟨t, hspecial⟩ := hspecial
    have hrefused := refused_of_special hname (inner_getLast hopen hlast) hspecial
    refine .special hspecial (parse_eq_none ?_ ?_) fun fuel depth q y hq => hrefused fuel depth hq y
    · rw [group_eq]; exact List.cons_ne_nil _ _
    · intro fuel depth q hq
      rw [← List.append_nil v.group]
      exact hrefused fuel depth hq []
  obtain ⟨p, hp⟩ := Option.isSome_iff_exists.1 haccepted
  obtain ⟨x, q, hread, hadmissible, rfl⟩ := parse_eq_some hp
  obtain ⟨fuel, hfuel⟩ : ∃ fuel, 8 * (v.pattern.length + 1) = fuel + 10 := by
    refine ⟨8 * v.pattern.length - 2, ?_⟩
    rw [pattern_eq hopen, List.length_cons]; omega
  rw [hfuel] at hread
  obtain ⟨b, r, u, hatom⟩ := firstPart_of_readChoice hopen hread
  obtain ⟨a, rfl, hopens⟩ := opens_of_readAtom hopen (not_exists.1 hspecial) hatom
  have htaken := Opens.takenOff ⟨_, hopens⟩ hname
  cases u with
  | cons c rest => exact .early ⟨_, hopens⟩ htaken
  | nil =>
    obtain ⟨rfl, rfl⟩ := pattern_of_opens hopen hread hatom
    refine .whole ⟨_, hopens⟩ htaken hp fun hnumbered => ?_
    have hfuel' : fuel + 5 + 5 ≤ 8 * (v.group.length + 1) := by
      have hlength := length_pattern_le hopen
      omega
    obtain ⟨bound, hgroup⟩ := readChoice_group hname hopens hnumbered hfuel'
    refine ⟨⟨.group 1 a, q.names ++ [(v.name, 1)]⟩, ?_, rfl, group_append⟩
    rw [parse_of_readChoice hgroup]
    exact if_pos hadmissible

/-- A pattern of nested groups, of which the outer one gets the name. -/
theorem grouped_of_parse_nested : Value.parse "Value A ((a)|(b))".toList =
      .ok { name := "A".toList, pattern := "((a)|(b))".toList } ∧
    Grouped { name := "A".toList, pattern := "((a)|(b))".toList } := by
  have h : Value.parse "Value A ((a)|(b))".toList = .ok { name := "A".toList, pattern := "((a)|(b))".toList } := by
    decide +kernel
  exact ⟨h, grouped_of_parse h⟩

/-- Two groups in a row are accepted as well; only the first one gets the name, and they tear a rule apart. -/
theorem alternatives_leak : ∃ v, Value.parse "Value A (a)|(b)".toList = .ok v ∧
    parse? v.group = some ⟨.alt (.group 1 (.char false 'a')) (.group 2 (.char false 'b')), [("A".toList, 1)]⟩ ∧
    parse? ("x".toList ++ v.group ++ "y".toList) =
      some ⟨.alt (.seq (.char false 'x') (.group 1 (.char false 'a')))
        (.seq (.group 2 (.char false 'b')) (.char false 'y')), [("A".toList, 1)]⟩ := by
  refine ⟨{ name := "A".toList, pattern := "(a)|(b)".toList }, ?_, ?_, ?_⟩
  all_goals decide +kernel

end Readout.Template.Value
