/-
  Where the rules of a template match.  A rule is written with a caret in front of its pattern, and the caret
  is still there when the references to values have been replaced.  It is a part of the pattern like any
  other: it holds for the first alternative only, and a repetition may leave it out.

  * `expanded_caret`: the pattern of a rule has a caret in front;
  * `start_of_match`: a match of a rule begins at the start of the line, but for these two exceptions;
  * `match_behind_start`: an alternative behind the first one matches anywhere.

  A match begins where the search for it started, with the caret: the mark `\K` in a rule takes what stands in front of
  it out of the reported match, but does not move this place.
-/
import Mathlib.Data.List.Basic
import Readout.Proofs.Regex.Caret
import Readout.Proofs.Template.Accepted
import Readout.Proofs.Text.Lines

namespace Readout.Template

/-! ## The caret of a rule -/

theorem trimEnd_caret (t : Text) : Text.trimEnd ('^' :: t) = '^' :: Text.trimEnd t :=
  Text.trimEnd_cons_of_solid (by decide) t

/-- The indent of a rule is white space. -/
theorem trim_of_startsRule {line : Text} (h : startsRule line) : ∃ t, line.trim = '^' :: t := by
  have hindent : ∀ (indent t : Text), indent.all Unicode.isSpace →
      ∃ u, Text.trim (indent ++ '^' :: t) = '^' :: u := by
    intro indent t hblank
    rw [Text.trim, Text.trimStart_append (List.all_eq_true.1 hblank)]
    exact ⟨Text.trimEnd t, trimEnd_caret t⟩
  unfold startsRule Text.hasPrefix at h
  simp only [Bool.or_eq_true, List.isPrefixOf_iff_prefix] at h
  rcases h with (⟨t, rfl⟩ | ⟨t, rfl⟩) | ⟨t, rfl⟩
  · exact hindent [' '] t (by decide)
  · exact hindent [' ', ' '] t (by decide)
  · exact hindent ['\t'] t (by decide)

theorem splitArrow_caret {t source action : Text} (h : Rule.splitArrow? ('^' :: t) = some (source, action)) :
    ∃ u, source = '^' :: u := by
  unfold Rule.splitArrow? Rule.splitArrowFrom? at h
  rcases hsplit : Rule.splitArrowFrom? (Unicode.isSpace '^') t with _ | ⟨pattern, rest⟩
  · -- the caret is no arrow
    rw [hsplit] at h; simp at h
  · rw [hsplit] at h; cases h
    exact ⟨_, trimEnd_caret pattern⟩

theorem substitute_caret {values : List Value} {t expanded : Text}
    (h : substitute values ('^' :: t) = .ok expanded) : ∃ u, expanded = '^' :: u := by
  unfold substitute at h
  rw [List.length_cons, Substitution.substituteFrom, if_neg (by decide)] at h
  rcases hrest : Substitution.substituteFrom values t.length t with e | u
  · rw [hrest] at h; cases h
  · rw [hrest] at h; cases h; exact ⟨u, rfl⟩

/-- A rule is written with a caret in front. -/
theorem source_caret {values : List Value} {n : Nat} {line : Text} {rule : Rule} (hline : startsRule line)
    (h : rule.Written values n line) : ∃ u, rule.source = '^' :: u := by
  obtain ⟨t, ht⟩ := trim_of_startsRule hline
  rcases h.parts with ⟨action, hsplit, -⟩ | ⟨-, hsource, -⟩
  · rw [ht] at hsplit; exact splitArrow_caret hsplit
  · exact ⟨t, hsource.trans ht⟩

/-- **The pattern of a rule has a caret in front.** -/
theorem expanded_caret {values : List Value} {n : Nat} {line : Text} {rule : Rule} (hline : startsRule line)
    (h : rule.Written values n line) : ∃ u, rule.expanded = '^' :: u := by
  obtain ⟨u, hu⟩ := source_caret hline h
  have hexpanded := h.expanded
  rw [hu] at hexpanded
  exact substitute_caret hexpanded

theorem startsWithCaret_of_accepted {t : Template} (ht : Accepted t) {s : State} (hs : s ∈ t.states)
    {rule : Rule} (hrule : rule ∈ s.rules) : rule.regex.node.StartsWithCaret := by
  obtain ⟨n, line, hline, hwritten⟩ := ht.rules s hs rule hrule
  obtain ⟨u, hu⟩ := expanded_caret hline hwritten
  have hregex := hwritten.regex
  rw [hu] at hregex
  exact Regex.LinePattern.startsWithCaret_of_parse hregex

/-! ## Matches -/

/-- **Where a rule matches.**  A match of a rule begins at the start of the line, whatever its groups and the
    patterns of its values are, unless the caret of the rule may be left out, or the rule has alternatives
    outside of its groups and one of them does not hold on to the start.  This is the place from which the whole
    expression matches, in front of any `\K`. -/
theorem start_of_match {source : Text} {t : Template} (h : parse source = .ok t) {s : State} (hs : s ∈ t.states)
    {rule : Rule} (hrule : rule ∈ s.rules) {line : Text} {m : Regex.Match}
    (hm : rule.regex.search line = .ok (some m)) :
    m.start = 0 ∨ rule.regex.node.first.optionalCaret ∨
      ∃ a b, rule.regex.node = .alt a b ∧ ¬ (a.anchored ∧ b.anchored) := by
  rcases startsWithCaret_of_accepted (accepted_of_parse h) hs hrule with hanchored | hcaret | ⟨a, b, hnode⟩
  · exact Or.inl (Regex.LinePattern.start_eq_zero hanchored hm)
  · exact Or.inr (Or.inl hcaret)
  · by_cases hboth : a.anchored ∧ b.anchored
    · have hanchored : rule.regex.node.anchored := by
        rw [hnode, Regex.Node.anchored, hboth.1, hboth.2]; rfl
      exact Or.inl (Regex.LinePattern.start_eq_zero hanchored hm)
    · exact Or.inr (Or.inr ⟨a, b, hnode, hboth⟩)

/-- The rules of a template that is accepted, and where they match a line. -/
theorem exists_match {source line : Text} {ms : List (Except Unit (Option Regex.Match))} {m : Regex.Match}
    (h : (parse source).toOption.map
      (fun t => (t.states.flatMap (·.rules)).map (·.regex.search line)) = some ms)
    (hm : .ok (some m) ∈ ms) :
    ∃ t s rule, parse source = .ok t ∧ s ∈ t.states ∧ rule ∈ s.rules ∧
      rule.regex.search line = .ok (some m) := by
  obtain ⟨t, ht, rfl⟩ := exists_parse h
  obtain ⟨rule, hrule, hsearch⟩ := List.mem_map.1 hm
  obtain ⟨s, hs, hrule⟩ := List.mem_flatMap.1 hrule
  exact ⟨t, s, rule, ht, hs, hrule, hsearch⟩

/-- A value with alternatives, in a group of its own. -/
theorem start_of_match_group :
    ∃ t s rule, parse "Value A (a|b)\n\nStart\n  ^${A}+ -> Record\n".toList = .ok t ∧ s ∈ t.states ∧
      rule ∈ s.rules ∧ rule.regex.search "bac".toList = .ok (some ⟨0, [⟨1, 1, 2⟩, ⟨1, 0, 1⟩]⟩) ∧
      (0 = 0 ∨ rule.regex.node.first.optionalCaret ∨
        ∃ a b, rule.regex.node = .alt a b ∧ ¬ (a.anchored ∧ b.anchored)) := by
  have h : (parse "Value A (a|b)\n\nStart\n  ^${A}+ -> Record\n".toList).toOption.map
      (fun t => (t.states.flatMap (·.rules)).map (·.regex.search "bac".toList)) =
        some [.ok (some ⟨0, [⟨1, 1, 2⟩, ⟨1, 0, 1⟩]⟩)] := by
    decide +kernel
  obtain ⟨t, s, rule, ht, hs, hrule, hm⟩ := exists_match h (List.mem_singleton_self _)
  exact ⟨t, s, rule, ht, hs, hrule, hm, start_of_match ht hs hrule hm⟩

/-- An alternative behind the first one matches anywhere: the caret is not a part of it. -/
theorem match_behind_start :
    ∃ t s rule m, parse "Value A (\\d+)\n\nStart\n  ^x|n${A} -> Record\n".toList = .ok t ∧ s ∈ t.states ∧
      rule ∈ s.rules ∧ rule.regex.search "on5".toList = .ok (some m) ∧ m.start = 1 := by
  have h : (parse "Value A (\\d+)\n\nStart\n  ^x|n${A} -> Record\n".toList).toOption.map
      (fun t => (t.states.flatMap (·.rules)).map (·.regex.search "on5".toList)) =
        some [.ok (some ⟨1, [⟨1, 2, 3⟩]⟩)] := by
    decide +kernel
  obtain ⟨t, s, rule, ht, hs, hrule, hm⟩ := exists_match h (List.mem_singleton_self _)
  exact ⟨t, s, rule, _, ht, hs, hrule, hm, rfl⟩

end Readout.Template
