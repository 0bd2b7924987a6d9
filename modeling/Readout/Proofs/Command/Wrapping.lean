/-
  The wrapping of a completion pattern, `(?i)^(?:…)$`, around any expression.

  * `Completion.Closes`, `Completion.Trails`: the two ways in which a text breaks out of the wrapping: it closes a group
    that it has not opened, or it ends in a comment;
  * `wrapped` is what the wrapping is read as around a part;
  * `read_wrap`, `exists_of_read_wrap`: the wrapping is read around what can be read by itself, and around nothing else;
  * `accepts_whole`: a matcher is compiled just if its expression is one by itself and within the limits as it stands in
    the wrapping, and then it accepts the commands that the expression matches from end to end;
  * `breaks_out`: an expression that breaks out of the wrapping.
-/
import Readout.Proofs.Command.Expression
import Readout.Proofs.Regex.CaseBlind
import Readout.Proofs.Regex.Meaning

namespace Readout.Command

open Regex (Node)
open Regex.CommandPattern

namespace Completion

/-- Does a parenthesis close a group that the text has not opened?  What stands in front of it can be read by itself,
    but not together with it. -/
def Closes (t : Text) : Prop :=
  ∃ i < t.length, t[i]? = some ')' ∧ (read? {} (t.take i)).isSome ∧ (read? {} (t.take (i + 1))).isNone

instance (t : Text) : Decidable (Closes t) := inferInstanceAs (Decidable (∃ i < t.length, _))

/-- Does the text end in a comment?  It can be read by itself, and with a parenthesis more, which nothing has opened. -/
def Trails (t : Text) : Prop := (read? {} t).isSome ∧ (read? {} (t ++ [')'])).isSome

instance (t : Text) : Decidable (Trails t) := inferInstanceAs (Decidable (_ ∧ _))

example : Closes "a)|(b".toList ∧ ¬ Closes "(a)|(?:b)".toList := by decide +kernel
example : Trails "(?x)a#b".toList ∧ ¬ Trails "a#b".toList := by decide +kernel

end Completion

open Completion

/-! ## What the wrapping is read as -/

/-- What the wrapping is read as around a part. -/
def wrapped (p : Part) : Part :=
  .concat [.flags, .leaf (.anchor .textStart), p.enclosed none, .leaf (.anchor .textEnd)]

theorem depth_wrapped (p : Part) : (wrapped p).depth = p.depth + 2 := by
  simp [wrapped, Part.concat, depthOf, Part.flags, Part.leaf, Part.enclosed]

/-- The wrapping takes two levels. -/
theorem isAdmitted_wrapped (p : Part) :
    (wrapped p).isAdmitted ↔ p.depth + 2 ≤ depthLimit ∧ (wrapped p).node.fits := by
  rw [Part.isAdmitted, depth_wrapped, Bool.and_eq_true, decide_eq_true_eq]

theorem occurs_wrapped (p : Part) (t : Text) : (wrapped p).node.occurs t ↔ p.node.Matches t 0 t.length :=
  Node.occurs_whole_iff

/-- The group of the wrapping, and what stands in front of it. -/
def outside : Opening := ⟨none, ⟨[.leaf (.anchor .textStart), .flags], []⟩, folding⟩

section
variable {s : Text} {p : Part} {r : Reading}

/-- The text that is wrapped is read inside of the group. -/
theorem reads_wrap :
    Reads {} (wrap s) r ↔ Reads (Reading.over { flags := folding } [outside]) (s ++ ")$".toList) r := by
  have hfold : readAct? {} (Regex.Flags.skipSpace {} (wrap s)) =
      some (.switch folding, '^' :: '(' :: '?' :: ':' :: (s ++ ")$".toList)) := rfl
  have hcaret (t : Text) :
      readAct? folding (folding.skipSpace ('^' :: t)) = some (.push (.leaf (.anchor .textStart)), t) := rfl
  have hgroup (t : Text) :
      readAct? folding (folding.skipSpace ('(' :: '?' :: ':' :: t)) = some (.group folding, t) := rfl
  rw [reads_iff_of_act (r := {}) hfold rfl]
  rw [reads_iff_of_act (hcaret _) rfl, reads_iff_of_act (hgroup _) rfl]
  rfl

/-- The parenthesis of the wrapping, and the anchor behind it. -/
theorem reads_end (hopenings : r.openings = []) : ∃ r', Reads (r.over [outside]) ")$".toList r' ∧ r'.openings = [] ∧
    r'.scope.part = wrapped r.scope.part := by
  have hclose : readAct? (r.over [outside]).flags ((r.over [outside]).flags.skipSpace ")$".toList) =
      some (.close, ['$']) := congrArg (readAct? _) (Regex.skipSpace_cons (by decide) rfl ['$'])
  have hperform : (r.over [outside]).perform .close = some { r with
      scope := outside.outer.push (r.scope.part.enclosed none), flags := folding, openings := [] } := by
    simp [Reading.perform, Reading.close?, Reading.over, hopenings, outside]
  have hdollar : readAct? folding (folding.skipSpace ['$']) = some (.push (.leaf (.anchor .textEnd)), []) := rfl
  exact ⟨_, (reads_iff_of_act hclose hperform).2 ((reads_iff_of_act hdollar rfl).2 (reads_nil_iff.2 rfl)), rfl, rfl⟩

/-- **The wrapping is read around what can be read by itself**, unless that ends in a comment. -/
theorem read_wrap (h : read? folding s = some p) (htrails : ¬ Trails s) : read? {} (wrap s) = some (wrapped p) := by
  obtain ⟨r, hreads, hopenings, rfl⟩ := read_eq_some_iff.1 h
  obtain hclose | hcomment := hreads.close
  · obtain ⟨r', hend, hclosed, hpart⟩ := reads_end hopenings
    exact read_eq_some_iff.2 ⟨r', reads_wrap.2 (hclose _ _ _ hend), hclosed, hpart⟩
  · refine absurd ?_ htrails
    have hread : read? folding (s ++ [')']) = some r.scope.part := by
      have hreads' := hcomment [] [] (by simp)
      rw [Reading.over_nil, Reading.over_nil] at hreads'
      exact read_eq_some_iff.2 ⟨r, hreads', hopenings, rfl⟩
    obtain ⟨q, hq, -⟩ := read_withFold h false
    obtain ⟨q', hq', -⟩ := read_withFold hread false
    exact ⟨Option.isSome_of_eq_some hq, Option.isSome_of_eq_some hq'⟩

/-- **The wrapping is read around nothing else**, unless a parenthesis closes its group. -/
theorem exists_of_read_wrap (h : read? {} (wrap s) = some p) (hcloses : ¬ Closes s) :
    ∃ q, read? folding s = some q := by
  obtain ⟨r, hreads, hclosed, rfl⟩ := read_eq_some_iff.1 h
  obtain ⟨u, v, r', hs, hu, hopenings, -, hnot⟩ := (reads_wrap.1 hreads).of_over hclosed
  have hread : read? folding u = some r'.scope.part := read_eq_some_iff.2 ⟨r', hu, hopenings, rfl⟩
  by_cases hsu : u = s
  · exact ⟨_, hsu ▸ hread⟩
  · -- the parenthesis stands in the text
    refine absurd ?_ hcloses
    obtain ⟨w, rfl⟩ : ∃ w, s = u ++ ')' :: w := by
      rcases List.append_eq_append_iff.1 hs with ⟨x, rfl, hx⟩ | ⟨x, rfl, hx⟩
      · rcases x with _ | ⟨c, _ | ⟨d, x⟩⟩
        · exact absurd (List.append_nil s) hsu
        · cases hx
        · simp at hx
      · rcases x with _ | ⟨c, x⟩
        · exact absurd (List.append_nil u).symm hsu
        · exact ⟨x, by rw [← (List.cons.inj hx).1]⟩
    refine ⟨u.length, by simp, by simp, ?_, ?_⟩
    · obtain ⟨q, hq, -⟩ := read_withFold hread false
      rw [List.take_left]
      exact Option.isSome_of_eq_some hq
    · rw [Option.isNone_iff_eq_none, Option.eq_none_iff_forall_ne_some]
      intro q hq
      obtain ⟨q', hq', -⟩ := read_withFold hq true
      obtain ⟨r'', hr'', -, -⟩ := read_eq_some_iff.1 hq'
      refine hnot r'' ?_
      have htake : (u ++ ')' :: w).take (u.length + 1) = u ++ [')'] := by simp [List.take_append]
      rwa [htake] at hr''

/-- What can be read by itself is accepted in the wrapping, within the limits. -/
theorem parse_wrap_of_read (h : read? folding s = some p) (htrails : ¬ Trails s) :
    parse? (wrap s) = if (wrapped p).isAdmitted then some ⟨(wrapped p).node⟩ else none := by
  ext e
  rw [parse_eq_some_iff, read_wrap h htrails]
  simp

/-- What cannot is refused. -/
theorem parse_wrap_eq_none (h : read? folding s = none) (hcloses : ¬ Closes s) : parse? (wrap s) = none := by
  rw [Option.eq_none_iff_forall_ne_some]
  intro e he
  obtain ⟨p, hp, -, -⟩ := parse_eq_some_iff.1 he
  obtain ⟨q, hq⟩ := exists_of_read_wrap hp hcloses
  rw [h] at hq
  cases hq

end

/-! ## Matchers -/

section
variable {pattern : Text} {p : Part}

/-- A matcher is compiled if its expression is within the limits, in the wrapping. -/
theorem isCompiled_of_read (h : read? folding (source pattern) = some p) (htrails : ¬ Trails (source pattern)) :
    (Matcher.ofPattern pattern).isCompiled ↔ p.depth + 2 ≤ depthLimit ∧ (wrapped p).node.fits := by
  rw [← isAdmitted_wrapped, Matcher.isCompiled, Matcher.ofPattern, parse_wrap_of_read h htrails]
  split <;> simp_all

/-- A matcher that is compiled accepts what its expression matches from end to end. -/
theorem isExact_of_read (h : read? folding (source pattern) = some p) (htrails : ¬ Trails (source pattern))
    (command : Text) : (Matcher.ofPattern pattern).isExact command ↔
      (Matcher.ofPattern pattern).isCompiled ∧ p.node.Matches command 0 command.length := by
  rw [isCompiled_of_read h htrails, ← isAdmitted_wrapped, Matcher.isExact, Matcher.ofPattern,
    parse_wrap_of_read h htrails]
  by_cases hadmitted : (wrapped p).isAdmitted
  · rw [if_pos hadmitted]
    exact (occurs_wrapped p command).trans (and_iff_right hadmitted).symm
  · rw [if_neg hadmitted]
    exact iff_of_false Bool.false_ne_true fun h => hadmitted h.1

/-- **The wrapping of a pattern is transparent**, unless its expression breaks out of it.  The matcher is compiled just
    if the expression is one by itself, and within the limits when it is read for both cases, two levels deeper and in
    the wrapping; it accepts the commands that the expression, read for both cases, matches from the first character to
    the last. -/
theorem accepts_whole (hcloses : ¬ Closes (source pattern)) (htrails : ¬ Trails (source pattern)) :
    ((Matcher.ofPattern pattern).isCompiled ↔ ∃ p q, read? {} (source pattern) = some p ∧
      read? folding (source pattern) = some q ∧ p.depth + 2 ≤ depthLimit ∧ (wrapped q).node.fits) ∧
    ∀ command, (Matcher.ofPattern pattern).isExact command ↔ (Matcher.ofPattern pattern).isCompiled ∧
      ∃ p, read? folding (source pattern) = some p ∧ p.node.Matches command 0 command.length := by
  rcases hread : read? folding (source pattern) with _ | q
  · have hregex : (Matcher.ofPattern pattern).regex = none := parse_wrap_eq_none hread hcloses
    simp [Matcher.isCompiled, Matcher.isExact, hregex]
  · obtain ⟨p, hp, halike⟩ := read_withFold hread false
    have hp' : read? {} (source pattern) = some p := hp
    rw [isCompiled_of_read hread htrails, hp', halike.depth]
    refine ⟨by simp, fun command => ?_⟩
    rw [isExact_of_read hread htrails, isCompiled_of_read hread htrails, halike.depth]
    simp

end

/-- An alternative in a group, and one outside; white space, a suffix and an escaped parenthesis. -/
def alternatives : Text := " (?:show|list) x+ |dir[[ectory]] \\)".toList

theorem accepts_whole_alternatives : (Matcher.ofPattern alternatives).isCompiled ∧
    ∀ command, (Matcher.ofPattern alternatives).isExact command ↔
      ∃ p, read? folding (source alternatives) = some p ∧ p.node.Matches command 0 command.length := by
  obtain ⟨hcompiled, hexact⟩ := @accepts_whole alternatives (by decide +kernel) (by decide +kernel)
  have hroom : (Matcher.ofPattern alternatives).isCompiled := by decide +kernel
  exact ⟨hroom, fun command => (hexact command).trans (and_iff_right hroom)⟩

example : (Matcher.ofPattern alternatives).isExact "LIST  xx ".toList := by decide +kernel
example : ¬ (Matcher.ofPattern alternatives).isExact "list xx dir )".toList := by decide +kernel

/-- **What breaks out of the wrapping.**  The first expression is none by itself, but its parentheses pair with those of
    the wrapping, and half of it matches a part of the command; the second one is an expression, but its comment takes
    the end of the wrapping off. -/
theorem breaks_out :
    (parse? (source "a)|(b".toList) = none ∧ (Matcher.ofPattern "a)|(b".toList).isCompiled ∧
      (Matcher.ofPattern "a)|(b".toList).isExact "ax".toList) ∧
    ((parse? (source "(?x)a#b".toList)).isSome ∧ ¬ (Matcher.ofPattern "(?x)a#b".toList).isCompiled) := by
  decide +kernel

end Readout.Command
