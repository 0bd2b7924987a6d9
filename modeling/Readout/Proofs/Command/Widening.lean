/-
  The white space of a completion pattern, which becomes `\s+` wherever it stands.

  * `widen` is the text with `\s+` for each run of white space, `source_eq_widen`: without suffixes, the expression of a
    pattern is that;
  * `Widenable` tells the texts whose white space stands for itself: it is not quoted, repeated as if it were more than
    itself, counted in braces or skipped, and a bracket expression keeps its characters and is hardly nested deeper;
  * `Widenable.reads_widen`: what such a text is read as becomes wider;
  * `exact_of_matches`: a matcher accepts the commands that such a pattern itself matches;
  * `widening_loses`: a pattern that loses a command.
-/
import Readout.Proofs.Command.Completion
import Readout.Proofs.Command.Wrapping
import Readout.Proofs.Regex.Wider

namespace Readout.Command

open Regex (Node CharSet Flags Element)
open Regex.CommandPattern
open Unicode (isSpace)

/-! ## The text of the expression -/

/-- The text with `\s+` for each run of white space; is there white space in front of it, which belongs to the same
    run? -/
def widenFrom : Bool → Text → Text
  | _, [] => []
  | behind, c :: t =>
    if isSpace c then if behind then widenFrom true t else "\\s+".toList ++ widenFrom true t
    else c :: widenFrom false t

/-- The text with `\s+` for each run of white space. -/
def widen (t : Text) : Text := widenFrom false t

section
variable {t u w : Text} {c : Char}

theorem widen_cons (hc : isSpace c = false) (t : Text) : widen (c :: t) = c :: widen t := by
  simp [widen, widenFrom, hc]

theorem widen_append (hc : isSpace c = false) (t u : Text) : widen (t ++ c :: u) = widen t ++ c :: widen u := by
  have hfrom : ∀ (t : Text) (behind : Bool), widenFrom behind (t ++ c :: u) = widenFrom behind t ++ c :: widen u := by
    intro t
    induction t with
    | nil => exact fun behind => by simp [widen, widenFrom, hc]
    | cons d t ih =>
      intro behind
      simp only [List.cons_append, widenFrom, ih]
      split
      · split
        · rfl
        · rw [List.append_assoc]
      · rfl
  exact hfrom t false

theorem widen_solid (ht : Text.IsSolid t) (u : Text) : widen (t ++ u) = t ++ widen u := by
  induction t with
  | nil => rfl
  | cons c t ih =>
    obtain ⟨hc, ht⟩ := List.forall_mem_cons.1 ht
    rw [List.cons_append, widen_cons hc, ih ht, List.cons_append]

/-- The white space that goes on a run. -/
theorem widenFrom_true (t : Text) : widenFrom true t = widen (Text.trimStart t) := by
  induction t with
  | nil => rfl
  | cons c t ih =>
    cases hc : isSpace c
    · have htrim : Text.trimStart (c :: t) = c :: t := Text.trimStart_eq_self hc
      rw [htrim, widen_cons hc, widenFrom, if_neg (by simp [hc])]
      rfl
    · rw [widenFrom, if_pos hc, if_pos rfl, ih, Text.trimStart_cons_of_isSpace hc]

theorem widen_blank (hc : isSpace c) (t : Text) : widen (c :: t) = "\\s+".toList ++ widen (Text.trimStart t) := by
  rw [← widenFrom_true, widen, widenFrom, if_pos hc, if_neg Bool.false_ne_true]

theorem widen_run (hne : w ≠ []) (hw : ∀ c ∈ w, isSpace c) (hu : Text.startsBlank u = false) :
    widen (w ++ u) = "\\s+".toList ++ widen u := by
  obtain ⟨c, w, rfl⟩ := List.exists_cons_of_ne_nil hne
  obtain ⟨hc, hw⟩ := List.forall_mem_cons.1 hw
  rw [List.cons_append, widen_blank hc, Text.trimStart_gap hw hu]

theorem suffix_eq_none (h : ¬ "[[".toList <:+: t) : Segment.suffix? t = none := by
  unfold Segment.suffix?
  split
  · rename_i t
    exact absurd (List.infix_append [] "[[".toList t) h
  · rfl

/-- **Without suffixes, the expression of a pattern is its text with `\s+` for each run of white space.** -/
theorem source_eq_widen {pattern : Text} (h : ¬ "[[".toList <:+: pattern.trim) :
    Completion.source pattern = widen pattern.trim := by
  have hsegments : ∀ (fuel : Nat) (t : Text), t.length ≤ fuel → ¬ "[[".toList <:+: t →
      (Segment.ofText fuel t).flatMap Segment.source = widen t := by
    intro fuel
    induction fuel with
    | zero =>
      intro t ht _
      obtain rfl := List.length_eq_zero_iff.1 (Nat.le_zero.1 ht)
      rfl
    | succ fuel ih =>
      intro t ht hinfix
      cases t with
      | nil => rfl
      | cons c t =>
        have hrest {u : Text} (hu : u <:+ t) : ¬ "[[".toList <:+: u := fun hmem =>
          hinfix (hmem.trans (hu.isInfix.trans (List.suffix_cons c t).isInfix))
        rw [List.length_cons] at ht
        rw [Segment.ofText, suffix_eq_none hinfix]
        cases hc : isSpace c
        · rw [widen_cons hc, ← ih t (Nat.le_of_succ_le_succ ht) (hrest List.suffix_rfl)]
          rfl
        · have htrim : Text.trimStart t <:+ t := List.dropWhile_suffix _
          rw [widen_blank hc, ← ih _ (htrim.length_le.trans (Nat.le_of_succ_le_succ ht)) (hrest htrim)]
          rfl
  exact hsegments _ _ (Text.length_trim_le pattern) h

end

/-! ## White space that stands for itself -/

/-- What `\s` stands for. -/
def blanks (fl : Flags) : CharSet := if fl.unicode then .space else .inter .space .ascii

/-- What a bracket expression is read as. -/
def classPart (s : Regex.Bracket.Class) : Part := ⟨.set s.set, s.depth, true⟩

/-- Does white space stand for itself, where the text is read from `r` on?  An act has none, or it is a bracket
    expression that keeps its characters.  A run of white space is neither skipped nor quoted.  If it is repeated, it is
    one character, and the repetition is not just a question mark.  With `\s+` in place of white space, nothing is
    nested more than `k` levels deeper. -/
inductive Widenable (k : Nat) : Reading → Text → Prop where
  | done (r : Reading) : Widenable k r []
  | act {r r₁ : Reading} {used u : Text} {a : Act} (hsolid : Text.IsSolid used)
      (hread : readAct? r.flags (r.flags.skipSpace (used ++ u)) = some (a, u)) (hperform : r.perform a = some r₁)
      (hrest : Widenable k r₁ u) : Widenable k r (used ++ u)
  | set {r : Reading} {t u : Text} {s s' : Regex.Bracket.Class}
      (hread : Regex.Bracket.read? r.flags (t ++ ']' :: u) = some (s, u))
      (hwide : Regex.Bracket.read? r.flags (widen t ++ [']']) = some (s', []))
      (hkeeps : ∀ c, s.set.contains c → s'.set.contains c) (hdepth : s'.depth ≤ s.depth + k)
      (hrest : Widenable k (r.push (classPart s)) u) : Widenable k r ('[' :: (t ++ ']' :: u))
  | run {r : Reading} {w u : Text} (hk : 0 < k) (hne : w ≠ []) (hblank : ∀ c ∈ w, (blanks r.flags).contains c)
      (hplain : r.flags.ignoreSpace = false) (hstart : Text.startsBlank u = false)
      (hnext : ∀ c ∈ u.head?, c ∈ quantifiers → w.length = 1 ∧ c ≠ '?')
      (hrest : Widenable k (r.pushAll (w.map fun c => .leaf (r.flags.char c))) u) : Widenable k r (w ++ u)

section
variable {k : Nat} {r r₁ r' : Reading} {fl : Flags} {t u w : Text} {c : Char}

theorem isSpace_of_blank (h : (blanks fl).contains c) : isSpace c := by
  unfold blanks at h
  split at h
  · exact h
  · exact (Bool.and_eq_true_iff.1 h).1

theorem notMem_operators_of_blank (h : (blanks fl).contains c) : c ∉ operators := by
  intro hmem
  have hall : ∀ c ∈ operators, isSpace c = false := by decide
  exact absurd (isSpace_of_blank h) (by rw [hall c hmem]; decide)

/-- Characters that are no operators are read one by one. -/
theorem reads_pushAll (hplain : r.flags.ignoreSpace = false) (hw : ∀ c ∈ w, c ∉ operators) :
    Reads r (w ++ u) r' ↔ Reads (r.pushAll (w.map fun c => .leaf (r.flags.char c))) u r' := by
  induction w generalizing r with
  | nil => exact Iff.rfl
  | cons c w ih =>
    obtain ⟨hc, hw⟩ := List.forall_mem_cons.1 hw
    have hread : readAct? r.flags (r.flags.skipSpace (c :: (w ++ u))) =
        some (.push (.leaf (r.flags.char c)), w ++ u) := by
      rw [skipSpace_eq_self hplain, readAct_literal _ hc]
    rw [List.cons_append, reads_iff_of_act hread rfl, List.map_cons, Reading.pushAll_cons]
    exact ih hplain hw

theorem readAct_bracket {s : Regex.Bracket.Class} (h : Regex.Bracket.read? fl t = some (s, u)) :
    readAct? fl (fl.skipSpace ('[' :: t)) = some (.push (classPart s), u) := by
  rw [Regex.skipSpace_cons (by decide) rfl]
  exact congrArg (Option.map _) h

/-- A character that is no operator stands for itself. -/
theorem Widenable.literal (hc : c ∉ operators) (hsolid : isSpace c = false) (hplain : r.flags.ignoreSpace = false)
    (hrest : Widenable k (r.push (.leaf (r.flags.char c))) u) : Widenable k r (c :: u) := by
  refine @Widenable.act k r (r.push (.leaf (r.flags.char c))) [c] u (.push (.leaf (r.flags.char c)))
    (List.forall_mem_singleton.2 hsolid) ?_ rfl hrest
  rw [skipSpace_eq_self hplain]
  exact readAct_literal _ hc u

/-! ## What such a text becomes -/

theorem front_widen (fl : Flags) (u : Text) : Front fl u (widen u) := by
  cases u with
  | nil => exact ⟨id, id, id⟩
  | cons c u =>
    cases hc : isSpace c
    · rw [widen_cons hc]
      refine ⟨id, fun hname => ?_, fun hskip => ?_⟩
      · cases u with
        | nil => exact hname
        | cons d u =>
          cases hd : isSpace d
          · rw [widen_cons hd, opensName_cons_cons]
            rwa [opensName_cons_cons] at hname
          · rw [widen_blank hd]
            exact (opensName_cons_cons _ _ _).trans (Bool.and_false _)
      · obtain ⟨-, -, -, hstop⟩ := Regex.skipSpace_through hskip
        exact hstop _
    · rw [widen_blank hc]
      exact ⟨fun _ h => (by cases h), fun _ => rfl, fun _ => Regex.skipSpace_cons (by decide) rfl _⟩

/-- **Closing a set under case** adds characters that fold as one of its own does, whatever the flags. -/
theorem exists_fold_of_close {s : CharSet} (h : (fl.close s).contains c) :
    ∃ d, Unicode.fold d = Unicode.fold c ∧ s.contains d := by
  unfold Flags.close at h
  split at h
  · exact ⟨c, rfl, h⟩
  · split at h
    · exact contains_folded.1 h
    · -- within ASCII
      rcases Bool.or_eq_true_iff.1 h with h | h
      · exact ⟨c, rfl, h⟩
      · obtain ⟨hfolded, -⟩ := Bool.and_eq_true_iff.1 h
        obtain ⟨d, hd, hmem⟩ := contains_folded.1 hfolded
        exact ⟨d, hd, (Bool.and_eq_true_iff.1 hmem).1⟩

/-- White space is not the other case of anything. -/
theorem contains_of_char {d : Char} (hblank : (blanks fl).contains c) (h : (fl.close (.single c)).contains d) :
    (blanks fl).contains d := by
  obtain ⟨e, hfold, he⟩ := exists_fold_of_close h
  obtain rfl : e = c := beq_iff_eq.1 ((CharSet.contains_single c e).symm.trans he)
  rwa [Unicode.eq_of_fold_eq (isSpace_of_blank hblank) hfold.symm]

/-- White space that stands for itself is matched by `\s+`. -/
theorem merged_blanks (hk : 0 < k) (hne : w ≠ []) (hblank : ∀ c ∈ w, (blanks fl).contains c) (greedy : Bool) :
    Merged k (w.map fun c => .leaf (fl.char c)) ((Part.leaf (.set (blanks fl))).loop 1 none greedy) := by
  have htimes (t : Text) : ∀ (w : Text) (i j : Nat), (∀ c ∈ w, (blanks fl).contains c) →
      Chain t (w.map fun c => .leaf (fl.char c)) i j →
        Regex.Times ((Node.set (blanks fl)).Matches t) w.length i j := by
    intro w
    induction w with
    | nil => exact fun _ _ _ => id
    | cons c w ih =>
      rintro i j hblank ⟨m, ⟨rfl, hc⟩, hchain⟩
      obtain ⟨hblank, hrest⟩ := List.forall_mem_cons.1 hblank
      refine ⟨i + 1, ⟨rfl, ?_⟩, ih (i + 1) j hrest hchain⟩
      rcases ht : t[i]? with _ | d
      · rw [ht] at hc
        cases hc
      · rw [ht] at hc
        exact contains_of_char hblank hc
  have hpos := List.length_pos_iff.2 hne
  refine ⟨by simpa using hne, hk.trans_le (Nat.le_add_left _ _), fun t i j hchain => ?_⟩
  exact ⟨w.length, hpos, fun _ hmax => (by cases hmax), htimes t w i j hblank hchain⟩

theorem head_of_again {min : Nat} {max : Option Nat} {greedy : Bool}
    (h : readAct? fl t = some (.again min max greedy, u)) : ∃ c ∈ t.head?, c ∈ quantifiers := by
  rcases readAct_cases h with ⟨ha, -⟩ | ⟨hhead, -⟩ | ⟨-, hne⟩
  · cases ha
  · exact hhead
  · exact absurd rfl (hne min max greedy)

/-- What `\s+` is read as. -/
def blankPart (fl : Flags) : Part := (Part.leaf (.set (blanks fl))).loop 1 none (true != fl.swapGreed)

theorem reads_blanks (hplain : r.flags.ignoreSpace = false) (ht : t.head? ≠ some '?') :
    Reads r ("\\s+".toList ++ t) r' ↔ Reads (r.push (blankPart r.flags)) t r' := by
  have helement : Element.read? r.flags ('s' :: '+' :: t) = some (.set (blanks r.flags), '+' :: t) := by
    unfold blanks Element.read? Element.classOf?
    cases r.flags.unicode <;> rfl
  have hspace : readAct? r.flags (r.flags.skipSpace ("\\s+".toList ++ t)) =
      some (.push (.leaf (.set (blanks r.flags))), '+' :: t) := by
    rw [skipSpace_eq_self hplain]
    exact congrArg (Option.map fun x : Element × Text => (Act.push (.leaf (x.1.node r.flags)), x.2)) helement
  have hplus : readAct? r.flags (r.flags.skipSpace ('+' :: t)) = some (.again 1 none true, t) := by
    rw [skipSpace_eq_self hplain]
    change some (readAgain 1 none t) = _
    rw [readAgain, readGreedy_eq ht]
  rw [reads_iff_of_act hspace rfl]
  exact reads_iff_of_act hplus rfl

theorem pushAll_wider (hk : 0 < k) (hr : r.Wider k r') (hne : w ≠ [])
    (hblank : ∀ c ∈ w, (blanks r.flags).contains c) :
    (r.pushAll (w.map fun c => .leaf (r.flags.char c))).Wider k (r'.push (blankPart r.flags)) := by
  refine ⟨⟨.merge ?_ hr.scope.parts, hr.scope.branches⟩, hr.flags, hr.openings, hr.groups, hr.names⟩
  rw [List.reverse_reverse]
  exact merged_blanks hk hne hblank _

theorem set_wider {s s' : Regex.Bracket.Class} (hdepth : s'.depth ≤ s.depth + k)
    (h : ∀ c, s.set.contains c → s'.set.contains c) :
    (classPart s).Wider k (classPart s') := by
  refine ⟨hdepth, fun t i j ⟨hj, hi⟩ => ⟨hj, ?_⟩⟩
  rcases ht : t[i]? with _ | c
  · rw [ht] at hi
    cases hi
  · rw [ht] at hi
    exact h c hi

theorem readBracket_widen {s : Regex.Bracket.Class} (h : Regex.Bracket.read? fl (widen t ++ [']']) = some (s, []))
    (u : Text) : Regex.Bracket.read? fl (widen (t ++ ']' :: u)) = some (s, widen u) := by
  obtain ⟨used, hused, -, htakes⟩ := Regex.Bracket.readBracket_takes h
  rw [List.append_nil] at hused
  have hread := htakes (widen u)
  rwa [← hused, List.append_assoc, List.singleton_append, ← widen_append (by decide)] at hread

/-- **What such a text is read as becomes wider.** -/
theorem Widenable.reads_widen (h : Widenable k r t) (hreads : Reads r t r₁) (hr : r.Wider k r')
    (hhead : ∀ c ∈ (r.flags.skipSpace t).head?, c ∈ quantifiers → Headed k r.scope.parts r'.scope.parts) :
    ∃ r₁', Reads r' (widen t) r₁' ∧ r₁.Wider k r₁' := by
  induction h generalizing r' with
  | done r =>
    obtain rfl := reads_nil_iff.1 hreads
    exact ⟨r', reads_nil_iff.2 rfl, hr⟩
  | @act r r₂ used u a hsolid hread hperform _ ih =>
    obtain ⟨r₂', hperform', hr₂, hheaded⟩ := perform_wider hperform hr fun min max greedy ha => by
      subst ha
      obtain ⟨c, hc, hquantifier⟩ := head_of_again hread
      exact hhead c hc hquantifier
    obtain ⟨r₁', hreads', hr₁⟩ := ih ((reads_iff_of_act hread hperform).1 hreads) hr₂ fun _ _ _ => hheaded
    refine ⟨r₁', .act ?_ hperform' hreads', hr₁⟩
    rw [widen_solid hsolid, ← hr.flags]
    obtain ⟨used', heq, -, htakes | ⟨rfl, -⟩⟩ := readNext_takes hread
    · obtain rfl := List.append_cancel_right heq
      exact htakes _ (front_widen _ u)
    · exact hread
  | @set r t u s s' hread hwide hkeeps hdepth _ ih =>
    have hset := set_wider hdepth hkeeps
    obtain ⟨r₁', hreads', hr₁⟩ := ih ((reads_iff_of_act (readAct_bracket hread) rfl).1 hreads) (hr.push hset)
      fun _ _ _ => .cons rfl hset hr.scope.parts
    exact ⟨r₁', .act (readAct_bracket (readBracket_widen (hr.flags ▸ hwide) u)) rfl hreads', hr₁⟩
  | @run r w u hk hne hblank hplain hstart hnext _ ih =>
    have hmark : (widen u).head? ≠ some '?' := by
      refine (front_widen r.flags u).lazy fun hu => ?_
      exact (hnext '?' hu (by decide)).2 rfl
    rw [reads_pushAll hplain fun c hc => notMem_operators_of_blank (hblank c hc)] at hreads
    obtain ⟨r₁', hreads', hr₁⟩ := ih hreads (pushAll_wider hk hr hne hblank) fun c hc hquantifier => by
      -- what is repeated is one character
      rw [show (r.pushAll _).flags = r.flags from rfl, skipSpace_eq_self hplain] at hc
      obtain ⟨d, rfl⟩ := List.length_eq_one_iff.1 (hnext c hc hquantifier).1
      exact .cons rfl (merged_blanks hk hne hblank _).wider hr.scope.parts
    refine ⟨r₁', ?_, hr₁⟩
    rw [widen_run hne (fun c hc => isSpace_of_blank (hblank c hc)) hstart]
    refine (reads_blanks (hr.flags ▸ hplain) hmark).2 ?_
    rwa [← hr.flags]

end

/-! ## Matchers -/

/-- **White space that stands for itself is only widened.**  If a pattern without suffixes is an expression whose white
    space stands for itself, and that does not end in a comment, it becomes an expression that is nested at most `k`
    levels deeper.  The matcher is compiled if that is within the limits, with the two levels of the wrapping, and then
    it accepts all commands that the pattern, read for both cases, matches from end to end. -/
theorem exact_of_matches {k : Nat} {pattern : Text} {p : Part} (hsuffix : ¬ "[[".toList <:+: pattern.trim)
    (hread : read? folding pattern.trim = some p) (hwidenable : Widenable k { flags := folding } pattern.trim)
    (htrails : ¬ Completion.Trails (Completion.source pattern)) :
    (∃ q, read? folding (Completion.source pattern) = some q ∧ q.depth ≤ p.depth + k ∧
      ((Matcher.ofPattern pattern).isCompiled ↔ q.depth + 2 ≤ depthLimit ∧ (wrapped q).node.fits)) ∧
    ∀ command, p.node.Matches command 0 command.length →
      ((Matcher.ofPattern pattern).isExact command ↔ (Matcher.ofPattern pattern).isCompiled) := by
  obtain ⟨r, hreads, hclosed, rfl⟩ := read_eq_some_iff.1 hread
  obtain ⟨r', hreads', hwider⟩ := hwidenable.reads_widen hreads
    (⟨⟨.nil, .nil⟩, rfl, .nil, rfl, rfl⟩ : Reading.Wider k _ { flags := folding }) fun _ _ _ => .nil
  have hpart := hwider.scope.part
  have hread' : read? folding (Completion.source pattern) = some r'.scope.part := by
    rw [source_eq_widen hsuffix]
    exact read_eq_some_iff.2 ⟨r', hreads', hwider.openings_eq_nil hclosed, rfl⟩
  refine ⟨⟨_, hread', hpart.depth, isCompiled_of_read hread' htrails⟩, fun command hmatch => ?_⟩
  rw [isExact_of_read hread' htrails]
  exact and_iff_left (hpart.accepts command 0 command.length hmatch)

/-- A run of white space with two characters, one character that is repeated, and some at the ends. -/
def loose : Text := " ab +c|d  e\n".toList

theorem exact_of_matches_loose : ∃ p, read? folding loose.trim = some p ∧ (Matcher.ofPattern loose).isCompiled ∧
    ∀ command, p.node.Matches command 0 command.length → (Matcher.ofPattern loose).isExact command := by
  have hwidenable : Widenable 1 { flags := folding } loose.trim := by
    have htrim : loose.trim = 'a' :: 'b' :: ([' '] ++ ('+' :: 'c' :: '|' :: 'd' :: ([' ', ' '] ++ ['e']))) := by decide
    rw [htrim]
    refine .literal (by decide) (by decide) rfl (.literal (by decide) (by decide) rfl ?_)
    refine .run (by decide) (by decide) (by decide) rfl rfl (by rintro c ⟨⟩; decide) ?_
    refine @Widenable.act _ _ _ ['+'] _ _ (by unfold Text.IsSolid; decide) rfl rfl ?_
    refine .literal (by decide) (by decide) rfl ?_
    refine @Widenable.act _ _ _ ['|'] _ _ (by unfold Text.IsSolid; decide) rfl rfl ?_
    refine .literal (by decide) (by decide) rfl ?_
    refine .run (by decide) (by decide) (by decide) rfl rfl (by rintro c ⟨⟩; decide) ?_
    exact .literal (by decide) (by decide) rfl (.done _)
  have hreads : (read? folding loose.trim).isSome := by decide +kernel
  obtain ⟨p, hp⟩ := Option.isSome_iff_exists.1 hreads
  have hcompiled : (Matcher.ofPattern loose).isCompiled := by decide +kernel
  obtain ⟨-, hexact⟩ := @exact_of_matches 1 loose _ (by decide +kernel) hp hwidenable (by decide +kernel)
  exact ⟨p, hp, hcompiled, fun command hmatch => (hexact command hmatch).2 hcompiled⟩

/-- A blank that can be left out: the question mark that says so ends up behind `\s+`, and makes it lazy. -/
def optionalBlank : Text := "show ?version".toList

/-- **White space in a pattern can lose a command.** -/
theorem widening_loses :
    (∃ p, read? folding optionalBlank = some p ∧ p.node.Matches "showversion".toList 0 "showversion".toList.length) ∧
      normalize "showversion".toList = "showversion".toList ∧ (Matcher.ofPattern optionalBlank).isCompiled ∧
      ¬ (Matcher.ofPattern optionalBlank).isExact "showversion".toList := by
  have hmatch : (read? folding optionalBlank).any fun p => (wrapped p).node.occurs "showversion".toList := by
    decide +kernel
  obtain ⟨p, hp, hoccurs⟩ := (Option.any_eq_true _ _).1 hmatch
  exact ⟨⟨p, hp, (occurs_wrapped p _).1 hoccurs⟩, by decide +kernel⟩

end Readout.Command
