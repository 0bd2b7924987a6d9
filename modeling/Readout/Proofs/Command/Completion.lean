/-
  What a completion pattern accepts.

  * `Spells` tells the commands that segments stand for, up to case: characters stay, of a suffix any part may be
    typed, and white space stands for any white space;
  * `upToCase`: the texts that are the same up to case as those with a property;
  * `denotes_typed`, `denotes_parts`: each segment is read as an expression for what it spells;
  * `isCompiled_iff`, `isExact_iff`: a matcher accepts what the segments of its pattern spell.
-/
import Readout.Proofs.Command.Expression
import Readout.Proofs.Regex.Meaning
import Readout.Proofs.Unicode.Case

namespace Readout.Command

open Regex (Node CharSet)
open Regex.CommandPattern
open Unicode (fold isSpace)

/-! ## Commands -/

/-- Can `u` be typed for the segment? -/
def Segment.Spells : Segment → Text → Prop
  | char c, u => u = [c]
  | suffix s, u => u <+: s
  | blank, u => u ≠ [] ∧ ∀ c ∈ u, isSpace c

/-- Can `t` be typed for the segments, one behind the other? -/
def Spells : List Segment → Text → Prop
  | [], t => t = []
  | s :: ss, t => ∃ u v, s.Spells u ∧ Spells ss v ∧ u ++ v = t

/-! ## Languages up to case -/

/-- The texts that are the same up to case as one with the property. -/
def upToCase (p : Text → Prop) : Language Char := {t | ∃ u, p u ∧ t.map fold = u.map fold}

theorem upToCase_nil : upToCase (· = []) = 1 := by
  ext t
  rw [Language.mem_one]
  constructor
  · rintro ⟨_, rfl, h⟩
    exact List.map_eq_nil_iff.1 h
  · rintro rfl
    exact ⟨[], rfl, rfl⟩

/-- **What is the same up to case falls into parts that are.** -/
theorem upToCase_mul (p q : Text → Prop) :
    upToCase p * upToCase q = upToCase fun t => ∃ u v, p u ∧ q v ∧ u ++ v = t := by
  ext t
  rw [Language.mem_mul]
  constructor
  · rintro ⟨t₁, ⟨u, hu, h₁⟩, t₂, ⟨v, hv, h₂⟩, rfl⟩
    exact ⟨u ++ v, ⟨u, v, hu, hv, rfl⟩, by rw [List.map_append, List.map_append, h₁, h₂]⟩
  · rintro ⟨_, ⟨u, v, hu, hv, rfl⟩, h⟩
    rw [List.map_append] at h
    obtain ⟨t₁, t₂, rfl, h₁, h₂⟩ := List.map_eq_append_iff.1 h
    exact ⟨t₁, ⟨u, hu, h₁⟩, t₂, ⟨v, hv, h₂⟩, rfl⟩

theorem upToCase_add (p q : Text → Prop) : upToCase p + upToCase q = upToCase fun t => p t ∨ q t := by
  ext t
  rw [Language.mem_add]
  constructor
  · rintro (⟨u, hu, h⟩ | ⟨u, hu, h⟩)
    · exact ⟨u, .inl hu, h⟩
    · exact ⟨u, .inr hu, h⟩
  · rintro ⟨u, hu | hu, h⟩
    · exact .inl ⟨u, hu, h⟩
    · exact .inr ⟨u, hu, h⟩

theorem mem_upToCase_singleton {c : Char} {t : Text} :
    t ∈ upToCase (· = [c]) ↔ ∃ d, fold d = fold c ∧ t = [d] := by
  constructor
  · rintro ⟨_, rfl, h⟩
    obtain ⟨d, rfl, hd⟩ := List.map_eq_singleton_iff.1 h
    exact ⟨d, hd, rfl⟩
  · rintro ⟨d, hd, rfl⟩
    exact ⟨[c], rfl, by rw [List.map_singleton, List.map_singleton, hd]⟩

/-- White space has no case. -/
theorem eq_of_map_fold {t u : Text} (hu : ∀ c ∈ u, isSpace c) (h : t.map fold = u.map fold) : t = u := by
  induction u generalizing t with
  | nil => exact List.map_eq_nil_iff.1 h
  | cons c u ih =>
    obtain ⟨hc, hu⟩ := List.forall_mem_cons.1 hu
    obtain ⟨d, t, rfl, hd, ht⟩ := List.map_eq_cons_iff.1 h
    rw [Unicode.eq_of_fold_eq hc hd, ih hu ht]

/-! ## Parts -/

/-- Do the parts, one behind the other, match the texts of the language? -/
def Denote (ps : List Part) (L : Language Char) : Prop :=
  ∃ Ls, List.Forall₂ Node.Denotes (ps.map (·.node)) Ls ∧ Ls.prod = L

theorem denote_nil : Denote [] 1 := ⟨[], .nil, rfl⟩

theorem denote_singleton {p : Part} {L : Language Char} (h : p.node.Denotes L) : Denote [p] L :=
  ⟨[L], .cons h .nil, List.prod_singleton⟩

theorem Denote.append {ps qs : List Part} {L M : Language Char} (hp : Denote ps L) (hq : Denote qs M) :
    Denote (ps ++ qs) (L * M) := by
  obtain ⟨Ls, hLs, rfl⟩ := hp
  obtain ⟨Ms, hMs, rfl⟩ := hq
  exact ⟨Ls ++ Ms, by rw [List.map_append]; exact List.rel_append hLs hMs, List.prod_append⟩

theorem Denote.concat {ps : List Part} {L : Language Char} (h : Denote ps L) :
    (Part.concat ps).node.Denotes L := by
  obtain ⟨Ls, hLs, rfl⟩ := h
  exact node_concat ps ▸ Node.Denotes.concat hLs

/-- A set closed under case has the characters that fold as one of its own does. -/
theorem contains_folded {s : CharSet} {c : Char} :
    (CharSet.folded s).contains c ↔ ∃ d, fold d = fold c ∧ s.contains d := by
  rw [CharSet.contains, List.any_eq_true]
  simp only [Unicode.mem_orbit_iff]

theorem contains_folded_single {c d : Char} : (CharSet.folded (.single c)).contains d ↔ fold d = fold c := by
  simp only [contains_folded, CharSet.contains_single, beq_iff_eq, exists_eq_right]
  exact eq_comm

theorem denotes_char (c : Char) : (Node.char true c).Denotes (upToCase (· = [c])) := by
  have hset : upToCase (· = [c]) = (CharSet.folded (.single c)).language := by
    ext t
    rw [mem_upToCase_singleton]
    exact exists_congr fun d => and_congr_left fun _ => contains_folded_single.symm
  rw [hset]
  exact Node.denotes_set _

/-- **A suffix is read as an expression for what can be typed of it.** -/
theorem denote_typed : ∀ s : Text, Denote (Segment.typedParts s) (upToCase (· <+: s))
  | [] => by simpa [Segment.typedParts, upToCase_nil] using denote_nil
  | c :: s => by
    have hchar : Denote [.leaf (.char true c)] (upToCase (· = [c])) := denote_singleton (denotes_char c)
    have hinner := (hchar.append (denote_typed s)).concat.optional true
    have htyped : upToCase (· <+: c :: s) = 1 + upToCase (· = [c]) * upToCase (· <+: s) := by
      rw [upToCase_mul, ← upToCase_nil, upToCase_add]
      congr 1
      ext t
      simp [List.prefix_cons_iff, eq_comm, and_comm]
    rw [htyped]
    exact denote_singleton hinner

theorem denotes_blank :
    (Node.loop (.set .space) 1 none true).Denotes (upToCase fun u => u ≠ [] ∧ ∀ c ∈ u, isSpace c) := by
  have hblank : upToCase (fun u => u ≠ [] ∧ ∀ c ∈ u, isSpace c) =
      {t | ∃ k, 1 ≤ k ∧ (∀ n ∈ none, k ≤ 1 ∨ k ≤ n) ∧ t ∈ CharSet.space.language ^ k} := by
    ext t
    constructor
    · rintro ⟨u, ⟨hne, hu⟩, h⟩
      rw [eq_of_map_fold hu h]
      exact ⟨u.length, List.length_pos_iff.2 hne, nofun, CharSet.mem_language_pow.2 ⟨rfl, hu⟩⟩
    · rintro ⟨k, hk, -, ht⟩
      obtain ⟨rfl, hall⟩ := CharSet.mem_language_pow.1 ht
      exact ⟨t, ⟨List.length_pos_iff.1 hk, hall⟩, rfl⟩
  rw [hblank]
  exact (Node.denotes_set .space).loop 1 none true

theorem denote_segment (s : Segment) : Denote s.parts (upToCase s.Spells) := by
  cases s with
  | char c => exact denote_singleton (denotes_char c)
  | suffix s => exact denote_typed s
  | blank => exact denote_singleton denotes_blank

/-- **Segments are read as expressions for what they spell**, one behind the other. -/
theorem denote_parts : ∀ ss : List Segment, Denote (ss.flatMap Segment.parts) (upToCase (Spells ss))
  | [] => upToCase_nil ▸ denote_nil
  | s :: ss => by
    have h := (denote_segment s).append (denote_parts ss)
    rwa [upToCase_mul] at h

theorem occurs_expression {ss : List Segment} {command : Text} :
    (expression ss).node.occurs command ↔ ∃ t, Spells ss t ∧ command.map fold = t.map fold :=
  (denote_parts ss).concat.occurs_iff

/-! ## Matchers -/

section
variable {ss : List Segment} {pattern : Text}

theorem regex_ofPattern (hss : ∀ s ∈ ss, s.Plain) (hpattern : Written ss pattern.trim) :
    (Matcher.ofPattern pattern).regex =
      if (expression ss).node.fits then some ⟨(expression ss).node⟩ else none := by
  rw [Matcher.ofPattern, Completion.source, ofPattern_of_written hpattern hss]
  exact parse_wrap hss

/-- The expression of a plain pattern is accepted unless it is too large. -/
theorem isCompiled_iff (hss : ∀ s ∈ ss, s.Plain) (hpattern : Written ss pattern.trim) :
    (Matcher.ofPattern pattern).isCompiled ↔ (expression ss).node.fits := by
  rw [Matcher.isCompiled, regex_ofPattern hss hpattern]
  split <;> simp_all

/-- **A matcher accepts what the segments of its pattern spell**, and nothing else. -/
theorem isExact_iff (hss : ∀ s ∈ ss, s.Plain) (hpattern : Written ss pattern.trim) (command : Text) :
    (Matcher.ofPattern pattern).isExact command ↔ (Matcher.ofPattern pattern).isCompiled ∧
      ∃ t, Spells ss t ∧ command.map fold = t.map fold := by
  rw [isCompiled_iff hss hpattern, Matcher.isExact, regex_ofPattern hss hpattern]
  by_cases hfits : (expression ss).node.fits
  · rw [if_pos hfits]
    exact occurs_expression.trans (and_iff_right hfits).symm
  · rw [if_neg hfits]
    exact iff_of_false Bool.false_ne_true fun h => hfits h.1

/-- **The meaning of a completion pattern.**  A plain pattern compiles just if its expression is not too large, and then
    it accepts a command just if the command is the same up to case as one that its segments spell. -/
theorem accepts_spelled (hss : ∀ s ∈ ss, s.Plain) (hpattern : Written ss pattern.trim) :
    ((Matcher.ofPattern pattern).isCompiled ↔ (expression ss).node.fits) ∧
      ∀ command, (Matcher.ofPattern pattern).isExact command ↔ (Matcher.ofPattern pattern).isCompiled ∧
        ∃ t, Spells ss t ∧ command.map fold = t.map fold :=
  ⟨isCompiled_iff hss hpattern, isExact_iff hss hpattern⟩

end

/-- The segments of the pattern below. -/
def showSegments : List Segment :=
  [.char 's', .char 'h', .suffix "ow".toList, .blank, .char 'v', .suffix ".*".toList]

/-- A pattern with white space around it, and with characters in a suffix that are operators elsewhere. -/
def showPattern : Text := " sh[[ow]] \t v[[.*]]\n".toList

theorem accepts_spelled_show :
    (Matcher.ofPattern showPattern).isCompiled ∧ ∀ command, (Matcher.ofPattern showPattern).isExact command ↔
      ∃ t, Spells showSegments t ∧ command.map fold = t.map fold := by
  have hpattern : Written showSegments showPattern.trim := by
    have htrim : showPattern.trim = 's' :: 'h' :: ("[[".toList ++ "ow".toList ++ "]]".toList ++
        (" \t ".toList ++ 'v' :: ("[[".toList ++ ".*".toList ++ "]]".toList ++ []))) := by decide
    rw [htrim]
    exact .char (.char (.suffix (.blank nofun (by decide) rfl (.char (.suffix .nil)))))
  obtain ⟨hcompiled, hexact⟩ := @accepts_spelled _ showPattern (by decide) hpattern
  have hfits : (Matcher.ofPattern showPattern).isCompiled := hcompiled.2 (by decide +kernel)
  exact ⟨hfits, fun command => (hexact command).trans (and_iff_right hfits)⟩

example : (Matcher.ofPattern showPattern).isExact "SHO  v.".toList := by decide +kernel
example : ¬ (Matcher.ofPattern showPattern).isExact "show vx".toList := by decide +kernel

end Readout.Command
