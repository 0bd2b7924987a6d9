/-
  The expression of a completion pattern, part by part.

  * `Segment.Plain` is a segment that stands for itself, `Written` what segments are written as;
  * `ofPattern_of_written`: the segments of a pattern are those that it is written from;
  * `Segment.parts`, `expression`: what the reader of expressions makes of segments;
  * `leads_typed`, `leads_parts`: it does, whatever characters a suffix has;
  * `parse_wrap`: the expression of plain segments is accepted unless it is too large.
-/
import Mathlib.Algebra.GroupWithZero.Nat
import Readout.Command.Completion
import Readout.Proofs.Regex.Reading
import Readout.Proofs.Text.Lines

namespace Readout.Command

open Regex (Node)
open Regex.CommandPattern

/-! ## Plain segments -/

/-- The letters and digits of ASCII, the underscore and the dash. -/
def plainChars : List Char := "ABCDEFGHIJKLMNOPQRSTUVWXYZabcdefghijklmnopqrstuvwxyz0123456789_-".toList

theorem isSolid_plainChars : Text.IsSolid plainChars := by unfold Text.IsSolid; decide

theorem notMem_operators : ∀ c ∈ plainChars, c ∉ operators := by decide

/-- Does the segment stand for itself?  A suffix may have any characters but white space and closing brackets,
    and 60 of them at most. -/
def Segment.Plain : Segment → Prop
  | char c => c ∈ plainChars
  | suffix s => s.length ≤ 60 ∧ Text.IsSolid s ∧ ']' ∉ s
  | blank => True

instance : DecidablePred Segment.Plain
  | .char _ => inferInstanceAs (Decidable (_ ∈ _))
  | .suffix s => inferInstanceAs (Decidable (s.length ≤ 60 ∧ (∀ c ∈ s, Unicode.isSpace c = false) ∧ ']' ∉ s))
  | .blank => inferInstanceAs (Decidable True)

/-- What segments are written as. -/
inductive Written : List Segment → Text → Prop
  | nil : Written [] []
  | char {c : Char} {ss : List Segment} {t : Text} : Written ss t → Written (.char c :: ss) (c :: t)
  | suffix {s : Text} {ss : List Segment} {t : Text} :
      Written ss t → Written (.suffix s :: ss) ("[[".toList ++ s ++ "]]".toList ++ t)
  | blank {w : Text} {ss : List Segment} {t : Text} : w ≠ [] → (∀ c ∈ w, Unicode.isSpace c) →
      Text.startsBlank t = false → Written ss t → Written (.blank :: ss) (w ++ t)

namespace Segment

/-- A suffix ends at the first pair of closing brackets. -/
theorem splitOn_brackets : ∀ {s : Text}, ']' ∉ s → ∀ t : Text,
    Text.splitOn? "]]".toList (s ++ "]]".toList ++ t) = some (s, t)
  | [], _, _ => rfl
  | c :: s, h, t => by
    obtain ⟨hc, hs⟩ := not_or.1 (mt List.mem_cons.2 h)
    have hnot : List.isPrefixOf? "]]".toList (c :: (s ++ "]]".toList ++ t)) = none := by
      simp [List.isPrefixOf?, hc]
    rw [List.cons_append, List.cons_append, Text.splitOn?, hnot, splitOn_brackets hs t]; rfl

theorem suffix_of_brackets {s : Text} (h : ']' ∉ s) (t : Text) :
    suffix? ("[[".toList ++ s ++ "]]".toList ++ t) = some (s, t) :=
  splitOn_brackets h t

theorem suffix_cons {c : Char} (h : c ≠ '[') (t : Text) : suffix? (c :: t) = none := by
  unfold suffix?
  split
  · rename_i heq; exact absurd (List.cons.inj heq).1 h
  · rfl

theorem ofText_of_written {ss : List Segment} {t : Text} (h : Written ss t) (hss : ∀ s ∈ ss, s.Plain) :
    ∀ fuel, t.length ≤ fuel → ofText fuel t = ss := by
  induction h with
  | nil => intro fuel _; cases fuel <;> rfl
  | @char c ss t _ ih =>
    obtain ⟨hc, hss⟩ := List.forall_mem_cons.1 hss
    have hbracket : c ≠ '[' := by rintro rfl; exact notMem_operators _ hc (by decide)
    intro fuel hfuel
    obtain ⟨fuel, rfl⟩ := Nat.exists_eq_succ_of_ne_zero (Nat.ne_of_gt (Nat.lt_of_lt_of_le (Nat.succ_pos _) hfuel))
    simp [ofText, suffix_cons hbracket, isSolid_plainChars c hc,
      ih hss fuel (Nat.le_of_succ_le_succ hfuel)]
  | @suffix s ss t _ ih =>
    obtain ⟨⟨-, -, hs⟩, hss⟩ := List.forall_mem_cons.1 hss
    intro fuel hfuel
    simp only [List.length_append, String.reduceToList, List.length_cons, List.length_nil] at hfuel
    obtain ⟨fuel, rfl⟩ := Nat.exists_eq_succ_of_ne_zero (n := fuel) (by omega)
    have hsuffix := suffix_of_brackets hs t
    simp only [String.reduceToList, List.cons_append, List.nil_append] at hsuffix ⊢
    rw [ofText, hsuffix]
    exact congrArg _ (ih hss fuel (by omega))
  | @blank w ss t hne hw ht _ ih =>
    obtain ⟨-, hss⟩ := List.forall_mem_cons.1 hss
    cases w with
    | nil => exact absurd rfl hne
    | cons c w =>
      obtain ⟨hc, hw⟩ := List.forall_mem_cons.1 hw
      have hbracket : c ≠ '[' := by rintro rfl; revert hc; decide
      have htrim : Text.trimStart (w ++ t) = t := Text.trimStart_gap hw ht
      intro fuel hfuel
      simp only [List.length_append, List.length_cons] at hfuel
      obtain ⟨fuel, rfl⟩ := Nat.exists_eq_succ_of_ne_zero (n := fuel) (by omega)
      simp [ofText, suffix_cons hbracket, hc, htrim, ih hss fuel (by omega)]

end Segment

/-- **The segments of a pattern are those that it is written from.** -/
theorem ofPattern_of_written {ss : List Segment} {pattern : Text} (h : Written ss pattern.trim)
    (hss : ∀ s ∈ ss, s.Plain) : Segment.ofPattern pattern = ss :=
  Segment.ofText_of_written h hss _ (Text.length_trim_le pattern)

/-! ## The expression -/

/-- The part that a suffix is read as, if there is something to type. -/
def Segment.typedParts : Text → List Part
  | [] => []
  | c :: s => [((Part.concat (.leaf (.char true c) :: typedParts s)).enclosed none).loop 0 (some 1) true]

/-- What a segment is read as. -/
def Segment.parts : Segment → List Part
  | char c => [.leaf (.char true c)]
  | suffix s => typedParts s
  | blank => [(Part.leaf (.set .space)).loop 1 none true]

/-- What the expression of the segments is read as. -/
def expression (ss : List Segment) : Part :=
  .concat [.flags, .leaf (.anchor .textStart), (Part.concat (ss.flatMap Segment.parts)).enclosed none,
    .leaf (.anchor .textEnd)]

/-- The flags behind the switch for both cases. -/
def folding : Regex.Flags := { fold := true }

section
variable {r : Reading} {t : Text}

/-- **A suffix is read as optional parts, one inside the other**, whatever characters it has. -/
theorem leads_typed (s : Text) (hr : r.flags = folding) (ht : t.head? ≠ some '?') :
    Leads (r, Segment.typed s ++ t) (r.pushAll (Segment.typedParts s), t) := by
  induction s generalizing r t with
  | nil => exact .refl
  | cons c s ih =>
    have hplain : r.flags.ignoreSpace = false := by rw [hr]; rfl
    have hfold : (r.open_ none r.flags).flags.char c = .char true c := by rw [hr]; rfl
    have hgreed : r.flags.swapGreed = false := by rw [hr]; rfl
    have hchar := step_quoted (r := r.open_ none r.flags) hplain c (Segment.typed s ++ ')' :: '?' :: t)
    rw [hfold] at hchar
    have hrest := ih (r := (r.open_ none r.flags).push (.leaf (.char true c))) (t := ')' :: '?' :: t) hr nofun
    have hinner : Leads (r.open_ none r.flags, Regex.Element.quoted c ++ Segment.typed s ++ ')' :: '?' :: t)
        ((r.open_ none r.flags).pushAll (.leaf (.char true c) :: Segment.typedParts s), ')' :: '?' :: t) := by
      rw [List.append_assoc, Reading.pushAll_cons]
      exact .head hchar hrest
    have hsource : Segment.typed (c :: s) ++ t =
        "(?:".toList ++ (Regex.Element.quoted c ++ Segment.typed s) ++ ')' :: '?' :: t := by
      simp only [Segment.typed, List.append_assoc]; rfl
    rw [hsource, Segment.typedParts, Reading.pushAll_cons, Reading.pushAll_nil]
    exact (leads_group hplain hinner).tail (step_repeat hplain hgreed rfl ht).1

theorem leads_blank (hr : r.flags = folding) (ht : t.head? ≠ some '?') :
    Leads (r, "\\s+".toList ++ t) (r.push ((Part.leaf (.set .space)).loop 1 none true), t) := by
  have hplain : r.flags.ignoreSpace = false := by rw [hr]; rfl
  have hspace : Step (r, "\\s+".toList ++ t) (r.push (.leaf (.set .space)), '+' :: t) :=
    step_space hplain (by rw [hr]; rfl)
  exact (Relation.ReflTransGen.single hspace).tail (step_repeat hplain (by rw [hr]; rfl) rfl ht).2

/-- No segment is written with a question mark in front. -/
theorem head_source {ss : List Segment} (hss : ∀ s ∈ ss, s.Plain) (ht : t.head? ≠ some '?') :
    (ss.flatMap Segment.source ++ t).head? ≠ some '?' := by
  induction ss with
  | nil => exact ht
  | cons s ss ih =>
    obtain ⟨hs, hrest⟩ := List.forall_mem_cons.1 hss
    rw [List.flatMap_cons, List.append_assoc]
    cases s with
    | char c =>
      have hmark : c ≠ '?' := by rintro rfl; exact notMem_operators _ hs (by decide)
      exact fun h => hmark (Option.some.inj h)
    | suffix s =>
      cases s with
      | nil => exact ih hrest
      | cons c s => simp [Segment.source, Segment.typed]
    | blank => simp [Segment.source]

/-- **Segments are read one behind the other.** -/
theorem leads_parts {ss : List Segment} (hss : ∀ s ∈ ss, s.Plain) (hr : r.flags = folding)
    (ht : t.head? ≠ some '?') :
    Leads (r, ss.flatMap Segment.source ++ t) (r.pushAll (ss.flatMap Segment.parts), t) := by
  induction ss generalizing r with
  | nil => exact .refl
  | cons s ss ih =>
    obtain ⟨hs, hss⟩ := List.forall_mem_cons.1 hss
    have hhead := head_source hss ht
    rw [List.flatMap_cons, List.flatMap_cons, List.append_assoc, Reading.pushAll_append]
    refine .trans ?_ (ih hss (r := r.pushAll s.parts) hr)
    cases s with
    | char c =>
      have hchar := step_literal (r := r) (t := ss.flatMap Segment.source ++ t) (by rw [hr]; rfl)
        (notMem_operators c hs)
      rw [show r.flags.char c = .char true c by rw [hr]; rfl] at hchar
      exact .single hchar
    | suffix s => exact leads_typed s hr hhead
    | blank => exact leads_blank hr hhead

end

/-! ## Limits -/

theorem depthOf_le {d : Nat} {ps : List Part} (h : ∀ p ∈ ps, p.depth ≤ d) : depthOf ps ≤ d := by
  induction ps with
  | nil => exact Nat.zero_le d
  | cons p ps ih =>
    obtain ⟨hp, hps⟩ := List.forall_mem_cons.1 h
    exact Nat.max_le.2 ⟨hp, ih hps⟩

theorem depth_concat_le {d : Nat} {ps : List Part} (h : ∀ p ∈ ps, p.depth ≤ d) :
    (Part.concat ps).depth ≤ d + 1 := by
  match ps with
  | [] => exact Nat.zero_le _
  | [p] => exact Nat.le_succ_of_le (h p List.mem_cons_self)
  | p :: q :: ps => exact Nat.succ_le_succ (depthOf_le h)

/-- A character more is nested three levels deeper: behind its predecessor, in parentheses, and repeated. -/
theorem depth_typed_le : ∀ s : Text, ∀ p ∈ Segment.typedParts s, p.depth ≤ 3 * s.length
  | [] => nofun
  | c :: s => by
    have hrest : ∀ p ∈ Part.leaf (.char true c) :: Segment.typedParts s, p.depth ≤ 3 * s.length :=
      List.forall_mem_cons.2 ⟨Nat.zero_le _, depth_typed_le s⟩
    have hconcat := depth_concat_le hrest
    intro p hp
    rw [List.mem_singleton.1 hp]
    simp only [Part.loop, Part.enclosed, List.length_cons]
    omega

theorem depth_parts_le {s : Segment} (hs : s.Plain) : ∀ p ∈ s.parts, p.depth ≤ 180 := by
  cases s with
  | char c => simp [Segment.parts, Part.leaf]
  | suffix s => exact fun p hp => (depth_typed_le s p hp).trans (Nat.mul_le_mul_left 3 hs.1)
  | blank => simp [Segment.parts, Part.leaf, Part.loop]

theorem depth_expression_le {ss : List Segment} (hss : ∀ s ∈ ss, s.Plain) :
    (expression ss).depth ≤ depthLimit := by
  have hparts : ∀ p ∈ ss.flatMap Segment.parts, p.depth ≤ 180 := by
    intro p hp
    obtain ⟨s, hs, hp⟩ := List.mem_flatMap.1 hp
    exact depth_parts_le (hss s hs) p hp
  have hconcat := depth_concat_le hparts
  have hinner : ∀ p ∈ [Part.flags, .leaf (.anchor .textStart),
      (Part.concat (ss.flatMap Segment.parts)).enclosed none, .leaf (.anchor .textEnd)], p.depth ≤ 182 := by
    simp only [List.forall_mem_cons, List.not_mem_nil, false_implies, implies_true, and_true]
    exact ⟨Nat.zero_le _, Nat.zero_le _, Nat.succ_le_succ hconcat, Nat.zero_le _⟩
  exact (depth_concat_le hinner).trans (by decide)

theorem sum_unfolded_le : ∀ as : List Node, (as.map Node.unfolded).sum ≤ (Node.concat as).unfolded
  | [] => Nat.zero_le _
  | [a] => by simp [Node.concat]
  | a :: b :: as => by
    have hrest := sum_unfolded_le (b :: as)
    have hconcat : (Node.concat (a :: b :: as)).unfolded = a.unfolded + (Node.concat (b :: as)).unfolded + 1 := rfl
    rw [List.map_cons, List.sum_cons]
    omega

/-- The number of elements that the parts of the segments have. -/
def size (ss : List Segment) : Nat := ((ss.flatMap Segment.parts).map (·.node.unfolded)).sum

theorem size_append (ss ss' : List Segment) : size (ss ++ ss') = size ss + size ss' := by
  simp [size]

/-- The expression has all of these elements. -/
theorem size_le_unfolded (ss : List Segment) : size ss ≤ (expression ss).node.unfolded := by
  have hparts : size ss ≤ (Part.concat (ss.flatMap Segment.parts)).node.unfolded := by
    have hsum := sum_unfolded_le ((ss.flatMap Segment.parts).map (·.node))
    rwa [List.map_map, ← node_concat] at hsum
  have hexpression := sum_unfolded_le [.empty, .anchor .textStart,
    (Part.concat (ss.flatMap Segment.parts)).node, .anchor .textEnd]
  simp only [List.map_cons, List.map_nil, List.sum_cons, List.sum_nil] at hexpression
  have hnode : (expression ss).node = Node.concat [.empty, .anchor .textStart,
    (Part.concat (ss.flatMap Segment.parts)).node, .anchor .textEnd] := rfl
  rw [hnode]
  omega

/-- **The expression of plain segments is accepted unless it is too large.** -/
theorem parse_wrap {ss : List Segment} (hss : ∀ s ∈ ss, s.Plain) :
    parse? (Completion.wrap (ss.flatMap Segment.source)) =
      if (expression ss).node.fits then some ⟨(expression ss).node⟩ else none := by
  let start : Reading := { Reading.push {} .flags with flags := folding }
  have hfold : Step ({}, Completion.wrap (ss.flatMap Segment.source))
      (start, '^' :: ("(?:".toList ++ ss.flatMap Segment.source ++ ")$".toList)) :=
    step_fold (r := {}) rfl
  have hcaret := step_caret (r := start) (t := "(?:".toList ++ ss.flatMap Segment.source ++ ")$".toList) rfl rfl
  have hgroup := leads_group (r := start.push (.leaf (.anchor .textStart))) (t := "$".toList) rfl
    (leads_parts hss rfl nofun)
  have hleads := ((Relation.ReflTransGen.head hfold (.head hcaret hgroup)).tail (step_dollar rfl rfl))
  have hadmitted : (expression ss).isAdmitted = (expression ss).node.fits := by
    simp [Part.isAdmitted, depth_expression_le hss]
  rw [← hadmitted]
  exact parse_of_leads hleads rfl rfl

end Readout.Command
