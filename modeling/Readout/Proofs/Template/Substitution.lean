/-
  References in rules.  A rule is read once, from left to right, and what is put in for a reference is not read again.

  * `Piece`: the pieces of a rule, `Piece.expansion`: what stands for a piece in the end;
  * `Splits`: a rule splits into pieces, `IsPlainName`: the names that need no braces;
  * `reference_eq_ok_iff`: what is read behind a dollar sign;
  * `substitute_eq_ok_iff`: references can be replaced if the rule splits into pieces, which say what comes of it.
-/
import Readout.Proofs.Template.Accepted
import Readout.Proofs.Text.Lines

namespace Readout.Template

namespace Substitution

/-! ## Pieces -/

/-- A piece of a rule. -/
inductive Piece where
  /-- text without a dollar sign -/
  | run (t : Text)
  /-- two dollar signs -/
  | dollar
  /-- a name in braces behind a dollar sign -/
  | braced (v : Value)
  /-- a name behind a dollar sign -/
  | bare (v : Value)

/-- What stands for a piece in the end. -/
def Piece.expansion : Piece → Text
  | run t => t
  | dollar => ['$']
  | braced v | bare v => v.group

/-- Is it the value that its name stands for? -/
def Declares (values : List Value) (v : Value) : Prop := values.find? (·.name == v.name) = some v

/-- Can the text be a name without braces? -/
structure IsPlainName (t : Text) : Prop where
  ne_nil : t ≠ []
  chars : ∀ c ∈ t, isPlainChar c
  start : ∀ c ∈ t.head?, c.isDigit = false

/-- Does the text split into the pieces, from left to right?  A name in braces ends at the first brace, and one without
    them takes all the characters of names that follow. -/
inductive Splits (values : List Value) : Text → List Piece → Prop
  | nil : Splits values [] []
  | run {u t : Text} {ps : List Piece} : '$' ∉ u → Splits values t ps → Splits values (u ++ t) (.run u :: ps)
  | dollar {t : Text} {ps : List Piece} : Splits values t ps → Splits values ('$' :: '$' :: t) (.dollar :: ps)
  | braced {v : Value} {t : Text} {ps : List Piece} : Declares values v → '}' ∉ v.name → Splits values t ps →
    Splits values ('$' :: '{' :: (v.name ++ '}' :: t)) (.braced v :: ps)
  | bare {v : Value} {t : Text} {ps : List Piece} : Declares values v → IsPlainName v.name →
    (∀ c ∈ t.head?, isPlainChar c = false) → Splits values t ps → Splits values ('$' :: (v.name ++ t)) (.bare v :: ps)

variable {values : List Value} {t u : Text}

/-! ## References -/

theorem group_eq_ok_iff {name s : Text} :
    group values name = .ok s ↔ ∃ v, Declares values v ∧ v.name = name ∧ v.group = s := by
  unfold group Declares
  constructor
  · intro h
    split at h
    · rename_i v hv
      cases h
      have hname : v.name = name := by simpa using List.find?_some hv
      exact ⟨v, hname.symm ▸ hv, hname, rfl⟩
    · cases h
  · rintro ⟨v, hv, rfl, rfl⟩
    rw [hv]

/-- What is read as a name starts with a character of names other than a digit. -/
theorem isPlainName_of_head {name : Text} (hchars : ∀ c ∈ name, isPlainChar c)
    (h : (name.head?.map (!·.isDigit)).getD false) : IsPlainName name := by
  cases name with
  | nil => cases h
  | cons c name =>
    refine ⟨List.cons_ne_nil _ _, hchars, fun d hd => ?_⟩
    cases hd
    simpa using h

/-- A name that needs no braces does not look like anything else behind a dollar sign. -/
theorem reference_of_isPlainName {name : Text} (h : IsPlainName name) (ht : ∀ c ∈ t.head?, isPlainChar c = false) :
    reference values (name ++ t) = (group values name).map (·, t) := by
  obtain ⟨c, name, rfl⟩ := List.exists_cons_of_ne_nil h.ne_nil
  have hc : isPlainChar c := h.chars c List.mem_cons_self
  have hspan : (c :: name ++ t).span isPlainChar = (c :: name, t) := Text.span_eq_iff.2 ⟨rfl, h.chars, ht⟩
  have hdigit : c.isDigit = false := h.start c rfl
  unfold reference
  split
  · rename_i heq
    obtain ⟨rfl, -⟩ := List.cons.inj heq
    exact absurd hc (by decide)
  · rename_i heq
    obtain ⟨rfl, -⟩ := List.cons.inj heq
    exact absurd hc (by decide)
  · simp only [hspan, List.head?_cons, Option.map_some, hdigit, Option.getD_some, Bool.not_false, if_true]

/-- **What is read behind a dollar sign**: another one, a name in braces, or a name without them. -/
theorem reference_eq_ok_iff {s rest : Text} : reference values t = .ok (s, rest) ↔
    (t = '$' :: rest ∧ ['$'] = s) ∨
    (∃ v, Declares values v ∧ '}' ∉ v.name ∧ t = '{' :: (v.name ++ '}' :: rest) ∧ v.group = s) ∨
    (∃ v, Declares values v ∧ IsPlainName v.name ∧ (∀ c ∈ rest.head?, isPlainChar c = false) ∧ t = v.name ++ rest ∧
      v.group = s) := by
  constructor
  · intro h
    unfold reference at h
    split at h
    · cases h
      exact .inl ⟨rfl, rfl⟩
    · split at h
      · rename_i hspan
        obtain ⟨g, hgroup, heq⟩ := exists_of_map h
        cases heq
        obtain ⟨v, hv, rfl, rfl⟩ := group_eq_ok_iff.1 hgroup
        obtain ⟨rfl, hname, hbrace⟩ := Text.span_eq_iff.1 hspan
        obtain rfl := bne_eq_false_iff_eq.1 (hbrace _ rfl)
        exact .inr (.inl ⟨v, hv, fun hmem => bne_iff_ne.1 (hname _ hmem) rfl, rfl, rfl⟩)
      · cases h
    · rcases hspan : t.span isPlainChar with ⟨name, rest'⟩
      simp only [hspan] at h
      split at h
      · rename_i hstart
        obtain ⟨g, hgroup, heq⟩ := exists_of_map h
        cases heq
        obtain ⟨v, hv, rfl, rfl⟩ := group_eq_ok_iff.1 hgroup
        obtain ⟨rfl, hchars, hrest⟩ := Text.span_eq_iff.1 hspan
        exact .inr (.inr ⟨v, hv, isPlainName_of_head hchars hstart, hrest, rfl, rfl⟩)
      · cases h
  · rintro (⟨rfl, rfl⟩ | ⟨v, hv, hname, rfl, rfl⟩ | ⟨v, hv, hname, hrest, rfl, rfl⟩)
    · rfl
    · have hspan : (v.name ++ '}' :: rest).span (· != '}') = (v.name, '}' :: rest) :=
        Text.span_append (fun c hc => bne_iff_ne.2 (ne_of_mem_of_not_mem hc hname)) (by decide) rest
      have hgroup : group values v.name = .ok v.group := group_eq_ok_iff.2 ⟨v, hv, rfl, rfl⟩
      simp only [reference, hspan, hgroup]
      rfl
    · rw [reference_of_isPlainName hname hrest, group_eq_ok_iff.2 ⟨v, hv, rfl, rfl⟩]
      rfl

/-- A reference leaves less than there was. -/
theorem length_le_of_reference {s rest : Text} (h : reference values t = .ok (s, rest)) : rest.length ≤ t.length := by
  rcases reference_eq_ok_iff.1 h with ⟨rfl, -⟩ | ⟨v, -, -, rfl, -⟩ | ⟨v, -, -, -, rfl, -⟩
  · simp
  · simp only [List.length_cons, List.length_append]; omega
  · simp

/-! ## One step -/

/-- The length of the text is fuel enough. -/
theorem substituteFrom_congr : ∀ {fuel fuel' : Nat} {t : Text}, t.length ≤ fuel → t.length ≤ fuel' →
    substituteFrom values fuel t = substituteFrom values fuel' t
  | 0, 0, _, _, _ => rfl
  | 0, _ + 1, [], _, _ => rfl
  | _ + 1, 0, [], _, _ => rfl
  | _ + 1, _ + 1, [], _, _ => rfl
  | fuel + 1, fuel' + 1, c :: t, h, h' => by
    have h := Nat.le_of_succ_le_succ h
    have h' := Nat.le_of_succ_le_succ h'
    unfold substituteFrom
    split
    · rcases href : reference values t with e | ⟨s, rest⟩
      · rfl
      · have hrest := length_le_of_reference href
        simp only [bind, Except.bind, substituteFrom_congr (hrest.trans h) (hrest.trans h')]
    · rw [substituteFrom_congr h h']

end Substitution

open Substitution

variable {values : List Value} {t u : Text}

/-- A character other than a dollar sign stays. -/
theorem substitute_cons {c : Char} (hc : c ≠ '$') (t : Text) :
    substitute values (c :: t) = (substitute values t).map (c :: ·) := by
  rw [substitute, List.length_cons, substituteFrom, if_neg hc]
  rfl

/-- What is read behind a dollar sign is put in for it, and only the rest is read on. -/
theorem substitute_dollar (t : Text) : substitute values ('$' :: t) =
    (reference values t).bind fun p => (substitute values p.2).map (p.1 ++ ·) := by
  rw [substitute, List.length_cons, substituteFrom, if_pos rfl]
  rcases href : reference values t with e | ⟨s, rest⟩
  · rfl
  · have hrest := length_le_of_reference href
    simp only [bind, Except.bind, substitute, substituteFrom_congr hrest (Nat.le_refl _)]
    cases substituteFrom values rest.length rest <;> rfl

theorem substitute_of_reference {s rest : Text} (h : reference values t = .ok (s, rest)) :
    substitute values ('$' :: t) = (substitute values rest).map (s ++ ·) := by
  rw [substitute_dollar, h, Except.bind]

/-- Text without a dollar sign stays. -/
theorem substitute_run : ∀ {u : Text}, '$' ∉ u → ∀ t, substitute values (u ++ t) = (substitute values t).map (u ++ ·)
  | [], _, t => by cases h : substitute values t <;> simp [h, Except.map]
  | c :: u, hu, t => by
    rw [List.mem_cons, not_or] at hu
    rw [List.cons_append, substitute_cons (Ne.symm hu.1), substitute_run hu.2]
    cases substitute values t <;> rfl

/-! ## The whole rule -/

/-- What comes of a rule is told by its pieces. -/
theorem substitute_of_splits {ps : List Piece} (h : Splits values t ps) :
    substitute values t = .ok (ps.flatMap Piece.expansion) := by
  induction h with
  | nil => rfl
  | run hu _ ih => rw [substitute_run hu, ih]; rfl
  | dollar _ ih => rw [substitute_of_reference (reference_eq_ok_iff.2 (.inl ⟨rfl, rfl⟩)), ih]; rfl
  | braced hv hname _ ih =>
    rw [substitute_of_reference (reference_eq_ok_iff.2 (.inr (.inl ⟨_, hv, hname, rfl, rfl⟩))), ih]; rfl
  | bare hv hname hrest _ ih =>
    rw [substitute_of_reference (reference_eq_ok_iff.2 (.inr (.inr ⟨_, hv, hname, hrest, rfl, rfl⟩))), ih]; rfl

/-- A rule whose references can be replaced splits into pieces. -/
theorem exists_splits : ∀ (t : Text) {u : Text}, substitute values t = .ok u → ∃ ps, Splits values t ps
  | [], _, _ => ⟨[], .nil⟩
  | c :: t, u, h => by
    by_cases hc : c = '$'
    · subst hc
      rw [substitute_dollar] at h
      obtain ⟨⟨s, rest⟩, href, h⟩ := exists_of_bind h
      obtain ⟨u, hu, -⟩ := exists_of_map h
      have hlength := length_le_of_reference href
      obtain ⟨ps, hps⟩ := exists_splits rest hu
      rcases reference_eq_ok_iff.1 href with ⟨rfl, -⟩ | ⟨v, hv, hname, rfl, -⟩ | ⟨v, hv, hname, hrest, rfl, -⟩
      · exact ⟨_, .dollar hps⟩
      · exact ⟨_, .braced hv hname hps⟩
      · exact ⟨_, .bare hv hname hrest hps⟩
    · rw [substitute_cons hc] at h
      obtain ⟨u, hu, -⟩ := exists_of_map h
      obtain ⟨ps, hps⟩ := exists_splits t hu
      have hrun : '$' ∉ [c] := fun hmem => hc (List.mem_singleton.1 hmem).symm
      exact ⟨_, .run hrun hps⟩
termination_by t => t.length

/-- **References in rules.**  The references of a rule can be replaced if and only if the rule splits, from left to
    right, into text without a dollar sign, doubled dollar signs, names of values in braces, and names of values without
    them.  What comes of it are these pieces in a row, with a dollar sign for two, and the group of the value for its
    name; a dollar sign that has been put in, or that stands in a group, is not read again. -/
theorem substitute_eq_ok_iff (values : List Value) (t u : Text) :
    substitute values t = .ok u ↔ ∃ ps, Splits values t ps ∧ ps.flatMap Piece.expansion = u := by
  constructor
  · intro h
    obtain ⟨ps, hps⟩ := exists_splits t h
    exact ⟨ps, hps, Except.ok.inj ((substitute_of_splits hps).symm.trans h)⟩
  · rintro ⟨ps, hps, rfl⟩
    exact substitute_of_splits hps

/-- What has been put in is kept as it is, be it a dollar sign for two of them or one in the pattern of a value. -/
example : substitute [⟨['A'], "($|${B})".toList, []⟩] "^$$$A $${A}$$".toList =
    .ok "^$(?P<A>$|${B}) ${A}$".toList := by decide +kernel

/-- A name without braces goes on as long as it can, and one in braces up to the first brace. -/
example : substitute [⟨['A'], "(a)".toList, []⟩] "$AB".toList = .error (.unknownValue "AB".toList) ∧
    substitute [⟨['A'], "(a)".toList, []⟩] "$\x7bA$\x7d".toList = .error (.unknownValue "A$".toList) ∧
    substitute [⟨['A'], "(a)".toList, []⟩] "$\x7bA".toList = .error .unterminated ∧
    substitute [⟨['1'], "(a)".toList, []⟩] "$1".toList = .error .badPlaceholder := by decide +kernel

end Readout.Template
