/-
  Groups at the start of an expression.

  * `readChoice_of_skip`: comments in front of an expression do not matter;
  * `readAtom_open`, `readAtom_named`: a group, plain or with a name, is read as what stands in its parentheses;
  * `readBranches_of_atom`: an expression that is a part to its end is this part;
  * `parse_of_readChoice`, `parse_eq_some`: an expression is accepted if it is read to its end, within the limits.
-/
import Readout.Proofs.Regex.Nesting
import Readout.Proofs.Text.Lines

namespace Readout.Regex.LinePattern

section
variable {fuel depth : Nat} {r r' q : Reading} {t u w y z : Text} {a : Node}

/-! ## Comments in front of an expression -/

theorem readAtom_of_skip (hskip : r.skip? t = some w) (fuel depth : Nat) :
    readAtom? fuel depth r t = readAtom? fuel depth r w := by
  cases fuel with
  | zero => rw [readAtom?, readAtom?]
  | succ fuel => rw [readAtom_succ, readAtom_succ, hskip, skip_skip hskip]

/-- A part that takes nothing off the text is an operator in the way. -/
theorem atomAt_unmoved {c : Char} (h : atomAt? fuel depth r (c :: w) = some (a, r', c :: w)) :
    r' = r ∧ ∀ fuel, atomAt? fuel depth r (c :: w) = some (.empty, r, c :: w) := by
  by_cases hoperator : c ∈ ['+', '*', '?', '|', ')']
  · rw [atomAt_operator hoperator] at h
    cases h
    exact ⟨rfl, fun fuel => atomAt_operator hoperator fuel depth r w⟩
  -- everything else takes off a character at least
  have hmoves (hrest : c :: w <:+ w) : False := by
    have hlength := hrest.length_le
    rw [List.length_cons] at hlength; omega
  by_cases hopen : c = '('
  · subst hopen
    rw [atomAt?, if_pos rfl] at h
    split at h
    · exact (hmoves ((going fuel).group h).rest).elim
    · cases h
  by_cases hquote : c = '\\'
  · subst hquote
    obtain ⟨⟨e, q, z⟩, hescape, h⟩ := Option.map_eq_some_iff.1 h
    cases h
    exact (hmoves (steady_readEscape fuel depth hescape).rest).elim
  by_cases hbracket : c = '['
  · subst hbracket
    exact (hmoves (steady_readBracket fuel depth h).rest).elim
  · rw [atomAt_plain (by simp_all)] at h
    cases h

theorem readParts_nil (fuel depth : Nat) (r : Reading) : readParts? (fuel + 1) depth r [] = some ([], r, []) := by
  rw [readParts?]; rfl

theorem readSuffix_empty_nil (r : Reading) (a : Node) : readSuffix? a r [] = some (a, r, []) := rfl

/-- Comments in front of a sequence do not matter. -/
theorem readParts_of_skip {as : List Node} (hskip : r.skip? t = some w)
    (h : readParts? (fuel + 3) depth r w = some (as, r', u)) : readParts? (fuel + 3) depth r t = some (as, r', u) := by
  by_cases hsame : t = w
  · rwa [hsame]
  have hsuffix := Reading.suffix_of_skip hskip
  have hlt : w.length < t.length := lt_of_le_of_ne hsuffix.length_le fun heq => hsame (hsuffix.eq_of_length heq).symm
  have ht : t ≠ [] := by rintro rfl; exact absurd hlt (Nat.not_lt_zero _)
  rcases w with _ | ⟨c, w⟩
  · rw [readParts_nil] at h
    cases h
    have hatom : readAtom? (fuel + 2) depth r t = some (.empty, r, []) := by
      rw [readAtom_succ, hskip]; rfl
    rw [readParts_of_atom ht hatom (readSuffix_empty_nil r .empty), if_neg (Nat.ne_of_lt hlt), readParts_nil]
    rfl
  · obtain ⟨hnil, -⟩ | ⟨-, a, r₁, t₁, b, t₂, hatom, hend, hrest⟩ := readParts_eq_some h
    · cases hnil
    have hatom' := hatom
    rw [← readAtom_of_skip hskip] at hatom'
    have hlt₂ : t₂.length < t.length :=
      lt_of_le_of_lt ((suffix_of_readSuffix hend).trans ((going _).atom hatom).rest).length_le hlt
    rw [readParts_of_atom ht hatom' hend, if_neg (Nat.ne_of_lt hlt₂)]
    rcases hrest with ⟨hstop, rfl, rfl, rfl⟩ | ⟨-, as', hparts, rfl⟩
    · have ht₁ := ((going _).atom hatom).rest
      have hsame₂ : t₂ = c :: w := ((suffix_of_readSuffix hend).trans ht₁).eq_of_length hstop
      subst hsame₂
      obtain rfl : t₁ = c :: w := ht₁.eq_of_length (le_antisymm ht₁.length_le (suffix_of_readSuffix hend).length_le)
      rw [readAtom_succ, skip_skip hskip] at hatom
      obtain ⟨rfl, hatom''⟩ := atomAt_unmoved hatom
      obtain rfl : a = .empty := by
        rw [Option.bind_some, hatom''] at hatom
        cases hatom; rfl
      obtain rfl : b = .empty := by
        obtain ⟨-, _, -, ⟨-, rfl, -⟩ | ⟨hne, -⟩⟩ := readSuffix_eq_some hend
        · rfl
        · exact absurd rfl hne
      have hagain : readAtom? (fuel + 1) depth r' (c :: w) = some (.empty, r', c :: w) := by
        rw [readAtom_succ, skip_skip hskip]; exact hatom'' fuel
      rw [readParts_of_atom (List.cons_ne_nil _ _) hagain hend, if_pos rfl]
      rfl
    · rw [hparts]; rfl

/-- **Comments in front of an expression do not matter.** -/
theorem readChoice_of_skip (hskip : r.skip? t = some w) (h : readChoice? (fuel + 5) depth r w = some (a, r', u)) :
    readChoice? (fuel + 5) depth r t = some (a, r', u) := by
  have hbranches (bs : List Node) (q : Reading) (z : Text)
      (h : readBranches? (fuel + 4) depth r w = some (bs, q, z)) :
      readBranches? (fuel + 4) depth r t = some (bs, q, z) := by
    obtain ⟨as, r₁, t₁, v, hparts, hskip₁, ⟨hhead, rfl, rfl, rfl⟩ | ⟨v, bs', rfl, hrec, rfl⟩⟩ := readBranches_eq_some h
    · exact readBranches_last (readParts_of_skip hskip hparts) hskip₁ hhead
    · rw [readBranches_bar (readParts_of_skip hskip hparts) hskip₁, hrec]; rfl
  rw [readChoice?] at h ⊢
  obtain ⟨⟨bs, q, z⟩, hread, h⟩ := Option.bind_eq_some_iff.1 h
  rw [hbranches bs q z hread]
  exact h

/-! ## Groups -/

theorem skip_open (ht : ¬ StartsRemark ('(' :: t)) : r.skip? ('(' :: t) = some ('(' :: t) := by
  rw [Reading.skip?, skip_of_not_startsRemark ht]
  simp

/-- A plain group is read as what stands in its parentheses. -/
theorem readAtom_open {c : Char} (ht : ¬ StartsRemark ('(' :: t)) (hskip : r.skip? t = some (c :: w)) (hc : c ≠ '?')
    (hdepth : depth + 1 < depthLimit) : readAtom? (fuel + 2) depth r ('(' :: t) =
      inside? fuel (depth + 1) (.group (r.groups + 1)) r.enter (c :: w) := by
  rw [readAtom_succ, skip_open ht]
  simp only [Option.bind_some, atomAt?, if_pos, hdepth]
  rw [readGroup_succ, hskip]
  exact groupAt_plain hc fuel (depth + 1) r w

theorem readName_append_close {close : Char} {name : Text} (hne : name ≠ []) (hname : ∀ c ∈ name, isNameChar c)
    (hclose : isNameChar close = false) (t : Text) : readName? close (name ++ close :: t) = some (name, t) := by
  rw [readName?, Text.span_append hname hclose]
  obtain ⟨c, name, rfl⟩ := List.exists_cons_of_ne_nil hne
  simp

/-- A group with a name is read as what stands in its parentheses. -/
theorem readAtom_named {name : Text} (hne : name ≠ []) (hname : ∀ c ∈ name, isNameChar c) (fuel depth : Nat)
    (r : Reading) (t : Text) : readAtom? (fuel + 2) depth r ('(' :: '?' :: 'P' :: '<' :: (name ++ '>' :: t)) =
      if depth + 1 < depthLimit then
        inside? fuel (depth + 1) (.group (r.groups + 1)) (r.enterNamed name) t
      else none := by
  have hremark : ¬ StartsRemark ('(' :: '?' :: 'P' :: '<' :: (name ++ '>' :: t)) := by
    rintro ⟨t', h⟩
    cases h
  rw [readAtom_succ, skip_open hremark, Option.bind_some, atomAt?, if_pos rfl]
  congr 1
  rw [readGroup_succ, skip_cons (by decide), Option.bind_some]
  change named? fuel (depth + 1) '>' r (name ++ '>' :: t) = _
  rw [named?, readName_append_close hne hname (by decide)]

/-! ## Expressions of one part -/

/-- An expression that is a part to its end has no other branches. -/
theorem readBranches_of_atom (ht : t ≠ []) (hatom : readAtom? fuel depth r t = some (a, r', []))
    (ha : a ≠ .empty) : readBranches? (fuel + 2) depth r t = some ([a], r', []) := by
  have hlength : ([] : Text).length ≠ t.length := (List.length_pos_iff.2 ht).ne
  have hparts : readParts? (fuel + 1) depth r t = some ([a], r', []) := by
    cases fuel with
    | zero => rw [readAtom?] at hatom; cases hatom
    | succ fuel =>
      rw [readParts_of_atom ht hatom (readSuffix_empty_nil r' a), if_neg hlength, readParts_nil, Option.map_some,
        if_neg ha]
  exact readBranches_last hparts (skip_nil r') (by simp)

/-- An operator is not the start of an expression. -/
theorem readChoice_operator (hskip : r.skip? t = some ('?' :: w)) : readChoice? fuel depth r t = none := by
  have ht : t ≠ [] := by rintro rfl; cases hskip
  have hparts (fuel : Nat) : readParts? fuel depth r t = none := by
    rw [Option.eq_none_iff_forall_ne_some]
    rintro ⟨as, q, z⟩ h
    cases fuel with
    | zero => rw [readParts?] at h; cases h
    | succ fuel =>
      obtain ⟨hnil, -⟩ | ⟨-, a, r₁, t₁, b, t₂, hatom, hsuffix, -⟩ := readParts_eq_some h
      · exact ht hnil
      cases fuel with
      | zero => rw [readAtom?] at hatom; cases hatom
      | succ fuel =>
        rw [readAtom_succ, hskip, Option.bind_some, atomAt_operator (by decide)] at hatom
        cases hatom
        obtain ⟨-, v, hv, ⟨hnone, -⟩ | ⟨hne, -⟩⟩ := readSuffix_eq_some hsuffix
        · rw [skip_cons (by decide)] at hv
          cases hv
          cases hnone
        · exact hne rfl
  rw [Option.eq_none_iff_forall_ne_some]
  rintro ⟨a, q, z⟩ h
  cases fuel with
  | zero => rw [readChoice?] at h; cases h
  | succ fuel =>
    obtain ⟨bs, hbranches, -⟩ := readChoice_eq_some h
    cases fuel with
    | zero => rw [readBranches?] at hbranches; cases hbranches
    | succ fuel =>
      obtain ⟨as, r₁, t₁, w', hread, -⟩ := readBranches_eq_some hbranches
      rw [hparts] at hread; cases hread

end

/-! ## Whole expressions -/

/-- Is the expression within the limits, with references to `groups` groups at most? -/
def admissible (groups : Nat) (a : Node) : Bool :=
  (openEnd a).references.all (fun g => 0 < g && g ≤ groups) && decidable (openEnd a).references (openEnd a) &&
    (openEnd a).fits

/-- The state in which an expression is read. -/
def Reading.begin (t : Text) : Reading := { bound := Text.bytes t / 2 }

theorem parse_of_readChoice {t : Text} {a : Node} {r : Reading}
    (h : readChoice? (8 * (t.length + 1)) 0 (.begin t) t = some (a, r, [])) :
    parse? t = if admissible r.groups a then some ⟨openEnd a, r.names⟩ else none := by
  have hread : readChoice? (8 * (t.length + 1)) 0 { bound := Text.bytes t / 2 } t = some (a, r, []) := h
  rw [parse?, hread]
  rfl

theorem parse_eq_some {t : Text} {p : LinePattern} (h : parse? t = some p) : ∃ a r,
    readChoice? (8 * (t.length + 1)) 0 (.begin t) t = some (a, r, []) ∧ admissible r.groups a ∧
      p = ⟨openEnd a, r.names⟩ := by
  have h' := h
  simp only [parse?, bind, Option.bind_eq_some_iff] at h'
  obtain ⟨⟨a, r, rest⟩, hread, h'⟩ := h'
  have hrest : rest = [] := by
    split at h'
    · rename_i hchecks
      simp only [Bool.and_eq_true, List.isEmpty_iff] at hchecks
      exact hchecks.1.1.1
    · cases h'
  subst hrest
  rw [parse_of_readChoice hread] at h
  split at h
  · rename_i hadmissible
    cases h; exact ⟨a, r, hread, hadmissible, rfl⟩
  · cases h

/-- What does not start with a part is refused. -/
theorem parse_eq_none {t : Text} (ht : t ≠ [])
    (h : ∀ fuel depth q, q.flags.ignoreSpace = false → readAtom? fuel depth q t = none) : parse? t = none := by
  rw [Option.eq_none_iff_forall_ne_some]
  intro p hp
  obtain ⟨x, r, hread, -⟩ := parse_eq_some hp
  obtain ⟨fuel, hfuel⟩ : ∃ fuel, 8 * (t.length + 1) = fuel + 3 := ⟨8 * t.length + 5, by omega⟩
  rw [hfuel] at hread
  obtain ⟨bs, hbranches, -⟩ := readChoice_eq_some hread
  obtain ⟨as, r₁, t₁, w, hparts, -⟩ := readBranches_eq_some hbranches
  obtain ⟨hnil, -⟩ | ⟨-, b, q, u, -, -, hatom, -⟩ := readParts_eq_some hparts
  · exact ht hnil
  · rw [h _ _ _ rfl] at hatom; cases hatom

/-- The oldest of the names stands for its group if no other group has it. -/
theorem group_append {a : Node} {names : List (Text × Nat)} {name : Text} {g : Nat}
    (h : ∀ g', (name, g') ∉ names) : group? ⟨a, names ++ [(name, g)]⟩ name = some g := by
  have hnone : names.find? (·.1 == name) = none := by
    rw [List.find?_eq_none]
    rintro ⟨name', g'⟩ hmem hsame
    obtain rfl : name' = name := by simpa using hsame
    exact h g' hmem
  rw [group?, List.find?_append, hnone]
  simp

end Readout.Regex.LinePattern
