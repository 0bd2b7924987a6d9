/-
  Expressions that are written with a caret in front.

  * `Node.first` is the first part of a sequence, `Node.optionalCaret` says that it is a caret that may be left
    out;
  * `StartsWithCaret` is what such an expression can be: anchored, or with a caret in front that may be left
    out, or with alternatives;
  * `startsWithCaret_of_parse`: an expression that is written with a caret in front is one of these.
-/
import Readout.Proofs.Regex.Anchored

namespace Readout.Regex

namespace Node

/-- The first part of a sequence. -/
def first : Node → Node
  | seq a _ => a
  | a => a

/-- Is it a caret that is repeated, and need not be there? -/
def optionalCaret (a : Node) : Prop :=
  ∃ max greedy, a = .loop (.anchor .textStart) 0 max greedy ∨
    a = .atomic (.loop (.anchor .textStart) 0 max greedy)

/-- What an expression can be that is written with a caret in front. -/
def StartsWithCaret (a : Node) : Prop :=
  a.anchored ∨ a.first.optionalCaret ∨ ∃ b c, a = .alt b c

theorem loop_caret {min : Nat} {max : Option Nat} (hmax : ¬ max.any (· < min)) (greedy : Bool) :
    (loop (.anchor .textStart) min max greedy).anchored ∨ min = 0 := by
  cases min with
  | zero => exact Or.inr rfl
  | succ min =>
    refine Or.inl ?_
    rcases max with _ | _ | max
    · rfl
    · exact absurd rfl hmax
    · rfl

/-- A repeated caret is anchored, or may be left out. -/
theorem repeated_caret {a : Node} {min : Nat} {max : Option Nat} {greedy : Bool} (hmax : ¬ max.any (· < min))
    (ha : a = .loop (.anchor .textStart) min max greedy ∨
      a = .atomic (.loop (.anchor .textStart) min max greedy)) : a.anchored ∨ a.optionalCaret := by
  rcases loop_caret hmax greedy with hloop | rfl
  · refine Or.inl ?_
    rcases ha with rfl | rfl
    · exact hloop
    · exact hloop
  · exact Or.inr ⟨max, greedy, ha⟩

theorem startsWithCaret_concat {a : Node} (ha : a.anchored ∨ a.optionalCaret) (as : List Node) :
    (concat (a :: as)).StartsWithCaret := by
  cases as with
  | nil =>
    rcases ha with ha | ⟨max, greedy, rfl | rfl⟩
    · exact Or.inl ha
    · exact Or.inr (Or.inl ⟨max, greedy, Or.inl rfl⟩)
    · exact Or.inr (Or.inl ⟨max, greedy, Or.inr rfl⟩)
  | cons b as =>
    rcases ha with ha | ha
    · exact Or.inl ha
    · exact Or.inr (Or.inl ha)

end Node

namespace LinePattern

open Node (StartsWithCaret)

/-! ## The reader -/

/-- A part stays as it is, or is repeated. -/
theorem cases_of_readSuffix {a b : Node} {r r' : Reading} {t t' : Text}
    (h : readSuffix? a r t = some (b, r', t')) :
    r' = r ∧ (b = a ∨ ∃ min max greedy, ¬ max.any (· < min) ∧
      (b = .loop a min max greedy ∨ b = .atomic (.loop a min max greedy))) := by
  simp only [readSuffix?, bind, Option.bind_eq_some_iff] at h
  obtain ⟨u, -, h⟩ := h
  split at h
  · cases h; exact ⟨rfl, Or.inl rfl⟩
  · rename_i min max _ _
    split at h
    · cases h
    · rename_i hbounds
      obtain ⟨w, -, h⟩ := Option.bind_eq_some_iff.1 h
      have hmax : ¬ max.any (· < min) := fun hlt => hbounds (Or.inr hlt)
      split at h
      · cases h; exact ⟨rfl, Or.inr ⟨min, max, _, hmax, Or.inr rfl⟩⟩
      · cases h; exact ⟨rfl, Or.inr ⟨min, max, _, hmax, Or.inl rfl⟩⟩

section
variable {fuel depth : Nat} {r r' : Reading} {t rest : Text}

theorem skip_caret (hr : r.flags = {}) : r.skip? ('^' :: t) = some ('^' :: t) := by
  simp [Reading.skip?, skip?, hr]

theorem readAtom_caret (hr : r.flags = {}) :
    readAtom? (fuel + 1) depth r ('^' :: t) = some (.anchor .textStart, r, t) := by
  rw [readAtom?, skip_caret hr]
  simp [hr, Flags.caret]

/-- The parts behind a caret: the caret is the first of them, unless the reader does not go on at all. -/
theorem readParts_caret (hr : r.flags = {}) {as : List Node}
    (h : readParts? fuel depth r ('^' :: t) = some (as, r', rest)) :
    as = [] ∧ r' = r ∧ rest = '^' :: t ∨
      ∃ a as', as = a :: as' ∧ (a.anchored ∨ a.optionalCaret) := by
  rcases fuel with _ | _ | fuel
  · rw [readParts?] at h; cases h
  · simp [readParts?, readAtom?] at h
  · rw [readParts?, readAtom_caret hr] at h
    simp only [List.isEmpty_cons, Bool.false_eq_true, if_false, bind, Option.bind_some,
      Option.bind_eq_some_iff] at h
    obtain ⟨⟨a, q, t'⟩, hsuffix, h⟩ := h
    obtain ⟨rfl, ha⟩ := cases_of_readSuffix hsuffix
    split at h
    · cases h; exact Or.inl ⟨rfl, rfl, rfl⟩
    · obtain ⟨⟨as', q', t''⟩, -, h⟩ := Option.bind_eq_some_iff.1 h
      have hcaret : a.anchored ∨ a.optionalCaret := by
        rcases ha with rfl | ⟨min, max, greedy, hmax, hloop⟩
        · exact Or.inl rfl
        · exact Node.repeated_caret hmax hloop
      have hne : a ≠ .empty := by
        rintro rfl
        rcases hcaret with hloop | ⟨_, _, hloop | hloop⟩ <;> cases hloop
      rw [if_neg hne] at h
      cases h
      exact Or.inr ⟨a, as', rfl, hcaret⟩

theorem readBranches_caret (hr : r.flags = {}) {bs : List Node}
    (h : readBranches? fuel depth r ('^' :: t) = some (bs, r', rest)) :
    rest = '^' :: t ∨ ∃ b bs', bs = b :: bs' ∧ b.StartsWithCaret := by
  rcases fuel with _ | fuel
  · rw [readBranches?] at h; cases h
  · simp only [readBranches?, bind, Option.bind_eq_some_iff] at h
    obtain ⟨⟨as, q, u⟩, hparts, w, hw, h⟩ := h
    rcases readParts_caret hr hparts with ⟨rfl, rfl, rfl⟩ | ⟨a, as', rfl, ha⟩
    · rw [skip_caret hr] at hw
      cases hw
      cases h
      exact Or.inl rfl
    · refine Or.inr ?_
      split at h
      · obtain ⟨⟨bs', q', u'⟩, -, h⟩ := Option.bind_eq_some_iff.1 h
        cases h
        exact ⟨_, bs', rfl, Node.startsWithCaret_concat ha as'⟩
      · cases h
        exact ⟨_, [], rfl, Node.startsWithCaret_concat ha as'⟩

theorem readChoice_caret (hr : r.flags = {}) {a : Node}
    (h : readChoice? fuel depth r ('^' :: t) = some (a, r', [])) : a.StartsWithCaret := by
  rcases fuel with _ | fuel
  · rw [readChoice?] at h; cases h
  · simp only [readChoice?, bind, Option.bind_eq_some_iff] at h
    obtain ⟨⟨bs, q, u⟩, hbranches, h⟩ := h
    have hread : u = [] → ∃ b bs', bs = b :: bs' ∧ b.StartsWithCaret := by
      rintro rfl
      exact (readBranches_caret hr hbranches).resolve_left (List.cons_ne_nil '^' t).symm
    split at h
    · -- a single branch is the expression itself
      rename_i hone
      split at h
      · cases h
      · cases h
        obtain ⟨c, bs', hbs, hc⟩ := hread rfl
        cases hbs.symm.trans hone
        exact hc
    · -- several branches make alternatives
      rename_i hmany
      cases h
      obtain ⟨b, bs', rfl, -⟩ := hread rfl
      cases bs' with
      | nil => exact absurd rfl (hmany b)
      | cons c bs' => exact Or.inr (Or.inr ⟨b, _, rfl⟩)

end

/-- What is done to the end of an expression leaves its first part as it is. -/
theorem startsWithCaret_openEnd {a : Node} (ha : a.StartsWithCaret) : (openEnd a).StartsWithCaret := by
  unfold openEnd
  split
  · rcases ha with ha | ha | ⟨_, _, ⟨⟩⟩
    · exact Or.inl ha
    · exact Or.inr (Or.inl ha)
  · rcases ha with ha | ha | ⟨_, _, ⟨⟩⟩
    · exact Or.inl ha
    · exact Or.inr (Or.inl ha)
  · exact ha

/-- **What an expression is that is written with a caret in front.** -/
theorem startsWithCaret_of_parse {t : Text} {p : LinePattern} (h : parse? ('^' :: t) = some p) :
    p.node.StartsWithCaret := by
  simp only [parse?, bind, Option.bind_eq_some_iff] at h
  obtain ⟨⟨a, r, rest⟩, hread, h⟩ := h
  split at h
  · rename_i hchecks
    cases h
    have hrest : rest = [] := by
      simp only [Bool.and_eq_true, List.isEmpty_iff] at hchecks
      exact hchecks.1.1.1
    subst hrest
    exact startsWithCaret_openEnd (readChoice_caret rfl hread)
  · cases h

end LinePattern

end Readout.Regex
