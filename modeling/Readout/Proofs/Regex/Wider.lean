/-
  Expressions that match more.

  * `Chain` tells the matches of parts one behind the other;
  * `Part.Wider`: a part that matches wherever another one does, and is not much deeper; `Merged`: a part in place of
    several ones;
  * `Widens`, `Reading.Wider`: readings of two expressions, of which the second one has such parts;
  * `perform_wider`: an act keeps this up, if it does not repeat one of several parts that have been merged.
-/
import Mathlib.Data.List.Forall2
import Readout.Proofs.Regex.Acts
import Readout.Proofs.Regex.Meaning

namespace Readout.Regex.CommandPattern

/-! ## Parts one behind the other -/

/-- Do the parts match one behind the other? -/
def Chain (t : Text) : List Part → Nat → Nat → Prop
  | [], i, j => i = j
  | p :: ps, i, j => ∃ m, p.node.Matches t i m ∧ Chain t ps m j

section
variable {t : Text} {ps qs : List Part} {p q : Part} {i j : Nat}

theorem chain_append : Chain t (ps ++ qs) i j ↔ ∃ m, Chain t ps i m ∧ Chain t qs m j := by
  induction ps generalizing i with
  | nil => simp [Chain]
  | cons p ps ih =>
    simp only [List.cons_append, Chain, ih]
    constructor
    · rintro ⟨m, hm, m', hps, hqs⟩
      exact ⟨m', ⟨m, hm, hps⟩, hqs⟩
    · rintro ⟨m', ⟨m, hm, hps⟩, hqs⟩
      exact ⟨m, hm, m', hps, hqs⟩

theorem chain_singleton : Chain t [p] i j ↔ p.node.Matches t i j := by simp [Chain]

/-- **Parts side by side match one behind the other.** -/
theorem matches_concat : (Part.concat ps).node.Matches t i j ↔ Chain t ps i j := by
  have hnodes : ∀ (ps : List Part) (i : Nat), (Node.concat (ps.map (·.node))).Matches t i j ↔ Chain t ps i j := by
    intro ps
    induction ps with
    | nil => exact fun i => Iff.rfl
    | cons p ps ih =>
      intro i
      cases ps with
      | nil => exact chain_singleton.symm
      | cons q ps => exact exists_congr fun m => and_congr_right fun _ => ih m
  rw [node_concat]
  exact hnodes ps i

theorem depthOf_append : depthOf (ps ++ qs) = Nat.max (depthOf ps) (depthOf qs) := by
  induction ps with
  | nil => exact (Nat.zero_max _).symm
  | cons p ps ih =>
    change Nat.max p.depth (depthOf (ps ++ qs)) = Nat.max (Nat.max p.depth (depthOf ps)) (depthOf qs)
    rw [ih]
    exact (Nat.max_assoc _ _ _).symm

theorem depthOf_reverse : depthOf ps.reverse = depthOf ps := by
  induction ps with
  | nil => rfl
  | cons p ps ih =>
    rw [List.reverse_cons, depthOf_append, ih]
    exact (congrArg (Nat.max (depthOf ps)) (Nat.max_zero p.depth)).trans (Nat.max_comm _ _)

theorem depth_concat (h : 2 ≤ ps.length) : (Part.concat ps).depth = depthOf ps + 1 := by
  match ps with
  | [] | [_] => simp at h
  | _ :: _ :: _ => rfl

theorem depthOf_le_concat : depthOf ps ≤ (Part.concat ps).depth := by
  match ps with
  | [] => exact Nat.le_refl _
  | [p] => exact Nat.le_of_eq (Nat.max_zero _)
  | _ :: _ :: _ => exact Nat.le_succ _

end

/-! ## Wider parts -/

/-- Does `q` match wherever `p` does, and is it `k` levels deeper at most? -/
structure Part.Wider (k : Nat) (p q : Part) : Prop where
  depth : q.depth ≤ p.depth + k
  accepts : ∀ t i j, p.node.Matches t i j → q.node.Matches t i j

/-- Can `q` stand for all of the parts, one behind the other? -/
structure Merged (k : Nat) (ps : List Part) (q : Part) : Prop where
  ne : ps ≠ []
  depth : q.depth ≤ depthOf ps + k
  accepts : ∀ t i j, Chain t ps i j → q.node.Matches t i j

/-- Parts of which the second ones stand for one or more of the first ones each; the last parts come first. -/
inductive Widens (k : Nat) : List Part → List Part → Prop where
  | nil : Widens k [] []
  | merge {bs ps qs : List Part} {q : Part} (h : Merged k bs.reverse q) (hs : Widens k ps qs) :
      Widens k (bs ++ ps) (q :: qs)

/-- Does the last of the second parts stand for the last one of the first ones only? -/
inductive Headed (k : Nat) : List Part → List Part → Prop where
  | nil : Headed k [] []
  | cons {p q : Part} {ps qs : List Part} (hsolid : p.solid = q.solid) (h : p.Wider k q) (hs : Widens k ps qs) :
      Headed k (p :: ps) (q :: qs)

section
variable {k : Nat} {ps qs : List Part} {p q : Part}

/-- A level more around both. -/
theorem deeper {m n : Nat} (h : n ≤ m + k) : n + 1 ≤ m + 1 + k := by omega

theorem max_deeper {m m' n n' : Nat} (h : n ≤ m + k) (h' : n' ≤ m' + k) : Nat.max n n' ≤ Nat.max m m' + k :=
  Nat.max_le.2 ⟨h.trans (Nat.add_le_add_right (Nat.le_max_left _ _) k),
    h'.trans (Nat.add_le_add_right (Nat.le_max_right _ _) k)⟩

theorem Part.Wider.refl (p : Part) : p.Wider k p := ⟨Nat.le_add_right _ _, fun _ _ _ => id⟩

theorem depthOf_singleton (p : Part) : depthOf [p] = p.depth := Nat.max_zero _

theorem Part.Wider.merged (h : p.Wider k q) : Merged k [p] q where
  ne := List.cons_ne_nil _ _
  depth := (depthOf_singleton p).symm ▸ h.depth
  accepts t i j hchain := h.accepts t i j (chain_singleton.1 hchain)

theorem Merged.wider (h : Merged k [p] q) : p.Wider k q where
  depth := depthOf_singleton p ▸ h.depth
  accepts t i j hmatch := h.accepts t i j (chain_singleton.2 hmatch)

theorem Part.Wider.widens (h : p.Wider k q) (hs : Widens k ps qs) : Widens k (p :: ps) (q :: qs) :=
  @Widens.merge k [p] ps qs q h.merged hs

theorem Headed.widens (h : Headed k ps qs) : Widens k ps qs := by
  cases h with
  | nil => exact .nil
  | cons _ h hs => exact h.widens hs

theorem Widens.chain (h : Widens k ps qs) {t : Text} {i j : Nat} (hchain : Chain t ps.reverse i j) :
    Chain t qs.reverse i j := by
  induction h generalizing j with
  | nil => exact hchain
  | merge hmerged _ ih =>
    rw [List.reverse_append, chain_append] at hchain
    obtain ⟨m, hps, hbs⟩ := hchain
    rw [List.reverse_cons, chain_append]
    exact ⟨m, ih hps, chain_singleton.2 (hmerged.accepts t m j hbs)⟩

theorem Widens.depth (h : Widens k ps qs) : depthOf qs ≤ depthOf ps + k := by
  induction h with
  | nil => exact Nat.zero_le _
  | merge hmerged _ ih =>
    have hdepth := hmerged.depth
    rw [depthOf_reverse] at hdepth
    rw [depthOf_append]
    exact max_deeper hdepth ih

theorem Widens.length (h : Widens k ps qs) : qs.length ≤ ps.length := by
  induction h with
  | nil => exact Nat.le_refl _
  | merge hmerged _ ih =>
    have hpos := List.length_pos_iff.2 hmerged.ne
    rw [List.length_reverse] at hpos
    simp only [List.length_append, List.length_cons]
    omega

/-- **Wider parts side by side are wider.** -/
theorem Widens.concat (h : Widens k ps qs) : (Part.concat ps.reverse).Wider k (Part.concat qs.reverse) := by
  refine ⟨?_, fun t i j hmatch => matches_concat.2 (h.chain (matches_concat.1 hmatch))⟩
  have hdepth := h.depth
  have hle : depthOf ps.reverse ≤ (Part.concat ps.reverse).depth := depthOf_le_concat
  rw [depthOf_reverse] at hle
  by_cases htwo : 2 ≤ qs.length
  · rw [depth_concat (by rwa [List.length_reverse]),
      depth_concat (by rw [List.length_reverse]; exact htwo.trans h.length),
      depthOf_reverse, depthOf_reverse]
    exact deeper hdepth
  · match qs with
    | [] => exact Nat.zero_le _
    | [q] => exact (Nat.le_of_eq (depthOf_singleton q).symm).trans (hdepth.trans (Nat.add_le_add_right hle k))
    | _ :: _ :: _ => simp at htwo

theorem depthOf_wider (h : List.Forall₂ (Part.Wider k) ps qs) : depthOf qs ≤ depthOf ps + k := by
  induction h with
  | nil => exact Nat.zero_le _
  | cons hp _ ih => exact max_deeper hp.depth ih

theorem matches_choice_wider (h : List.Forall₂ (Part.Wider k) ps qs) (t : Text) (i j : Nat) :
    (Node.choice (ps.map (·.node))).Matches t i j → (Node.choice (qs.map (·.node))).Matches t i j := by
  induction h with
  | nil => exact id
  | cons hp hps ih =>
    cases hps with
    | nil => exact hp.accepts t i j
    | cons => exact Or.imp (hp.accepts t i j) ih

/-- **Wider alternatives are wider.** -/
theorem Part.Wider.choice (h : List.Forall₂ (Part.Wider k) ps qs) : (Part.choice ps).Wider k (Part.choice qs) := by
  match h with
  | .nil => exact .refl _
  | .cons hp .nil => exact hp
  | .cons hp (.cons hq hqs) =>
    have hall := List.Forall₂.cons hp (.cons hq hqs)
    exact ⟨deeper (depthOf_wider hall), matches_choice_wider hall⟩

theorem Part.Wider.enclosed (h : p.Wider k q) (index : Option Nat) : (p.enclosed index).Wider k (q.enclosed index) := by
  refine ⟨deeper h.depth, ?_⟩
  cases index with
  | none => exact h.accepts
  | some g => exact h.accepts

theorem Part.Wider.loop (h : p.Wider k q) (min : Nat) (max : Option Nat) (greedy : Bool) :
    (p.loop min max greedy).Wider k (q.loop min max greedy) := by
  have htimes (t : Text) : ∀ k i j, Times (p.node.Matches t) k i j → Times (q.node.Matches t) k i j := by
    intro k
    induction k with
    | zero => exact fun _ _ => id
    | succ k ih => exact fun i j ⟨m, hm, hk⟩ => ⟨m, h.accepts t i m hm, ih m j hk⟩
  exact ⟨deeper h.depth, fun t i j ⟨k, hmin, hmax, hk⟩ => ⟨k, hmin, hmax, htimes t k i j hk⟩⟩

end

/-! ## Readings -/

/-- Is what has been read of one scope wider than what has been read of the other? -/
structure Scope.Wider (k : Nat) (s s' : Scope) : Prop where
  parts : Widens k s.parts s'.parts
  branches : List.Forall₂ (Part.Wider k) s.branches s'.branches

structure Opening.Wider (k : Nat) (o o' : Opening) : Prop where
  index : o.index = o'.index
  outer : o.outer.Wider k o'.outer
  flags : o.flags = o'.flags

/-- Is what has been read in `r'` wider than what has been read in `r`? -/
structure Reading.Wider (k : Nat) (r r' : Reading) : Prop where
  scope : r.scope.Wider k r'.scope
  flags : r.flags = r'.flags
  openings : List.Forall₂ (Opening.Wider k) r.openings r'.openings
  groups : r.groups = r'.groups
  names : r.names = r'.names

section
variable {k : Nat} {s s' : Scope} {r r₁ r' : Reading} {p q : Part} {a : Act}

theorem Scope.Wider.part (h : s.Wider k s') : s.part.Wider k s'.part :=
  .choice (List.rel_reverse (.cons h.parts.concat h.branches))

theorem Scope.Wider.push (h : s.Wider k s') (hp : p.Wider k q) : (s.push p).Wider k (s'.push q) :=
  ⟨hp.widens h.parts, h.branches⟩

theorem Reading.Wider.push (h : r.Wider k r') (hp : p.Wider k q) : (r.push p).Wider k (r'.push q) :=
  { h with scope := h.scope.push hp }

theorem Reading.Wider.openings_eq_nil (h : r.Wider k r') (hnil : r.openings = []) : r'.openings = [] := by
  have hopenings := h.openings
  rw [hnil] at hopenings
  exact List.forall₂_nil_left_iff.1 hopenings

theorem Reading.Wider.openCapture (h : r.Wider k r') (names : List Text) :
    (r.openCapture names).Wider k (r'.openCapture names) :=
  ⟨⟨.nil, .nil⟩, h.flags, .cons ⟨congrArg (fun n => some (n + 1)) h.groups, h.scope, h.flags⟩ h.openings,
    congrArg (· + 1) h.groups, rfl⟩

theorem close_wider (h : r.close? = some r₁) (hr : r.Wider k r') :
    ∃ r₁', r'.close? = some r₁' ∧ r₁.Wider k r₁' ∧ Headed k r₁.scope.parts r₁'.scope.parts := by
  have hopenings := hr.openings
  simp only [Reading.close?] at h ⊢
  generalize r.openings = os at h hopenings
  generalize r'.openings = os' at hopenings ⊢
  cases hopenings with
  | nil => cases h
  | cons ho hos =>
    cases h
    have hpart := hr.scope.part.enclosed
    dsimp only
    rw [← ho.index]
    exact ⟨_, rfl, ⟨ho.outer.push (hpart _), ho.flags, hos, hr.groups, hr.names⟩, .cons rfl (hpart _) ho.outer.parts⟩

/-- Only a part that stands for a single one can be repeated in its place. -/
theorem repeat_wider {min : Nat} {max : Option Nat} {greedy : Bool} (h : r.repeat? min max greedy = some r₁)
    (hr : r.Wider k r') (hparts : Headed k r.scope.parts r'.scope.parts) :
    ∃ r₁', r'.repeat? min max greedy = some r₁' ∧ r₁.Wider k r₁' ∧ Headed k r₁.scope.parts r₁'.scope.parts := by
  simp only [Reading.repeat?] at h ⊢
  generalize r.scope.parts = ps at h hparts
  generalize r'.scope.parts = ps' at hparts ⊢
  cases hparts with
  | nil => cases h
  | cons hsolid hp hps =>
    dsimp only at h ⊢
    split at h
    · rename_i hp'
      cases h
      rw [if_pos (hsolid ▸ hp'), ← hr.flags]
      have hloop := hp.loop min max (greedy != r.flags.swapGreed)
      exact ⟨_, rfl, ⟨⟨hloop.widens hps, hr.scope.branches⟩, rfl, hr.openings, hr.groups, hr.names⟩,
        .cons rfl hloop hps⟩
    · cases h

/-- **An act keeps the second reading wider.** -/
theorem perform_wider (h : r.perform a = some r₁) (hr : r.Wider k r')
    (hagain : ∀ min max greedy, a = .again min max greedy → Headed k r.scope.parts r'.scope.parts) :
    ∃ r₁', r'.perform a = some r₁' ∧ r₁.Wider k r₁' ∧ Headed k r₁.scope.parts r₁'.scope.parts := by
  cases a with
  | push p =>
    cases h
    exact ⟨_, rfl, hr.push (.refl p), .cons rfl (.refl p) hr.scope.parts⟩
  | bar =>
    cases h
    exact ⟨_, rfl, { hr with scope := ⟨.nil, .cons hr.scope.parts.concat hr.scope.branches⟩ }, .nil⟩
  | close => exact close_wider h hr
  | again min max greedy => exact repeat_wider h hr (hagain min max greedy rfl)
  | group fl =>
    cases h
    exact ⟨_, rfl, ⟨⟨.nil, .nil⟩, rfl, .cons ⟨rfl, hr.scope, hr.flags⟩ hr.openings, hr.groups, hr.names⟩, .nil⟩
  | capture name =>
    cases name with
    | none =>
      cases h
      rw [hr.names]
      exact ⟨_, rfl, hr.openCapture _, .nil⟩
    | some name =>
      simp only [Reading.perform] at h ⊢
      rw [hr.names] at h
      split at h
      · cases h
      · rename_i hnew
        cases h
        rw [if_neg hnew]
        exact ⟨_, rfl, hr.openCapture _, .nil⟩
  | switch fl =>
    cases h
    exact ⟨_, rfl, { hr.push (.refl .flags) with flags := rfl }, .cons rfl (.refl _) hr.scope.parts⟩

end

end Readout.Regex.CommandPattern
