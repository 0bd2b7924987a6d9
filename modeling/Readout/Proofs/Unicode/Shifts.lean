/-
  Mappings by shifts.

  * `Shift.Sorted`: the ranges of the shifts stand one behind the other, so that at most one of them moves a
    code point;
  * `Shift.Settled`: what has been moved by a shift is not moved by another one; `bits` is how a table is checked
    for it;
  * `map_map`: a settled mapping has done all it does after the first time;
  * `map_eq_iff_mem`: the code points with a given image, by the shifts that lead back.
-/
import Mathlib.Data.List.Basic
import Readout.Unicode.Ranges

namespace Readout.Unicode.Shift

/-! ## Single shifts -/

section
variable {s : Shift} {n m : Nat}

theorem moves_iff : s.moves n ↔ s.lo ≤ n ∧ n ≤ s.hi ∧ (n - s.lo) % s.stride = 0 := by
  simp only [moves, Bool.and_eq_true, decide_eq_true_eq, beq_iff_eq, and_assoc]

/-- What a shift moves, its inverse moves back. -/
theorem inverse_of_moves (h : s.moves n) : s.inverse.moves (s.apply n) ∧ s.inverse.apply (s.apply n) = n := by
  obtain ⟨hlo, hhi, hstride⟩ := moves_iff.1 h
  have hsub : s.target + (n - s.lo) - s.target = n - s.lo := by omega
  rw [moves_iff]
  simp only [inverse, apply, hsub]
  exact ⟨⟨by omega, by omega, hstride⟩, by omega⟩

/-- What the inverse of a shift moves comes from there. -/
theorem moves_of_inverse (hs : s.lo ≤ s.hi) (h : s.inverse.moves m) :
    s.moves (s.inverse.apply m) ∧ s.apply (s.inverse.apply m) = m := by
  obtain ⟨hlo, hhi, hstride⟩ := moves_iff.1 h
  simp only [inverse] at hlo hhi hstride
  have hsub : s.lo + (m - s.target) - s.lo = m - s.target := by omega
  rw [moves_iff]
  simp only [inverse, apply, hsub]
  exact ⟨⟨by omega, by omega, hstride⟩, by omega⟩

end

/-! ## Sets of code points -/

/-- The numbers of a list as the bits of one number, so that two lists are compared in one go. -/
def bits (l : List Nat) : Nat := l.foldr (fun n b => 1 <<< n ||| b) 0

theorem testBit_bits {l : List Nat} {n : Nat} : (bits l).testBit n ↔ n ∈ l := by
  induction l with
  | nil => simp [bits]
  | cons m l ih =>
    have hbits : bits (m :: l) = 1 <<< m ||| bits l := rfl
    rw [hbits, Nat.testBit_or, Bool.or_eq_true, ih, List.mem_cons, Nat.one_shiftLeft, Nat.testBit_two_pow,
      decide_eq_true_eq, eq_comm]

/-- Lists without a number in common. -/
theorem disjoint_of_bits {l l' : List Nat} (h : bits l &&& bits l' = 0) {n : Nat} (hn : n ∈ l) : n ∉ l' := by
  intro hn'
  have hbit := Nat.testBit_and (bits l) (bits l') n
  rw [h, testBit_bits.2 hn, testBit_bits.2 hn', Nat.zero_testBit] at hbit
  cases hbit

/-- The code points that a shift moves. -/
def points (s : Shift) : List Nat := List.range' s.lo ((s.hi - s.lo) / s.stride + 1) s.stride

theorem mem_points {s : Shift} {n : Nat} (h : s.moves n) : n ∈ s.points := by
  obtain ⟨hlo, hhi, hstride⟩ := moves_iff.1 h
  have hn := Nat.div_add_mod (n - s.lo) s.stride
  refine List.mem_range'.2 ⟨(n - s.lo) / s.stride, ?_, by omega⟩
  exact Nat.lt_succ_of_le (Nat.div_le_div_right (by omega))

/-- The code points that the shifts move, and those where they move them. -/
def moved (ss : List Shift) : List Nat := ss.flatMap points

def images (ss : List Shift) : List Nat := ss.flatMap fun s => s.points.map s.apply

section
variable {ss : List Shift} {s : Shift} {n : Nat}

theorem mem_moved (hs : s ∈ ss) (h : s.moves n) : n ∈ moved ss := List.mem_flatMap.2 ⟨s, hs, mem_points h⟩

theorem mem_images (hs : s ∈ ss) (h : s.moves n) : s.apply n ∈ images ss :=
  List.mem_flatMap.2 ⟨s, hs, List.mem_map_of_mem (mem_points h)⟩

end

/-! ## Mappings -/

/-- Do the shifts have ranges, one behind the other? -/
def Sorted (ss : List Shift) : Prop := (∀ s ∈ ss, s.lo ≤ s.hi) ∧ ss.Pairwise fun s s' => s.hi < s'.lo

/-- It suffices that each range stands behind the one in front of it. -/
theorem sorted_of_isChain {ss : List Shift} (h : ∀ s ∈ ss, s.lo ≤ s.hi)
    (hchain : ss.IsChain fun s s' => s.hi < s'.lo) : Sorted ss := by
  refine ⟨h, ?_⟩
  induction ss with
  | nil => exact .nil
  | cons s ss ih =>
    obtain ⟨-, hss⟩ := List.forall_mem_cons.1 h
    have hrest := ih hss hchain.of_cons
    refine List.pairwise_cons.2 ⟨?_, hrest⟩
    cases ss with
    | nil => exact nofun
    | cons s' ss =>
      have hnext := (List.isChain_cons_cons.1 hchain).1
      have hs' := hss s' List.mem_cons_self
      refine List.forall_mem_cons.2 ⟨hnext, fun s'' hs'' => ?_⟩
      have := (List.pairwise_cons.1 hrest).1 s'' hs''
      omega

/-- Is nothing moved twice? -/
def Settled (ss : List Shift) : Prop := ∀ s ∈ ss, ∀ n, s.moves n → ∀ s' ∈ ss, ¬ s'.moves (s.apply n)

theorem settled_of_bits {ss : List Shift} (h : bits (images ss) &&& bits (moved ss) = 0) : Settled ss :=
  fun _ hs _ hn _ hs' hn' => disjoint_of_bits h (mem_images hs hn) (mem_moved hs' hn')

section
variable {ss : List Shift} {n m : Nat}

theorem map_eq_self (h : ∀ s ∈ ss, ¬ s.moves n) : map ss n = n := by
  have hnone : ss.find? (·.moves n) = none := by simpa using h
  rw [map, hnone]; rfl

/-- A code point stays, or is moved by a shift. -/
theorem map_cases (ss : List Shift) (n : Nat) : map ss n = n ∨ ∃ s ∈ ss, s.moves n ∧ map ss n = s.apply n := by
  rcases h : ss.find? (·.moves n) with _ | s
  · exact .inl (by rw [map, h]; rfl)
  · exact .inr ⟨s, List.mem_of_find?_eq_some h, by simpa using List.find?_some h, by rw [map, h]; rfl⟩

/-- In a sorted mapping, a shift that moves a code point is the one that counts. -/
theorem map_eq_apply (hss : Sorted ss) {s : Shift} (hs : s ∈ ss) (hn : s.moves n) : map ss n = s.apply n := by
  have hfirst : ss.find? (·.moves n) = some s := by
    obtain ⟨before, after, rfl⟩ := List.append_of_mem hs
    have hbefore : ∀ s' ∈ before, ¬ s'.moves n := by
      intro s' hs' hn'
      have hlt := (List.pairwise_append.1 hss.2).2.2 s' hs' s List.mem_cons_self
      have := (moves_iff.1 hn).1
      have := (moves_iff.1 hn').2.1
      omega
    rw [List.find?_append, List.find?_eq_none.2 hbefore, Option.none_or, List.find?_cons, hn]
  rw [map, hfirst]; rfl

/-- **What has been moved is not moved again.** -/
theorem map_map (hss : Settled ss) (n : Nat) : map ss (map ss n) = map ss n := by
  rcases map_cases ss n with h | ⟨s, hs, hn, h⟩
  · rw [h, h]
  · rw [h, map_eq_self (hss s hs n hn)]

theorem mem_sources : m ∈ sources ss n ↔ ∃ s ∈ ss, s.inverse.moves n ∧ s.inverse.apply n = m := by
  simp only [sources, List.mem_filterMap, Option.ite_none_right_eq_some, Option.some.injEq]

/-- **The code points with a given image** are the image itself, and what the shifts that lead back make of
    it. -/
theorem map_eq_iff_mem (hsorted : Sorted ss) (hsettled : Settled ss) :
    map ss m = map ss n ↔ m = map ss n ∨ m ∈ sources ss (map ss n) := by
  rw [mem_sources]
  constructor
  · intro h
    rcases map_cases ss m with hm | ⟨s, hs, hmoves, hm⟩
    · exact .inl (hm ▸ h)
    · obtain ⟨hback, heq⟩ := inverse_of_moves hmoves
      rw [← h, hm]
      exact .inr ⟨s, hs, hback, heq⟩
  · rintro (rfl | ⟨s, hs, hback, rfl⟩)
    · exact map_map hsettled n
    · obtain ⟨hmoves, heq⟩ := moves_of_inverse (hsorted.1 s hs) hback
      rw [map_eq_apply hsorted hs hmoves, heq]

end

end Readout.Unicode.Shift
