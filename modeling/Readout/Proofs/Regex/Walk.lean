/-
  Where the match of the highest priority leads.

  * `Piece.Walks`: from a place that a piece finds, its walk leads by a relation to one of the given places;
  * `Walks.again`, `Walks.plus`: a repetition goes on until it has come to one of them;
  * `Node.walks_piece`: the walk of an expression is a match of it;
  * `Node.search_whole`: an expression that captures whole texts captures the text, or is not found in it.
-/
import Readout.Proofs.Regex.Meaning

namespace Readout.Regex

section
variable {R : Nat → Nat → Prop} {i j k : Nat}

/-- Steps that lead away from a place have a first one that does. -/
theorem Times.exists_move : ∀ {k i : Nat}, Times R k i j → i ≠ j → ∃ m l, m ≠ i ∧ R i m ∧ Times R l m j
  | 0, _, h, hne => absurd h hne
  | k + 1, i, ⟨m, hm, hk⟩, hne => by
    by_cases hmi : m = i
    · subst hmi
      exact hk.exists_move hne
    · exact ⟨m, k, hmi, hm, hk⟩

end

namespace Places

theorem has_only {i j : Nat} : (only i).has j ↔ j = i := by
  rw [only, has, Nat.one_shiftLeft, Nat.testBit_two_pow, decide_eq_true_eq, eq_comm]

theorem has_without {p : Places} {i j : Nat} : (p.without i).has j ↔ p.has j ∧ j ≠ i := by
  have hxor : has (p ^^^ only i) j = ((p.has j) ^^ (only i).has j) := Nat.testBit_xor ..
  have honly := @has_only i j
  unfold without
  by_cases hj : j = i
  · subst hj
    split <;> simp_all
  · split <;> simp_all

theorem has_replacing {p other : Places} {i j : Nat} :
    (p.replacing i other).has j ↔ p.has j ∧ j ≠ i ∨ other.has j ∧ j = i := by
  rw [replacing, has_either, Bool.or_eq_true, has_without, has_both, Bool.and_eq_true, has_only]

end Places

/-! ## Pieces -/

/-- From a place that the piece finds, does its walk lead by `R` to one of the given places? -/
def Piece.Walks (n : Nat) (a : Piece) (R : Nat → Nat → Prop) : Prop :=
  ∀ p, Places.Within n p → ∀ i cs, (a.toward p).starts.has i →
    R i ((a.toward p).walk i cs).1 ∧ p.has ((a.toward p).walk i cs).1

namespace Piece
variable {n : Nat} {a b : Piece} {R S : Nat → Nat → Prop}

theorem Walks.mono (h : a.Walks n R) (hRS : ∀ i j, R i j → S i j) : a.Walks n S :=
  fun p hp i cs hi => (h p hp i cs hi).imp_left (hRS _ _)

theorem Walks.within (h : a.Walks n R) (hR : ∀ {i j}, R i j → i ≤ j) {p : Places} (hp : p.Within n) :
    (a.toward p).starts.Within n :=
  fun i hi => (hR (h p hp i [] hi).1).trans (hp _ (h p hp i [] hi).2)

theorem walks_skip : skip.Walks n (· = ·) := fun _ _ _ _ hi => ⟨rfl, hi⟩

theorem walks_never : never.Walks n fun _ _ => False := fun _ _ i _ hi => by
  rw [never, Places.has_zero] at hi; cases hi

theorem walks_check (m : Places) : (check m).Walks n fun i j => i = j ∧ m.has i := by
  intro p _ i cs hi
  rw [check, Places.has_both, Bool.and_eq_true] at hi
  exact ⟨⟨rfl, hi.2⟩, hi.1⟩

theorem walks_take (m : Places) : (take m).Walks n fun i j => j = i + 1 ∧ m.has i := by
  intro p _ i cs hi
  rw [take, Places.has_both, Bool.and_eq_true, Places.has_back] at hi
  exact ⟨⟨rfl, hi.2⟩, hi.1⟩

theorem Walks.seq (ha : a.Walks n R) (hb : b.Walks n S) (hS : ∀ {i j}, S i j → i ≤ j) :
    (a.seq b).Walks n fun i j => ∃ m, R i m ∧ S m j := by
  intro p hp i cs hi
  obtain ⟨hR, hstart⟩ := ha _ (hb.within hS hp) i cs hi
  obtain ⟨hS, hj⟩ := hb p hp _ (((a.toward (b.toward p).starts).walk i cs).2) hstart
  exact ⟨⟨_, hR, hS⟩, hj⟩

theorem Walks.alt (ha : a.Walks n R) (hb : b.Walks n S) : (a.alt b).Walks n fun i j => R i j ∨ S i j := by
  intro p hp i cs hi
  rw [Piece.alt, Places.has_either, Bool.or_eq_true] at hi
  simp only [Piece.alt]
  split
  · rename_i hstart
    exact (ha p hp i cs hstart).imp_left .inl
  · rename_i hstart
    exact (hb p hp i cs (hi.resolve_left hstart)).imp_left .inr

theorem Walks.group (ha : a.Walks n R) (g : Nat) : (a.group g).Walks n R := ha

theorem Walks.opt (ha : a.Walks n R) (greedy : Bool) : (a.opt greedy).Walks n fun i j => i = j ∨ R i j := by
  unfold Piece.opt
  split
  · exact (ha.alt walks_skip).mono fun _ _ => Or.symm
  · exact walks_skip.alt ha

theorem Walks.power (ha : a.Walks n R) (hR : ∀ {i j}, R i j → i ≤ j) : ∀ k, (a.power k).Walks n (Times R k)
  | 0 => walks_skip
  | k + 1 => ha.seq (ha.power hR k) (Times.le hR)

theorem Walks.most (ha : a.Walks n R) (hR : ∀ {i j}, R i j → i ≤ j) (greedy : Bool) :
    ∀ k, (a.most greedy k).Walks n fun i j => ∃ l ≤ k, Times R l i j
  | 0 => walks_skip.mono fun _ _ h => ⟨0, Nat.le_refl _, h⟩
  | k + 1 => by
    refine ((ha.seq (ha.most hR greedy k) fun ⟨_, _, h⟩ => h.le hR).opt greedy).mono ?_
    rintro i j (rfl | ⟨m, hm, l, hl, hmj⟩)
    · exact ⟨0, Nat.zero_le _, rfl⟩
    · exact ⟨l + 1, by omega, m, hm, hmj⟩

/-- **A repetition goes on until it has come to one of the places.**  Every round moves, so that there are no more of
    them than places; and where none is left that moves, the place is one of those to come to. -/
theorem Walks.again (ha : a.Walks n R) (hm : a.Means n R) (hR : ∀ {i j}, R i j → i ≤ j) (greedy : Bool)
    {p reach : Places} (hwithin : reach.Within n) (hreach : ∀ i, reach.has i ↔ ∃ k j, Times R k i j ∧ p.has j) :
    ∀ fuel i cs, reach.has i → n < i + fuel →
      (∃ k, Times R k i (again a greedy p reach fuel i cs).1) ∧ p.has (again a greedy p reach fuel i cs).1
  | 0, i, cs, hi, hfuel => absurd (hwithin i hi) (by omega)
  | fuel + 1, i, cs, hi, hfuel => by
    have hrest : (reach.without i).Within n := fun j hj => hwithin j (Places.has_without.1 hj).1
    have hround : Piece.again a greedy p reach (fuel + 1) i cs =
        if (a.toward (reach.without i)).starts.has i && (greedy || !p.has i) then
          Piece.again a greedy p reach fuel ((a.toward (reach.without i)).walk i cs).1
            ((a.toward (reach.without i)).walk i cs).2
        else (i, cs) := rfl
    rw [hround]
    split
    · rename_i hgo
      obtain ⟨hstart, -⟩ := Bool.and_eq_true_iff.1 hgo
      obtain ⟨hij, hj⟩ := ha _ hrest i cs hstart
      obtain ⟨hj, hne⟩ := Places.has_without.1 hj
      have hlt := lt_of_le_of_ne (hR hij) hne.symm
      obtain ⟨⟨k, hk⟩, hend⟩ := ha.again hm hR greedy hwithin hreach fuel _
        ((a.toward (reach.without i)).walk i cs).2 hj (by omega)
      exact ⟨⟨k + 1, _, hij, hk⟩, hend⟩
    · rename_i hstop
      refine ⟨⟨0, rfl⟩, ?_⟩
      by_contra hp
      obtain ⟨k, j, hij, hj⟩ := (hreach i).1 hi
      have hne : i ≠ j := by rintro rfl; exact hp hj
      obtain ⟨m, l, hmi, him, hmj⟩ := hij.exists_move hne
      have hm' : (reach.without i).has m := Places.has_without.2 ⟨(hreach m).2 ⟨l, j, hmj, hj⟩, hmi⟩
      have hstart := (hm _ hrest i).2 ⟨m, him, hm'⟩
      exact hstop (by simp [hstart, hp])

theorem Walks.plus (ha : a.Walks n R) (hm : a.Means n R) (hR : ∀ {i j}, R i j → i ≤ j) (greedy : Bool) :
    (a.plus n greedy).Walks n fun i j => ∃ k, 1 ≤ k ∧ Times R k i j := by
  intro p hp i cs hi
  let reach := Places.close (fun q => (a.toward q).starts) (n + 1) p
  have hreach (i : Nat) : reach.has i ↔ ∃ k j, Times R k i j ∧ p.has j := by
    rw [hm.has_close hR (n + 1) hp]
    constructor
    · rintro ⟨k, -, j, hij, hj⟩
      exact ⟨k, j, hij, hj⟩
    · rintro ⟨k, j, hij, hj⟩
      obtain ⟨l, hl, hij⟩ := hij.shorten hR
      have := hp j hj
      exact ⟨l, by omega, j, hij, hj⟩
  have hwithin : reach.Within n := by
    intro i hi
    obtain ⟨k, j, hij, hj⟩ := (hreach i).1 hi
    exact (hij.le hR).trans (hp j hj)
  have htarget : (reach.replacing i p).Within n := by
    intro j hj
    rcases Places.has_replacing.1 hj with ⟨hj, -⟩ | ⟨hj, -⟩
    · exact hwithin j hj
    · exact hp j hj
  have hstart : (a.toward (reach.replacing i p)).starts.has i := by
    obtain ⟨j, hij, hj⟩ := (hm _ hwithin i).1 hi
    by_cases hji : j = i
    · -- a first round on the spot: then the place itself is one to come to, or some later round moves
      subst hji
      by_cases hpj : p.has j
      · exact (hm _ htarget j).2 ⟨j, hij, Places.has_replacing.2 (.inr ⟨hpj, rfl⟩)⟩
      · obtain ⟨k, l, hjl, hl⟩ := (hreach j).1 hj
        obtain ⟨m, k', hmj, hjm, hml⟩ := hjl.exists_move (by rintro rfl; exact hpj hl)
        exact (hm _ htarget j).2 ⟨m, hjm, Places.has_replacing.2 (.inl ⟨(hreach m).2 ⟨k', l, hml, hl⟩, hmj⟩)⟩
    · exact (hm _ htarget i).2 ⟨j, hij, Places.has_replacing.2 (.inl ⟨hj, hji⟩)⟩
  obtain ⟨hij, hj⟩ := ha _ htarget i cs hstart
  have hwalk : ((a.plus n greedy).toward p).walk i cs =
      if ((a.toward (reach.replacing i p)).walk i cs).1 = i then (a.toward (reach.replacing i p)).walk i cs
      else Piece.again a greedy p reach (n + 1) ((a.toward (reach.replacing i p)).walk i cs).1
        ((a.toward (reach.replacing i p)).walk i cs).2 := rfl
  rw [hwalk]
  split
  · rename_i hsame
    rcases Places.has_replacing.1 hj with ⟨-, hne⟩ | ⟨hj, -⟩
    · exact absurd hsame hne
    · exact ⟨⟨1, Nat.le_refl _, times_one.2 hij⟩, hj⟩
  · rename_i hne
    rcases Places.has_replacing.1 hj with ⟨hj, -⟩ | ⟨-, hsame⟩
    · obtain ⟨⟨k, hk⟩, hend⟩ := ha.again hm hR greedy hwithin hreach (n + 1) _
        ((a.toward (reach.replacing i p)).walk i cs).2 hj (by omega)
      exact ⟨⟨k + 1, Nat.le_add_left _ _, _, hij, hk⟩, hend⟩
    · exact absurd hsame hne

theorem Walks.repeated (ha : a.Walks n R) (hm : a.Means n R) (hR : ∀ {i j}, R i j → i ≤ j) (min : Nat)
    (max : Option Nat) (greedy : Bool) : (a.repeated n min max greedy).Walks n fun i j =>
      ∃ k, min ≤ k ∧ (∀ m ∈ max, k ≤ min ∨ k ≤ m) ∧ Times R k i j := by
  cases max with
  | some max =>
    refine ((ha.power hR min).seq (ha.most hR greedy (max - min)) fun ⟨_, _, h⟩ => h.le hR).mono ?_
    rintro i j ⟨m, him, l, hl, hmj⟩
    refine ⟨min + l, Nat.le_add_right _ _, ?_, times_add.2 ⟨m, him, hmj⟩⟩
    rintro _ ⟨⟩
    omega
  | none =>
    cases min with
    | zero =>
      refine ((ha.plus hm hR greedy).opt greedy).mono ?_
      rintro i j (rfl | ⟨k, -, h⟩)
      · exact ⟨0, Nat.le_refl _, nofun, rfl⟩
      · exact ⟨k, Nat.zero_le _, nofun, h⟩
    | succ min =>
      refine ((ha.power hR min).seq (ha.plus hm hR greedy) fun ⟨_, _, h⟩ => h.le hR).mono ?_
      rintro i j ⟨m, him, k, hk, hmj⟩
      exact ⟨min + k, by omega, nofun, times_add.2 ⟨m, him, hmj⟩⟩

end Piece

/-! ## Expressions -/

namespace Node

/-- **The walk of an expression is a match of it.** -/
theorem walks_piece (t : Text) : ∀ a : Node, (a.piece t).Walks t.length (a.Matches t)
  | empty | keep => Piece.walks_skip
  | set s => (Piece.walks_take _).mono fun i j h => by rwa [Places.has_ofSet] at h
  | anchor a => (Piece.walks_check _).mono fun i j h => by
    rw [Places.ofAnchor, Places.has_ofAnchorFrom, Option.or_none] at h; exact h
  | seq a b => (walks_piece t a).seq (walks_piece t b) Matches.le
  | alt a b => (walks_piece t a).alt (walks_piece t b)
  | group g a => (walks_piece t a).group g
  | loop a min max greedy => (walks_piece t a).repeated (means_piece t a) Matches.le min max greedy
  | look .. | atomic _ | backref .. | captured _ | branch .. => Piece.walks_never

/-! ## Whole texts -/

/-- The expression that has to match a text from end to end, and captures it. -/
def whole (g : Nat) (a : Node) : Node := .seq (.anchor .textStart) (.seq (.group g a) (.anchor .textEnd))

theorem matches_whole {t : Text} {g : Nat} {a : Node} {i j : Nat} :
    (whole g a).Matches t i j ↔ i = 0 ∧ a.Matches t 0 t.length ∧ j = t.length := by
  simp only [whole, Matches, holdsAt_textStart, holdsAt_textEnd]
  constructor
  · rintro ⟨_, ⟨rfl, rfl⟩, _, ha, rfl, rfl⟩
    exact ⟨rfl, ha, rfl⟩
  · rintro ⟨rfl, ha, rfl⟩
    exact ⟨0, ⟨rfl, rfl⟩, t.length, ha, rfl, rfl⟩

theorem search_eq_none {t : Text} {a : Node} (h : ¬ a.occurs t) : a.search t = none := by
  have hnone (fuel i : Nat) : Places.firstFrom 0 i fuel = none := by
    induction fuel generalizing i with
    | zero => rfl
    | succ fuel ih => simp [Places.firstFrom, Places.has_zero, ih]
  have hzero : ((a.piece t).toward (.upTo t.length)).starts = 0 := by
    simpa only [occurs, starts, bne_iff_ne, ne_eq, not_not] using h
  simp only [search, hzero, Places.first?, hnone, Option.map_none]

/-- **An expression that captures whole texts** captures the text, if that is one of those it matches, and is not found
    in it otherwise. -/
theorem search_whole (t : Text) (g : Nat) (a : Node) :
    (a.Matches t 0 t.length → ∃ cs, (whole g a).search t = some ⟨0, ⟨g, 0, t.length⟩ :: cs⟩) ∧
    (¬ a.Matches t 0 t.length → (whole g a).search t = none) := by
  constructor
  · intro ha
    have hwithin : (Places.upTo t.length).Within t.length := fun _ => Places.has_upTo.1
    have hstart : (((whole g a).piece t).toward (.upTo t.length)).starts.has 0 :=
      (means_piece t (whole g a) _ hwithin 0).2
        ⟨t.length, matches_whole.2 ⟨rfl, ha, rfl⟩, Places.has_upTo.2 (Nat.le_refl _)⟩
    -- the group is walked to a place where the text ends
    let target := (((anchor .textEnd).piece t).toward (.upTo t.length)).starts
    have htarget : target.Within t.length := (walks_piece t _).within Matches.le hwithin
    have hinner : ((a.piece t).toward target).starts.has 0 := by
      refine (means_piece t a _ htarget 0).2 ⟨t.length, ha, (means_piece t _ _ hwithin _).2 ⟨t.length, ?_, ?_⟩⟩
      · exact ⟨rfl, holdsAt_textEnd.2 rfl⟩
      · exact Places.has_upTo.2 (Nat.le_refl _)
    have hend : (((a.piece t).toward target).walk 0 []).1 = t.length := by
      obtain ⟨j, ⟨-, hj⟩, -⟩ := (means_piece t _ _ hwithin _).1 (walks_piece t a _ htarget 0 [] hinner).2
      exact holdsAt_textEnd.1 hj
    have hfirst : Places.first? t.length (((whole g a).piece t).toward (.upTo t.length)).starts = some 0 := by
      rw [Places.first?, Places.firstFrom, if_pos hstart]
    refine ⟨(((a.piece t).toward target).walk 0 []).2, ?_⟩
    have hwalk : ((((whole g a).piece t).toward (.upTo t.length)).walk 0 []).2 =
        ⟨g, 0, (((a.piece t).toward target).walk 0 []).1⟩ :: (((a.piece t).toward target).walk 0 []).2 := rfl
    simp only [search, hfirst, Option.map_some, hwalk, hend]
  · intro ha
    refine search_eq_none fun hoccurs => ?_
    obtain ⟨i, j, hmatch, -⟩ := occurs_iff.1 hoccurs
    exact ha (matches_whole.1 hmatch).2.1

end Node

end Readout.Regex
