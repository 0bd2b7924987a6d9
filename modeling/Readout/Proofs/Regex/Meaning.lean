/-
  What an expression means: the pairs of places between which it matches, and for an expression that does not
  look at its surroundings the language of the texts that it matches.

  * `Node.Matches` tells the matches by the constructors of the expression;
  * `Piece.Means`: a piece finds the places from which a relation leads to given places, and
    `Means.has_close` that repeating it reaches all of them in as many rounds as there are places;
  * `Node.means_piece`, `Node.occurs_iff`: matching by pieces finds the matches, and nothing else;
  * `Node.Denotes`: the language of an expression, constructor by constructor;
  * `occurs_whole_iff`, `Denotes.occurs_iff`: an expression that has to match from end to end matches the texts of its
    language.
-/
import Mathlib.Computability.Language
import Readout.Proofs.Regex.Anchored

namespace Readout.Regex

/-! ## Steps from place to place -/

/-- Does `R` lead from `i` to `j` in `k` steps? -/
def Times (R : Nat → Nat → Prop) : Nat → Nat → Nat → Prop
  | 0, i, j => i = j
  | k + 1, i, j => ∃ m, R i m ∧ Times R k m j

section
variable {R : Nat → Nat → Prop} {i j k l : Nat}

theorem times_add : ∀ {k i : Nat}, Times R (k + l) i j ↔ ∃ m, Times R k i m ∧ Times R l m j
  | 0, i => by simp [Times]
  | k + 1, i => by
    rw [Nat.add_right_comm]
    simp only [Times, times_add (k := k)]
    constructor
    · rintro ⟨m, hm, m', hk, hl⟩
      exact ⟨m', ⟨m, hm, hk⟩, hl⟩
    · rintro ⟨m', ⟨m, hm, hk⟩, hl⟩
      exact ⟨m, hm, m', hk, hl⟩

/-- A number of steps, and some more. -/
theorem exists_times_add {p : Nat → Prop} :
    (∃ m, Times R k i m ∧ ∃ l, p l ∧ Times R l m j) ↔ ∃ l, p l ∧ Times R (k + l) i j := by
  constructor
  · rintro ⟨m, hm, l, hl, hmj⟩
    exact ⟨l, hl, times_add.2 ⟨m, hm, hmj⟩⟩
  · rintro ⟨l, hl, h⟩
    obtain ⟨m, hm, hmj⟩ := times_add.1 h
    exact ⟨m, hm, l, hl, hmj⟩

theorem times_one : Times R 1 i j ↔ R i j := by simp [Times]

/-- The steps of a relation that leads forward do so. -/
theorem Times.le (hR : ∀ {i j}, R i j → i ≤ j) : ∀ {k i : Nat}, Times R k i j → i ≤ j
  | 0, _, h => Nat.le_of_eq h
  | _ + 1, _, ⟨_, hm, hk⟩ => (hR hm).trans (hk.le hR)

/-- Steps towards a set that is closed under them start there. -/
theorem Times.of_closed {p : Nat → Prop} (hp : ∀ {i j}, R i j → p j → p i) (hj : p j) :
    ∀ {k i : Nat}, Times R k i j → p i
  | 0, _, h => h ▸ hj
  | _ + 1, _, ⟨_, hm, hk⟩ => hp hm (hk.of_closed hp hj)

/-- Steps on the spot can be left out, and of the others there are as many as places at most. -/
theorem Times.shorten (hR : ∀ {i j}, R i j → i ≤ j) :
    ∀ {k i : Nat}, Times R k i j → ∃ l, l ≤ j - i ∧ Times R l i j
  | 0, _, h => ⟨0, Nat.zero_le _, h⟩
  | k + 1, i, ⟨m, hm, hk⟩ => by
    obtain ⟨l, hl, hmj⟩ := hk.shorten hR
    rcases Nat.eq_or_lt_of_le (hR hm) with rfl | hlt
    · exact ⟨l, hl, hmj⟩
    · have hle : m ≤ j := hk.le hR
      exact ⟨l + 1, by omega, m, hm, hmj⟩

end

/-! ## Places -/

namespace Places

/-- Is every place of the set one of a text of `n` characters? -/
def Within (n : Nat) (p : Places) : Prop := ∀ i, p.has i → i ≤ n

theorem has_upTo {n i : Nat} : (upTo n).has i ↔ i ≤ n := by
  rw [upTo, has, Nat.one_shiftLeft, Nat.testBit_two_pow_sub_one, decide_eq_true_eq, Nat.lt_succ_iff]

theorem has_back (p : Places) (i : Nat) : p.back.has i = p.has (i + 1) := by
  rw [back, has, Nat.testBit_shiftRight, Nat.add_comm, has]

theorem ne_zero_iff {p : Places} : p ≠ 0 ↔ ∃ i, p.has i :=
  ⟨Nat.exists_testBit_of_ne_zero, fun ⟨i, hi⟩ h => by rw [h, has_zero] at hi; cases hi⟩

theorem has_double_zero (p : Places) (b : Bool) : has (2 * p + if b then 1 else 0) 0 = b := by
  cases b <;> simp [has]

theorem has_double_succ (p : Places) (b : Bool) (i : Nat) :
    has (2 * p + if b then 1 else 0) (i + 1) = p.has i := by
  unfold has
  rw [Nat.testBit_succ]
  congr 1
  split <;> omega

theorem has_ofSet (s : CharSet) : ∀ (t : Text) (i : Nat), (ofSet s t).has i = t[i]?.any s.contains
  | [], i => by rw [ofSet, has_zero]; simp
  | c :: t, 0 => by rw [ofSet, has_double_zero]; simp
  | c :: t, i + 1 => by rw [ofSet, has_double_succ, has_ofSet s t i, List.getElem?_cons_succ]

theorem has_ofAnchorFrom (a : Anchor) : ∀ (t : Text) (before : Option Char) (i : Nat),
    (ofAnchorFrom a before t).has i ↔ i ≤ t.length ∧ a.holds ((t.take i).getLast?.or before) t[i]?
  | [], before, 0 => by simpa [ofAnchorFrom] using has_double_zero 0 (a.holds before none)
  | [], before, i + 1 => by
    have := has_double_succ 0 (a.holds before none) i
    rw [has_zero] at this
    simpa [ofAnchorFrom] using this
  | c :: t, before, 0 => by rw [ofAnchorFrom, has_double_zero]; simp
  | c :: t, before, i + 1 => by
    rw [ofAnchorFrom, has_double_succ, has_ofAnchorFrom a t (some c) i]
    simp [List.getLast?_cons]

end Places

/-! ## Matches -/

/-- Does the anchor hold at place `i` of the text? -/
def Anchor.HoldsAt (a : Anchor) (t : Text) (i : Nat) : Prop :=
  i ≤ t.length ∧ a.holds (t.take i).getLast? t[i]?

/-- Does the expression match the part of the text from `i` to `j`?  What looks around or back matches
    nothing. -/
def Node.Matches (t : Text) : Node → Nat → Nat → Prop
  | empty, i, j | keep, i, j => i = j
  | set s, i, j => j = i + 1 ∧ t[i]?.any s.contains
  | anchor a, i, j => i = j ∧ a.HoldsAt t i
  | seq a b, i, j => ∃ m, a.Matches t i m ∧ b.Matches t m j
  | alt a b, i, j => a.Matches t i j ∨ b.Matches t i j
  | group _ a, i, j => a.Matches t i j
  | loop a min max _, i, j => ∃ k, min ≤ k ∧ (∀ n ∈ max, k ≤ min ∨ k ≤ n) ∧ Times (a.Matches t) k i j
  | look .., _, _ | atomic _, _, _ | backref .., _, _ | captured _, _, _ | branch .., _, _ => False

/-- A match does not end in front of its start. -/
theorem Node.Matches.le {t : Text} : ∀ {a : Node} {i j : Nat}, a.Matches t i j → i ≤ j
  | empty, _, _, h | keep, _, _, h => Nat.le_of_eq h
  | set _, _, _, h => h.1 ▸ Nat.le_succ _
  | anchor _, _, _, h => Nat.le_of_eq h.1
  | seq _ _, _, _, ⟨_, ha, hb⟩ => ha.le.trans hb.le
  | alt _ _, _, _, .inl h | alt _ _, _, _, .inr h => h.le
  | group _ a, _, _, h => Matches.le (a := a) h
  | loop _ _ _ _, _, _, ⟨_, _, _, h⟩ => Times.le Matches.le h

/-! ## Pieces -/

/-- Does the piece find the places from which `R` leads to given places? -/
def Piece.Means (n : Nat) (a : Piece) (R : Nat → Nat → Prop) : Prop :=
  ∀ p, Places.Within n p → ∀ i, (a.toward p).starts.has i ↔ ∃ j, R i j ∧ p.has j

namespace Piece
variable {n : Nat} {a b : Piece} {R S : Nat → Nat → Prop}

theorem Means.congr (h : a.Means n R) (heq : ∀ i j, R i j ↔ S i j) : a.Means n S := by
  simpa only [Means, heq] using h

/-- Where a relation leads forward, the places that are found are places of the text, too. -/
theorem Means.within (h : a.Means n R) (hR : ∀ {i j}, R i j → i ≤ j) {p : Places} (hp : p.Within n) :
    (a.toward p).starts.Within n := by
  intro i hi
  obtain ⟨j, hij, hj⟩ := (h p hp i).1 hi
  exact (hR hij).trans (hp j hj)

theorem means_skip : skip.Means n (· = ·) := by simp [Means, skip]

theorem means_never : never.Means n fun _ _ => False := by simp [Means, never, Places.has_zero]

theorem means_check (m : Places) : (check m).Means n fun i j => i = j ∧ m.has i := by
  intro p _ i
  rw [check, Places.has_both, Bool.and_eq_true]
  constructor
  · rintro ⟨hp, hm⟩; exact ⟨i, ⟨rfl, hm⟩, hp⟩
  · rintro ⟨_, ⟨rfl, hm⟩, hp⟩; exact ⟨hp, hm⟩

theorem means_take (m : Places) : (take m).Means n fun i j => j = i + 1 ∧ m.has i := by
  intro p _ i
  rw [take, Places.has_both, Bool.and_eq_true, Places.has_back]
  constructor
  · rintro ⟨hp, hm⟩; exact ⟨i + 1, ⟨rfl, hm⟩, hp⟩
  · rintro ⟨_, ⟨rfl, hm⟩, hp⟩; exact ⟨hp, hm⟩

theorem Means.seq (ha : a.Means n R) (hb : b.Means n S) (hS : ∀ {i j}, S i j → i ≤ j) :
    (a.seq b).Means n fun i j => ∃ m, R i m ∧ S m j := by
  intro p hp i
  rw [Piece.seq, ha _ (hb.within hS hp)]
  constructor
  · rintro ⟨m, hm, hstart⟩
    obtain ⟨j, hj, hpj⟩ := (hb p hp m).1 hstart
    exact ⟨j, ⟨m, hm, hj⟩, hpj⟩
  · rintro ⟨j, ⟨m, hm, hj⟩, hpj⟩
    exact ⟨m, hm, (hb p hp m).2 ⟨j, hj, hpj⟩⟩

theorem Means.alt (ha : a.Means n R) (hb : b.Means n S) : (a.alt b).Means n fun i j => R i j ∨ S i j := by
  intro p hp i
  rw [Piece.alt, Places.has_either, Bool.or_eq_true, ha p hp, hb p hp, ← exists_or]
  simp only [or_and_right]

theorem Means.opt (ha : a.Means n R) (greedy : Bool) : (a.opt greedy).Means n fun i j => i = j ∨ R i j := by
  unfold Piece.opt
  split
  · exact (ha.alt means_skip).congr fun _ _ => or_comm
  · exact means_skip.alt ha

theorem Means.power (ha : a.Means n R) (hR : ∀ {i j}, R i j → i ≤ j) : ∀ k, (a.power k).Means n (Times R k)
  | 0 => means_skip
  | k + 1 => ha.seq (ha.power hR k) (Times.le hR)

theorem Means.most (ha : a.Means n R) (hR : ∀ {i j}, R i j → i ≤ j) (greedy : Bool) :
    ∀ k, (a.most greedy k).Means n fun i j => ∃ l ≤ k, Times R l i j
  | 0 => means_skip.congr fun i j => by simp [Times]
  | k + 1 => by
    refine ((ha.seq (ha.most hR greedy k) fun ⟨_, _, h⟩ => h.le hR).opt greedy).congr fun i j => ?_
    constructor
    · rintro (rfl | ⟨m, hm, l, hl, hmj⟩)
      · exact ⟨0, Nat.zero_le _, rfl⟩
      · exact ⟨l + 1, by omega, m, hm, hmj⟩
    · rintro ⟨_ | l, hl, h⟩
      · exact .inl h
      · obtain ⟨m, hm, hmj⟩ := h
        exact .inr ⟨m, hm, l, by omega, hmj⟩

/-- A round of `close` adds the places that are one step away. -/
theorem Means.has_round (ha : a.Means n R) {p : Places} (hp : p.Within n) (i : Nat) :
    (p.either (a.toward p).starts).has i ↔ p.has i ∨ ∃ j, R i j ∧ p.has j := by
  rw [Places.has_either, Bool.or_eq_true, ha p hp]

/-- The rounds of `close` are steps; where a round adds nothing, neither do the following ones. -/
theorem Means.has_close (ha : a.Means n R) (hR : ∀ {i j}, R i j → i ≤ j) : ∀ (fuel : Nat) {p : Places},
    p.Within n → ∀ i, (Places.close (fun q => (a.toward q).starts) fuel p).has i ↔
      ∃ k ≤ fuel, ∃ j, Times R k i j ∧ p.has j
  | 0, p, _, i => by simp [Places.close, Times]
  | fuel + 1, p, hp, i => by
    have hround := ha.has_round hp
    rw [Places.close]
    split
    · rename_i heq
      have hclosed {i j : Nat} (hij : R i j) (hj : p.has j) : p.has i := heq ▸ (hround i).2 (.inr ⟨j, hij, hj⟩)
      refine ⟨fun hi => ⟨0, Nat.zero_le _, i, rfl, hi⟩, ?_⟩
      rintro ⟨k, -, j, hij, hj⟩
      exact hij.of_closed (p := fun i => p.has i) hclosed hj
    · have hwithin : (p.either (a.toward p).starts).Within n := by
        intro i hi
        rcases (hround i).1 hi with hi | ⟨j, hij, hj⟩
        · exact hp i hi
        · exact (hR hij).trans (hp j hj)
      rw [ha.has_close hR fuel hwithin]
      simp only [hround]
      constructor
      · rintro ⟨k, hk, j, hij, hj | ⟨j', hjj, hj⟩⟩
        · exact ⟨k, by omega, j, hij, hj⟩
        · exact ⟨k + 1, by omega, j', times_add.2 ⟨j, hij, times_one.2 hjj⟩, hj⟩
      · rintro ⟨_ | k, hk, j, hij, hj⟩
        · exact ⟨0, Nat.zero_le _, j, hij, .inl hj⟩
        · obtain ⟨m, him, hmj⟩ := times_add.1 hij
          exact ⟨k, by omega, m, him, .inr ⟨j, times_one.1 hmj, hj⟩⟩

theorem Means.plus (ha : a.Means n R) (hR : ∀ {i j}, R i j → i ≤ j) (greedy : Bool) :
    (a.plus n greedy).Means n fun i j => ∃ k, 1 ≤ k ∧ Times R k i j := by
  intro p hp i
  have hreach := ha.has_close hR (n + 1) hp
  have hwithin : (Places.close (fun q => (a.toward q).starts) (n + 1) p).Within n := by
    intro i hi
    obtain ⟨k, -, j, hij, hj⟩ := (hreach i).1 hi
    exact (hij.le hR).trans (hp j hj)
  rw [Piece.plus, ha _ hwithin]
  simp only [hreach]
  constructor
  · rintro ⟨m, him, k, -, j, hmj, hj⟩
    exact ⟨j, ⟨k + 1, by omega, m, him, hmj⟩, hj⟩
  · rintro ⟨j, ⟨_ | k, hk, h⟩, hj⟩
    · omega
    · obtain ⟨m, him, hmj⟩ := h
      obtain ⟨l, hl, hmj⟩ := hmj.shorten hR
      have := hp j hj
      exact ⟨m, him, l, by omega, j, hmj, hj⟩

theorem Means.repeated (ha : a.Means n R) (hR : ∀ {i j}, R i j → i ≤ j) (min : Nat) (max : Option Nat)
    (greedy : Bool) : (a.repeated n min max greedy).Means n fun i j =>
      ∃ k, min ≤ k ∧ (∀ m ∈ max, k ≤ min ∨ k ≤ m) ∧ Times R k i j := by
  cases max with
  | some max =>
    refine ((ha.power hR min).seq (ha.most hR greedy (max - min)) fun ⟨_, _, h⟩ => h.le hR).congr
      fun i j => ?_
    simp only [Option.mem_def, Option.some.injEq, forall_eq', exists_times_add]
    constructor
    · rintro ⟨l, hl, h⟩
      exact ⟨min + l, by omega, by omega, h⟩
    · rintro ⟨k, hmin, hmax, h⟩
      obtain ⟨l, rfl⟩ := Nat.exists_eq_add_of_le hmin
      exact ⟨l, by omega, h⟩
  | none =>
    simp only [Option.mem_def, reduceCtorEq, false_implies, implies_true, true_and]
    cases min with
    | zero =>
      refine ((ha.plus hR greedy).opt greedy).congr fun i j => ?_
      constructor
      · rintro (rfl | ⟨k, -, h⟩)
        · exact ⟨0, Nat.zero_le _, rfl⟩
        · exact ⟨k, Nat.zero_le _, h⟩
      · rintro ⟨_ | k, -, h⟩
        · exact .inl h
        · exact .inr ⟨k + 1, by omega, h⟩
    | succ min =>
      refine ((ha.power hR min).seq (ha.plus hR greedy) fun ⟨_, _, h⟩ => h.le hR).congr fun i j => ?_
      rw [exists_times_add]
      constructor
      · rintro ⟨l, hl, h⟩
        exact ⟨min + l, by omega, h⟩
      · rintro ⟨k, hk, h⟩
        obtain ⟨l, rfl⟩ := Nat.exists_eq_add_of_le (Nat.le_of_succ_le hk)
        exact ⟨l, by omega, h⟩

end Piece

namespace Node

/-- **The piece of an expression finds its matches.** -/
theorem means_piece (t : Text) : ∀ a : Node, (a.piece t).Means t.length (a.Matches t)
  | empty | keep => Piece.means_skip
  | set s => (Piece.means_take _).congr fun i j => by rw [Places.has_ofSet, Matches]
  | anchor a => (Piece.means_check _).congr fun i j => by
    rw [Places.ofAnchor, Places.has_ofAnchorFrom, Option.or_none]; rfl
  | seq a b => (means_piece t a).seq (means_piece t b) Matches.le
  | alt a b => (means_piece t a).alt (means_piece t b)
  | group _ a => means_piece t a
  | loop a min max greedy => (means_piece t a).repeated Matches.le min max greedy
  | look .. | atomic _ | backref .. | captured _ | branch .. => Piece.means_never

/-- **An expression occurs in a text where it has a match.** -/
theorem occurs_iff {t : Text} {a : Node} : a.occurs t ↔ ∃ i j, a.Matches t i j ∧ j ≤ t.length := by
  have hwithin : (Places.upTo t.length).Within t.length := fun _ => Places.has_upTo.1
  rw [occurs, bne_iff_ne, Places.ne_zero_iff]
  simp only [starts, means_piece t a _ hwithin, Places.has_upTo]

end Node

/-! ## Languages -/

/-- Is `u` the part of the text from `i` to `j`? -/
def Spans (t : Text) (i : Nat) (u : Text) (j : Nat) : Prop := j = i + u.length ∧ u <+: t.drop i

section
variable {t u v : Text} {i j k : Nat} {c : Char}

theorem spans_nil : Spans t i [] j ↔ i = j := by simp [Spans, eq_comm]

theorem spans_singleton : Spans t i [c] j ↔ j = i + 1 ∧ t[i]? = some c := by
  rw [Spans, ← List.head?_drop]
  cases t.drop i <;> simp [eq_comm]

/-- A part in two parts. -/
theorem spans_append : Spans t i (u ++ v) k ↔ ∃ j, Spans t i u j ∧ Spans t j v k := by
  simp only [Spans, List.length_append]
  constructor
  · rintro ⟨rfl, w, hw⟩
    refine ⟨i + u.length, ⟨rfl, v ++ w, by rw [← hw, List.append_assoc]⟩, by omega, w, ?_⟩
    rw [← List.drop_drop, ← hw, List.append_assoc, List.drop_left]
  · rintro ⟨_, ⟨rfl, w, hw⟩, rfl, hv⟩
    rw [← List.drop_drop, ← hw, List.drop_left] at hv
    exact ⟨by omega, hw ▸ (List.prefix_append_right_inj u).2 hv⟩

theorem spans_all : Spans t 0 u t.length ↔ u = t := by
  rw [Spans, List.drop_zero, Nat.zero_add]
  exact ⟨fun ⟨hlength, hprefix⟩ => hprefix.eq_of_length hlength.symm, fun h => h ▸ ⟨rfl, List.prefix_rfl⟩⟩

end

/-- The texts of one character of the set. -/
def CharSet.language (s : CharSet) : Language Char := {u | ∃ c, s.contains c ∧ u = [c]}

theorem CharSet.mem_language_pow {s : CharSet} : ∀ {k : Nat} {t : Text},
    t ∈ s.language ^ k ↔ t.length = k ∧ ∀ c ∈ t, s.contains c
  | 0, t => by
    rw [pow_zero, Language.mem_one, List.length_eq_zero_iff]
    exact ⟨fun h => ⟨h, h ▸ nofun⟩, fun h => h.1⟩
  | k + 1, t => by
    rw [pow_succ', Language.mem_mul]
    constructor
    · rintro ⟨_, ⟨c, hc, rfl⟩, u, hu, rfl⟩
      obtain ⟨hlength, hall⟩ := mem_language_pow.1 hu
      exact ⟨congrArg Nat.succ hlength, List.forall_mem_cons.2 ⟨hc, hall⟩⟩
    · rintro ⟨hlength, ht⟩
      obtain ⟨c, u, rfl⟩ := List.exists_cons_of_length_eq_add_one hlength
      obtain ⟨hc, hu⟩ := List.forall_mem_cons.1 ht
      exact ⟨[c], ⟨c, hc, rfl⟩, u, mem_language_pow.2 ⟨Nat.succ.inj hlength, hu⟩, rfl⟩

namespace Node

/-- Does the expression match the texts of the language, wherever they stand, and nothing else? -/
def Denotes (a : Node) (L : Language Char) : Prop := ∀ t i j, a.Matches t i j ↔ ∃ u ∈ L, Spans t i u j

variable {a b : Node} {L M : Language Char}

theorem denotes_empty : empty.Denotes 1 := by
  simp [Denotes, Matches, spans_nil, Language.mem_one]

theorem denotes_set (s : CharSet) : (set s).Denotes s.language := by
  intro t i j
  simp only [Matches, Option.any_eq_true]
  constructor
  · rintro ⟨rfl, c, hc, hs⟩
    exact ⟨[c], ⟨c, hs, rfl⟩, spans_singleton.2 ⟨rfl, hc⟩⟩
  · rintro ⟨_, ⟨c, hs, rfl⟩, hspans⟩
    obtain ⟨rfl, hc⟩ := spans_singleton.1 hspans
    exact ⟨rfl, c, hc, hs⟩

/-- Relations that tell the parts of two languages, one behind the other. -/
theorem spans_mul {t : Text} {R S : Nat → Nat → Prop} (hR : ∀ i j, R i j ↔ ∃ u ∈ L, Spans t i u j)
    (hS : ∀ i j, S i j ↔ ∃ u ∈ M, Spans t i u j) (i k : Nat) :
    (∃ j, R i j ∧ S j k) ↔ ∃ u ∈ L * M, Spans t i u k := by
  simp only [hR, hS, Language.mem_mul]
  constructor
  · rintro ⟨j, ⟨u, hu, hij⟩, v, hv, hjk⟩
    exact ⟨u ++ v, ⟨u, hu, v, hv, rfl⟩, spans_append.2 ⟨j, hij, hjk⟩⟩
  · rintro ⟨_, ⟨u, hu, v, hv, rfl⟩, hspans⟩
    obtain ⟨j, hij, hjk⟩ := spans_append.1 hspans
    exact ⟨j, ⟨u, hu, hij⟩, v, hv, hjk⟩

theorem Denotes.seq (ha : a.Denotes L) (hb : b.Denotes M) : (seq a b).Denotes (L * M) :=
  fun t => spans_mul (ha t) (hb t)

theorem Denotes.times (ha : a.Denotes L) (t : Text) :
    ∀ k i j, Times (a.Matches t) k i j ↔ ∃ u ∈ L ^ k, Spans t i u j
  | 0, i, j => by simp [Times, spans_nil, Language.mem_one]
  | k + 1, i, j => by rw [pow_succ']; exact spans_mul (ha t) (ha.times t k) i j

theorem Denotes.loop (ha : a.Denotes L) (min : Nat) (max : Option Nat) (greedy : Bool) :
    (loop a min max greedy).Denotes {u | ∃ k, min ≤ k ∧ (∀ n ∈ max, k ≤ min ∨ k ≤ n) ∧ u ∈ L ^ k} := by
  intro t i j
  simp only [Matches, ha.times]
  constructor
  · rintro ⟨k, hmin, hmax, u, hu, hspans⟩
    exact ⟨u, ⟨k, hmin, hmax, hu⟩, hspans⟩
  · rintro ⟨u, ⟨k, hmin, hmax, hu⟩, hspans⟩
    exact ⟨k, hmin, hmax, u, hu, hspans⟩

/-- What is there once at most. -/
theorem Denotes.optional (ha : a.Denotes L) (greedy : Bool) :
    (Node.loop a 0 (some 1) greedy).Denotes (1 + L) := by
  intro t i j
  rw [ha.loop 0 (some 1) greedy t i j]
  refine exists_congr fun u => and_congr_left fun _ => ?_
  rw [Language.mem_add]
  constructor
  · rintro ⟨_ | _ | k, -, hk, hu⟩
    · exact .inl hu
    · exact .inr (pow_one L ▸ hu)
    · have := hk 1 rfl
      omega
  · rintro (hu | hu)
    · exact ⟨0, Nat.le_refl _, fun _ _ => .inl (Nat.le_refl _), hu⟩
    · exact ⟨1, Nat.zero_le _, by simp, (pow_one L).symm ▸ hu⟩

theorem Denotes.concat : ∀ {as : List Node} {Ls : List (Language Char)}, List.Forall₂ Denotes as Ls →
    (concat as).Denotes Ls.prod
  | _, _, .nil => denotes_empty
  | _, _, .cons ha .nil => by rw [List.prod_singleton]; exact ha
  | _, _, .cons ha (.cons hb hs) => by
    rw [List.prod_cons]
    exact ha.seq (Denotes.concat (.cons hb hs))

/-! ## From end to end -/

theorem holdsAt_textStart {t : Text} {i : Nat} : Anchor.textStart.HoldsAt t i ↔ i = 0 := by
  simp only [Anchor.HoldsAt, Anchor.holds, Option.isNone_iff_eq_none, List.getLast?_eq_none_iff,
    List.take_eq_nil_iff]
  constructor
  · rintro ⟨hi, hzero | rfl⟩
    · exact hzero
    · exact Nat.le_zero.1 hi
  · rintro rfl; exact ⟨Nat.zero_le _, .inl rfl⟩

theorem holdsAt_textEnd {t : Text} {i : Nat} : Anchor.textEnd.HoldsAt t i ↔ i = t.length := by
  simp only [Anchor.HoldsAt, Anchor.holds, Option.isNone_iff_eq_none, List.getElem?_eq_none_iff]
  exact ⟨fun h => Nat.le_antisymm h.1 h.2, fun h => h ▸ ⟨Nat.le_refl _, Nat.le_refl _⟩⟩

/-- An expression that has to match from end to end occurs in a text just if it matches all of it. -/
theorem occurs_whole_iff {a : Node} {t : Text} :
    (Node.concat [empty, anchor .textStart, a, anchor .textEnd]).occurs t ↔ a.Matches t 0 t.length := by
  have hends : ∀ i j, (Node.concat [empty, anchor .textStart, a, anchor .textEnd]).Matches t i j ↔
      i = 0 ∧ a.Matches t 0 t.length ∧ j = t.length := by
    intro i j
    simp only [Node.concat, Matches, holdsAt_textStart, holdsAt_textEnd]
    constructor
    · rintro ⟨_, rfl, _, ⟨rfl, rfl⟩, _, ha, rfl, rfl⟩
      exact ⟨rfl, ha, rfl⟩
    · rintro ⟨rfl, ha, rfl⟩
      exact ⟨0, rfl, 0, ⟨rfl, rfl⟩, t.length, ha, rfl, rfl⟩
  rw [Node.occurs_iff]
  simp only [hends]
  constructor
  · rintro ⟨_, _, ⟨rfl, hmatch, rfl⟩, -⟩
    exact hmatch
  · intro hmatch
    exact ⟨0, t.length, ⟨rfl, hmatch, rfl⟩, Nat.le_refl _⟩

/-- **An expression that has to match from end to end matches the texts of its language**, and nothing
    longer. -/
theorem Denotes.occurs_iff (ha : a.Denotes L) {t : Text} :
    (Node.concat [empty, anchor .textStart, a, anchor .textEnd]).occurs t ↔ t ∈ L := by
  rw [occurs_whole_iff]
  constructor
  · intro hmatch
    obtain ⟨u, hu, hspans⟩ := (ha t 0 t.length).1 hmatch
    exact spans_all.1 hspans ▸ hu
  · intro ht
    exact (ha t 0 t.length).2 ⟨t, ht, spans_all.2 rfl⟩

end Node

end Readout.Regex
