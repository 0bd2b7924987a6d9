/-
  Expressions that hold on to the start of the text: all their matches begin there.

  * `Node.anchored` decides from the expression alone that no match can begin elsewhere;
  * `Piece.Anchored`, `Code.Anchored`: the same for what the two ways of matching make of it;
  * `Machine.Blocked`: a machine that has such a code in front of every way on and is not at the start,
    `step_blocked` and `run_blocked`: it stays blocked, and finds nothing;
  * `start_eq_zero`: an anchored pattern matches at the start of a line only.
-/
import Readout.Regex.LinePattern

namespace Readout.Regex

/-- Does every match of the expression begin at the start of the text?  Where the expression has a choice,
    each way has to; and what is repeated has to be there at least once. -/
def Node.anchored : Node → Bool
  | anchor .textStart => true
  | seq a _ | group _ a | atomic a => a.anchored
  | alt a b => a.anchored && b.anchored
  | loop a min max _ => 0 < min && max != some 0 && a.anchored
  | branch c _ n => c.anchored && n.anchored
  | empty | set _ | anchor _ | look .. | backref .. | captured _ | keep => false

/-! ## Places -/

namespace Places

theorem has_both (p q : Places) (i : Nat) : (p.both q).has i = (p.has i && q.has i) := Nat.testBit_and ..

theorem has_either (p q : Places) (i : Nat) : (p.either q).has i = (p.has i || q.has i) := Nat.testBit_or ..

theorem has_zero (i : Nat) : has 0 i = false := Nat.zero_testBit i

theorem ofAnchorFrom_textStart (c : Char) : ∀ t : Text, ofAnchorFrom .textStart (some c) t = 0
  | [] => rfl
  | d :: t => by simp [ofAnchorFrom, ofAnchorFrom_textStart d t, Anchor.holds]

/-- The text starts in one place only. -/
theorem has_ofAnchor_textStart {t : Text} {i : Nat} (h : (ofAnchor .textStart t).has i) : i = 0 := by
  have hone : ofAnchor .textStart t = 1 := by
    cases t with
    | nil => rfl
    | cons c t => simp [ofAnchor, ofAnchorFrom, ofAnchorFrom_textStart c t, Anchor.holds]
  rw [hone, has, Nat.testBit_one_eq_true_iff_self_eq_zero] at h
  exact h

theorem has_of_firstFrom {p : Places} {j : Nat} : ∀ {fuel i : Nat}, firstFrom p i fuel = some j → p.has j
  | 0, _, h => by cases h
  | fuel + 1, i, h => by
    unfold firstFrom at h
    split at h
    · rename_i hi; cases h; exact hi
    · exact has_of_firstFrom h

end Places

/-! ## Pieces -/

/-- Does the piece start at the start of the text only? -/
def Piece.Anchored (a : Piece) : Prop := ∀ p i, (a.toward p).starts.has i → i = 0

namespace Piece
variable {a b : Piece}

theorem Anchored.seq (ha : a.Anchored) (b : Piece) : (a.seq b).Anchored := fun _ i h => ha _ i h

theorem Anchored.alt (ha : a.Anchored) (hb : b.Anchored) : (a.alt b).Anchored := by
  intro p i h
  rw [Piece.alt, Places.has_either, Bool.or_eq_true] at h
  exact h.elim (ha p i) (hb p i)

theorem Anchored.group (ha : a.Anchored) (g : Nat) : (a.group g).Anchored := fun p i h => ha p i h

theorem Anchored.plus (ha : a.Anchored) (n : Nat) (greedy : Bool) : (a.plus n greedy).Anchored :=
  fun _ i h => ha _ i h

theorem Anchored.repeated (ha : a.Anchored) (n : Nat) {min : Nat} (hmin : 0 < min) (max : Option Nat)
    (greedy : Bool) : (a.repeated n min max greedy).Anchored := by
  obtain ⟨m, rfl⟩ : ∃ m, min = m + 1 := ⟨min - 1, by omega⟩
  cases max with
  | some max => exact (ha.seq (a.power m)).seq _
  | none =>
    cases m with
    | zero => exact fun p i h => (ha.plus n greedy) p i h
    | succ m => exact (ha.seq (a.power m)).seq _

end Piece

namespace Node

theorem anchored_piece (t : Text) : ∀ {a : Node}, a.anchored → (a.piece t).Anchored
  | anchor .textStart, _ => by
    intro p i h
    rw [piece, Piece.check, Places.has_both, Bool.and_eq_true] at h
    exact Places.has_ofAnchor_textStart h.2
  | seq a b, h => (anchored_piece t (a := a) h).seq (b.piece t)
  | group g a, h => (anchored_piece t (a := a) h).group g
  | alt a b, h => by
    obtain ⟨ha, hb⟩ := Bool.and_eq_true_iff.1 h
    exact (anchored_piece t ha).alt (anchored_piece t hb)
  | loop a min max greedy, h => by
    simp only [anchored, Bool.and_eq_true, decide_eq_true_eq] at h
    exact (anchored_piece t h.2).repeated t.length h.1.1 max greedy
  | atomic _, _ | branch .., _ => fun p i h => by
    rw [piece, Piece.never, Places.has_zero] at h; cases h

/-- **A match of an anchored expression that is found place by place begins at the start.** -/
theorem start_of_search {t : Text} {a : Node} (ha : a.anchored) {m : Match} (h : a.search t = some m) :
    m.start = 0 := by
  obtain ⟨i, hi, rfl⟩ := Option.map_eq_some_iff.1 h
  exact anchored_piece t ha _ i (Places.has_of_firstFrom hi)

end Node

/-! ## Codes -/

/-- Does the code match at the start of the text only? -/
def Code.Anchored : Code → Prop
  | plan p => ∀ i, p.starts.has i → i = 0
  | seq a _ | group _ a | atomic a => a.Anchored
  | alt a b => a.Anchored ∧ b.Anchored
  | loop a min max _ _ => 0 < min ∧ max ≠ some 0 ∧ a.Anchored
  | branch c _ n => c.Anchored ∧ n.Anchored
  | look .. | backref .. | captured _ => False

theorem Node.anchored_plan (t : Text) {a : Node} (ha : a.anchored) : (a.plan t).Anchored :=
  fun i h => anchored_piece t ha _ i h

/-- A code for each of two situations. -/
theorem Code.Anchored.ite {p : Prop} [Decidable p] {a b : Code} (ha : a.Anchored) (hb : b.Anchored) :
    (if p then a else b).Anchored := by
  split
  · exact ha
  · exact hb

theorem Node.anchored_code (t : Text) (refs : List Nat) : ∀ {a : Node} (open_ leading : Bool), a.anchored →
    (a.code t refs open_ leading).Anchored
  | anchor .textStart, open_, leading, h => by
    unfold code
    exact .ite (anchored_plan t h) (anchored_plan t h)
  | seq a b, open_, leading, h => by
    have ha : a.anchored := h
    unfold code
    refine .ite (anchored_plan t h) ?_
    exact Code.Anchored.ite (anchored_plan t ha) (anchored_code t refs true true ha)
  | group g a, open_, leading, h => by
    unfold code
    exact .ite (anchored_plan t h) (anchored_code t refs (a := a) open_ true h)
  | atomic a, open_, leading, h => by
    unfold code
    exact .ite (anchored_plan t h) (anchored_code t refs (a := a) false true h)
  | alt a b, open_, leading, h => by
    obtain ⟨ha, hb⟩ := Bool.and_eq_true_iff.1 h
    unfold code
    exact .ite (anchored_plan t h) ⟨anchored_code t refs open_ true ha, anchored_code t refs open_ true hb⟩
  | loop a min max greedy, open_, leading, h => by
    have hloop := h
    simp only [anchored, Bool.and_eq_true, decide_eq_true_eq, bne_iff_ne] at hloop
    unfold code
    exact .ite (anchored_plan t h) ⟨hloop.1.1, hloop.1.2, anchored_code t refs _ true hloop.2⟩
  | branch c y n, open_, leading, h => by
    obtain ⟨hc, hn⟩ := Bool.and_eq_true_iff.1 h
    unfold code
    exact .ite (anchored_plan t h) ⟨anchored_code t refs false true hc, anchored_code t refs open_ true hn⟩

/-! ## Machines -/

/-- Can the task not be done away from the start of the text?  A repetition has rounds left that it must do. -/
def Task.Anchored : Task → Prop
  | .match c => c.Anchored
  | .round a min max _ _ count _ => a.Anchored ∧ count < min ∧ ¬ max.any (· ≤ count)
  | .close .. | .goTo _ | .settle _ | .refuse _ => False

/-- Are the tasks out of reach: the place is not the start, and the first of them holds on to the start? -/
def Blocked (tasks : List Task) (place : Nat) : Prop :=
  place ≠ 0 ∧ ∃ task rest, tasks = task :: rest ∧ task.Anchored

namespace Machine

/-- Is every way on out of reach? -/
structure Blocked (m : Machine) : Prop where
  tasks : Regex.Blocked m.tasks m.place
  alternatives : ∀ a ∈ m.alternatives, Regex.Blocked a.tasks a.place

/-- What a step of a blocked machine comes to: it is blocked again, or the search is over. -/
def StaysBlocked : Machine ⊕ Verdict → Prop
  | .inl m => m.Blocked
  | .inr v => ∀ cs, v ≠ .found cs

variable {m : Machine}

theorem Blocked.fail (hm : m.Blocked) : StaysBlocked m.fail := by
  unfold Machine.fail
  split
  · exact nofun
  · exact nofun
  · rename_i a as b ha hb
    have halts := List.forall_mem_cons.1 (ha ▸ hm.alternatives)
    exact ⟨halts.1, halts.2⟩

/-- The machine goes on with other tasks at its place. -/
theorem Blocked.goOn (hm : m.Blocked) (task : Task) (htask : task.Anchored) (rest : List Task) :
    Blocked { m with tasks := task :: rest } := ⟨⟨hm.tasks.1, task, rest, rfl, htask⟩, hm.alternatives⟩

theorem Blocked.orElse (hm : m.Blocked) (task : Task) (htask : task.Anchored) (rest : List Task) :
    (m.orElse (task :: rest)).Blocked where
  tasks := hm.tasks
  alternatives := by
    unfold Machine.orElse
    rw [List.forall_mem_cons]
    exact ⟨⟨hm.tasks.1, task, rest, rfl, htask⟩, hm.alternatives⟩

theorem stepMatch_blocked (t : Text) (hm : m.Blocked) (rest : List Task) : ∀ {c : Code}, c.Anchored →
    StaysBlocked (m.stepMatch t rest c)
  | .plan p, hc => by
    simp only [stepMatch]
    split
    · rename_i hstart
      exact absurd (hc _ hstart) hm.tasks.1
    · exact hm.fail
  | .seq a b, hc => hm.goOn (.match a) hc _
  | .alt a b, hc => (hm.orElse (.match b) hc.2 rest).goOn (.match a) hc.1 _
  | .group g a, hc => hm.goOn (.match a) hc _
  | .loop a min max greedy mayStay, hc => by
    refine hm.goOn (.round a min max greedy mayStay 0 none) ⟨hc.2.2, hc.1, ?_⟩ _
    rcases max with _ | _ | max
    · simp
    · exact absurd rfl hc.2.1
    · simp
  | .atomic a, hc => hm.goOn (.match a) hc _
  | .branch c y n, hc => (hm.orElse (.match n) hc.2 rest).goOn (.match c) hc.1 _

theorem stepRound_blocked (hm : m.Blocked) (rest : List Task) {a : Code} {min : Nat} {max : Option Nat}
    {greedy mayStay : Bool} {count : Nat} {last : Option Nat} (ha : a.Anchored) (hmin : count < min)
    (hmax : ¬ max.any (· ≤ count)) :
    StaysBlocked (m.stepRound rest a min max greedy mayStay count last) := by
  unfold stepRound
  rw [if_neg hmax, if_pos hmin]
  split
  · exact hm.fail
  · exact hm.goOn (.match a) ha _

/-- **A blocked machine stays blocked.** -/
theorem step_blocked (t : Text) (hm : m.Blocked) : StaysBlocked (m.step t) := by
  obtain ⟨-, task, rest, htasks, htask⟩ := hm.tasks
  unfold step
  rw [htasks]
  cases task with
  | «match» c => exact stepMatch_blocked t hm rest htask
  | round a min max greedy mayStay count last =>
    exact stepRound_blocked hm rest htask.1 htask.2.1 htask.2.2
  | close => exact htask.elim
  | goTo => exact htask.elim
  | settle => exact htask.elim
  | refuse => exact htask.elim

/-- **A blocked machine finds nothing.** -/
theorem run_blocked (t : Text) : ∀ {fuel : Nat} {m : Machine}, m.Blocked →
    ∀ cs, Machine.run t fuel m ≠ .found cs
  | 0, _, _ => nofun
  | fuel + 1, m, hm => by
    have hstep := step_blocked t hm
    unfold run
    rcases hq : m.step t with q | v
    · rw [hq] at hstep; exact run_blocked t hstep
    · rw [hq] at hstep; exact hstep

end Machine

theorem Node.start_of_exploreFrom {t : Text} {c : Code} (hc : c.Anchored) {m : Match} :
    ∀ {places budget i : Nat}, exploreFrom t c budget i places = .ok (some m) → m.start = 0
  | 0, _, _, h => by cases h
  | places + 1, budget, i, h => by
    unfold exploreFrom at h
    split at h
    · rename_i cs hfound
      cases h
      rcases Nat.eq_zero_or_pos i with hi | hi
      · exact hi
      · -- in any other place the machine is blocked from the first step on
        have hm : Machine.Blocked ⟨[.match c], i, [], [], budget⟩ :=
          ⟨⟨Nat.ne_of_gt hi, .match c, [], rfl, hc⟩, nofun⟩
        exact absurd hfound (Machine.run_blocked t hm cs)
    · exact start_of_exploreFrom hc h
    · cases h
    · cases h

/-- **A match of an anchored pattern begins at the start of the line.** -/
theorem LinePattern.start_eq_zero {p : LinePattern} (hp : p.node.anchored) {line : Text} {m : Match}
    (h : p.search line = .ok (some m)) : m.start = 0 := by
  unfold search at h
  split at h
  · exact Node.start_of_search hp (Except.ok.inj h)
  · exact Node.start_of_exploreFrom (Node.anchored_code line _ false true hp) h

end Readout.Regex
