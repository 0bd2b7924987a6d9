/-
  Matching by backtracking, for expressions that look around or refer back.

  An expression is first bound to the text (`Node.code`): its simple parts become plans, which are tried
  once and not reopened, and the rest stays as it is.  A `Machine` then works through a list of tasks; where
  it has a choice it notes the other way as an alternative, and a failed task resumes the last one.

  * `Machine.step` is one step, `Machine.run` all of them;
  * `Node.explore` is the first match found from the leftmost place that has one;
  * `budget` bounds the number of resumed alternatives: a search that needs more is given up.
-/
import Readout.Regex.Plan

namespace Readout.Regex

/-! ## Bound expressions -/

/-- An expression on a fixed text. -/
inductive Code where
  /-- a simple part -/
  | plan (p : Plan)
  | seq (a b : Code)
  | alt (a b : Code)
  | group (index : Nat) (a : Code)
  /-- repetition; `mayStay` if one round can match nothing -/
  | loop (a : Code) (min : Nat) (max : Option Nat) (greedy mayStay : Bool)
  /-- a condition on the text from `back` characters before the place on -/
  | look (back : Nat) (negated : Bool) (a : Code)
  | atomic (a : Code)
  | backref (index : Nat) (fold : Bool)
  | captured (index : Nat)
  | branch (cond yes no : Code)

namespace Node

/-- The simple expression as a plan for the whole text. -/
def plan (t : Text) (a : Node) : Code := .plan ((a.piece t).toward (.upTo t.length))

/-- The places at which a match of `a` ends. -/
def ends (t : Text) (a : Node) : Places :=
  (List.range (t.length + 1)).foldl
    (fun m j => if ((a.piece t).toward (.only j)).starts != 0 then m.either (.only j) else m) 0

/-- A condition on what ends at a place, for a simple expression of no fixed length: it is decided for all
    places at once. -/
def planBehind (t : Text) (negated : Bool) (a : Node) : Code :=
  let all := Places.upTo t.length
  let m := a.ends t
  .plan ((Piece.check (if negated then all ^^^ m else m)).toward all)

/-- The expression on the text `t`, where `refs` are the groups referred to.  `open_` says that more follows,
    so that a part of several possible lengths cannot be settled at once; `leading` says that all parts in
    front of this one in its sequence are of fixed size. -/
def code (t : Text) (refs : List Nat) (open_ leading : Bool) (node : Node) : Code :=
  if !open_ && node.simple refs then node.plan t else
  match node with
  | empty | keep => .plan (Piece.skip.toward (.upTo t.length))
  | set _ | anchor _ => node.plan t
  | seq a b =>
    let settled (c : Node) := c.fixedSize && c.simple refs
    .seq (if settled a && (leading || settled b) then a.plan t else a.code t refs true true)
      (if settled b then b.plan t
        else match b with
          | seq .. => b.code t refs open_ (leading && settled a)
          | _ => b.code t refs (open_ || !b.simple refs) true)
  | alt a b => .alt (a.code t refs open_ true) (b.code t refs open_ true)
  | group g a => .group g (a.code t refs open_ true)
  | loop a min max greedy =>
    .loop (a.code t refs (open_ || !(min == 0 && max == some 1)) true) min max greedy
      (a.minSize == 0)
  | look false negated a => .look 0 negated (a.code t refs false true)
  | look true negated a =>
    if a.fixedSize then .look a.minSize negated (a.code t refs false true) else a.planBehind t negated
  | atomic a => .atomic (a.code t refs false true)
  | backref g fold => .backref g fold
  | captured g => .captured g
  | branch c y n => .branch (c.code t refs false true) (y.code t refs open_ true) (n.code t refs open_ true)

end Node

/-! ## The machine -/

/-- A task of a machine. -/
inductive Task where
  | match (c : Code)
  /-- records the capture of a group from `start` to here -/
  | close (index start : Nat)
  /-- the next round of a repetition after `count` rounds, the last optional one from place `last` -/
  | round (a : Code) (min : Nat) (max : Option Nat) (greedy mayStay : Bool) (count : Nat)
      (last : Option Nat)
  /-- goes back to a place -/
  | goTo (place : Nat)
  /-- drops all alternatives but the first `keep` ones -/
  | settle (keep : Nat)
  /-- as `settle`, and fails -/
  | refuse (keep : Nat)

/-- A way not taken. -/
structure Alternative where
  tasks : List Task
  place : Nat
  captures : Captures

/-- A search in progress. -/
structure Machine where
  tasks : List Task
  place : Nat
  captures : Captures
  /-- the last one first -/
  alternatives : List Alternative
  /-- how many alternatives may still be resumed -/
  budget : Nat

/-- How a search ends. -/
inductive Verdict where
  | found (captures : Captures)
  /-- without a match; the rest of the budget is left -/
  | missed (budget : Nat)
  /-- given up -/
  | exhausted

namespace Machine

/-- Resumes the last alternative. -/
def fail (m : Machine) : Machine ⊕ Verdict :=
  match m.alternatives, m.budget with
  | [], b => .inr (.missed b)
  | _ :: _, 0 => .inr .exhausted
  | a :: as, b + 1 => .inl ⟨a.tasks, a.place, a.captures, as, b⟩

/-- Notes an alternative at the present place. -/
def orElse (m : Machine) (tasks : List Task) : Machine :=
  { m with alternatives := ⟨tasks, m.place, m.captures⟩ :: m.alternatives }

/-- Drops all alternatives but the oldest `keep`. -/
def cut (m : Machine) (keep : Nat) : Machine :=
  { m with alternatives := m.alternatives.drop (m.alternatives.length - keep) }

/-- The place behind `s` in `t` from place `i` on, if `s` stands there. -/
def repeats (t s : Text) (i : Nat) (fold : Bool) : Bool :=
  let u := (t.drop i).take s.length
  if fold then u.map Unicode.fold == s.map Unicode.fold else u == s

/-- Matches `c` on the text `t`, then goes on with `rest`. -/
def stepMatch (t : Text) (m : Machine) (rest : List Task) : Code → Machine ⊕ Verdict
  | .plan p =>
    if p.starts.has m.place then
      let (j, cs) := p.walk m.place m.captures
      .inl { m with tasks := rest, place := j, captures := cs }
    else m.fail
  | .seq a b => .inl { m with tasks := .match a :: .match b :: rest }
  | .alt a b => .inl { m.orElse (.match b :: rest) with tasks := .match a :: rest }
  | .group g a => .inl { m with tasks := .match a :: .close g m.place :: rest }
  | .loop a min max greedy mayStay =>
    .inl { m with tasks := .round a min max greedy mayStay 0 none :: rest }
  | .look back negated a =>
    if m.place < back then (if negated then .inl { m with tasks := rest } else m.fail)
    else if negated then
      .inl { m.orElse rest with
        place := m.place - back, tasks := [.match a, .refuse m.alternatives.length] }
    else .inl { m with place := m.place - back, tasks := .match a :: .goTo m.place :: rest }
  | .atomic a => .inl { m with tasks := .match a :: .settle m.alternatives.length :: rest }
  | .backref g fold =>
    match m.captures.get? g with
    | none => m.fail
    | some c =>
      let s := c.text t
      if repeats t s m.place fold then .inl { m with tasks := rest, place := m.place + s.length }
      else m.fail
  | .captured g => if (m.captures.get? g).isSome then .inl { m with tasks := rest } else m.fail
  | .branch c y n =>
    .inl { m.orElse (.match n :: rest) with
      tasks := .match c :: .settle m.alternatives.length :: .match y :: rest }

/-- One round more of a repetition, or none. -/
def stepRound (m : Machine) (rest : List Task) (a : Code) (min : Nat) (max : Option Nat)
    (greedy mayStay : Bool) (count : Nat) (last : Option Nat) : Machine ⊕ Verdict :=
  let more (last : Option Nat) : List Task :=
    .match a :: .round a min max greedy mayStay (count + 1) last :: rest
  if max.any (· ≤ count) then .inl { m with tasks := rest }
  else if mayStay && max.isNone && last == some m.place then m.fail
  else if count < min then .inl { m with tasks := more none }
  else if greedy then .inl { m.orElse rest with tasks := more (some m.place) }
  else .inl { m.orElse (more (some m.place)) with tasks := rest }

/-- One step of a search on the text `t`. -/
def step (t : Text) (m : Machine) : Machine ⊕ Verdict :=
  match m.tasks with
  | [] => .inr (.found m.captures)
  | task :: rest =>
    match task with
    | .match c => m.stepMatch t rest c
    | .close g start =>
      .inl { m with tasks := rest, captures := ⟨g, start, m.place⟩ :: m.captures }
    | .round a min max greedy mayStay count last => m.stepRound rest a min max greedy mayStay count last
    | .goTo i => .inl { m with tasks := rest, place := i }
    | .settle k => .inl { m.cut k with tasks := rest }
    | .refuse k => (m.cut k).fail

/-- At most `fuel` steps of a search. -/
def run (t : Text) : Nat → Machine → Verdict
  | 0, _ => .exhausted
  | fuel + 1, m =>
    match m.step t with
    | .inl m => run t fuel m
    | .inr v => v

end Machine

namespace Node

/-- How many alternatives a search may resume. -/
def budget : Nat := 1000000

/-- More steps than a search within the budget takes. -/
def fuel : Nat := 1000000000000000

/-- The first match of `c` from one of so many places, of which `i` is the first.  Moving on to the next place
    costs as much as resuming an alternative. -/
def exploreFrom (t : Text) (c : Code) (budget i : Nat) : Nat → Except Unit (Option Match)
  | 0 => .ok none
  | places + 1 =>
    match Machine.run t fuel ⟨[.match c], i, [], [], budget⟩ with
    | .found cs => .ok (some ⟨i, cs⟩)
    | .missed (b + 1) => exploreFrom t c b (i + 1) places
    | .missed 0 | .exhausted => .error ()

/-- The first match from the leftmost place that has one; an error if the budget does not suffice. -/
def explore (t : Text) (a : Node) : Except Unit (Option Match) :=
  exploreFrom t (a.code t a.references false true) budget 0 (t.length + 1)

end Node

end Readout.Regex
