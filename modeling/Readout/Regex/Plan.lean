/-
  Matching in linear time.  A piece of an expression is given the set of places at which it may end, and
  answers with a plan: the places from which some match of it ends there, and from each of these the match
  of the highest priority.  Since a plan never starts where it cannot end, nothing is tried twice.

  * `Match` is a match with what its groups have captured;
  * `Piece.seq`, `Piece.alt`, `Piece.plus`, … put pieces together;
  * `Node.piece` is the piece of an expression on a given text;
  * `Node.search` is the leftmost match of the highest priority, `Node.occurs` whether there is one.

  Alternatives come in written order, and more repetitions before fewer unless the repetition is lazy.  A
  repetition that matches nothing ends the loop when it is the first one, and is not tried later.
-/
import Readout.Regex.Places

namespace Readout.Regex

/-! ## Matches -/

/-- The part of a text between two places, matched by a group. -/
structure Capture where
  group : Nat
  start : Nat
  stop : Nat
  deriving DecidableEq, Repr

/-- What the groups have matched, the last capture first. -/
abbrev Captures := List Capture

/-- The last capture of a group. -/
def Captures.get? (cs : Captures) (g : Nat) : Option Capture := cs.find? (·.group == g)

/-- The captured part of the text. -/
def Capture.text (t : Text) (c : Capture) : Text := (t.drop c.start).take (c.stop - c.start)

/-- A match in a text. -/
structure Match where
  /-- the place from which the expression matches; a match with a mark in it is reported from the mark on only -/
  start : Nat
  /-- what the groups have matched -/
  captures : Captures
  deriving DecidableEq, Repr

/-! ## Plans -/

/-- The places from which given places can be reached, and how. -/
structure Plan where
  starts : Places
  /-- from a place of `starts`, where the match of highest priority ends and what it captures -/
  walk : Nat → Captures → Nat × Captures

/-- A part of an expression on a fixed text: a plan for every set of places to reach. -/
structure Piece where
  toward : Places → Plan

namespace Piece

/-- Matches nothing anywhere. -/
def skip : Piece := ⟨fun p => ⟨p, fun i cs => (i, cs)⟩⟩

/-- Has no match. -/
def never : Piece := ⟨fun _ => ⟨0, fun i cs => (i, cs)⟩⟩

/-- Matches nothing at the places of `m`. -/
def check (m : Places) : Piece := ⟨fun p => ⟨p.both m, fun i cs => (i, cs)⟩⟩

/-- Matches one character, at the places of `m`. -/
def take (m : Places) : Piece := ⟨fun p => ⟨p.back.both m, fun i cs => (i + 1, cs)⟩⟩

/-- One piece behind the other. -/
def seq (a b : Piece) : Piece where
  toward p :=
    let q := b.toward p
    let r := a.toward q.starts
    { starts := r.starts
      walk := fun i cs => let (j, cs) := r.walk i cs; q.walk j cs }

/-- The first piece, or else the second. -/
def alt (a b : Piece) : Piece where
  toward p :=
    let q := a.toward p
    let r := b.toward p
    { starts := q.starts.either r.starts
      walk := fun i cs => if q.starts.has i then q.walk i cs else r.walk i cs }

/-- Records what the piece matches as a capture of group `g`. -/
def group (g : Nat) (a : Piece) : Piece where
  toward p :=
    let q := a.toward p
    { starts := q.starts
      walk := fun i cs => let (j, cs) := q.walk i cs; (j, ⟨g, i, j⟩ :: cs) }

/-- At most once. -/
def opt (greedy : Bool) (a : Piece) : Piece := if greedy then alt a skip else alt skip a

/-- `n` times, one behind the other. -/
def power (a : Piece) : Nat → Piece
  | 0 => skip
  | n + 1 => seq a (power a n)

/-- At most `n` times. -/
def most (greedy : Bool) (a : Piece) : Nat → Piece
  | 0 => skip
  | n + 1 => opt greedy (seq a (most greedy a n))

/-- Goes on repeating `a` from place `i`, at most `fuel` times: each further match of `a` has to move, and
    to end in `reach`, from where the places `p` can still be reached. -/
def again (a : Piece) (greedy : Bool) (p reach : Places) : Nat → Nat → Captures → Nat × Captures
  | 0, i, cs => (i, cs)
  | fuel + 1, i, cs =>
    let q := a.toward (reach.without i)
    if q.starts.has i && (greedy || !p.has i) then
      let (j, cs) := q.walk i cs
      again a greedy p reach fuel j cs
    else (i, cs)

/-- At least once, in a text of `n` characters. -/
def plus (n : Nat) (greedy : Bool) (a : Piece) : Piece where
  toward p :=
    let reach := Places.close (fun q => (a.toward q).starts) (n + 1) p
    { starts := (a.toward reach).starts
      walk := fun i cs =>
        let (j, cs) := (a.toward (reach.replacing i p)).walk i cs
        if j = i then (j, cs) else again a greedy p reach (n + 1) j cs }

/-- Between `min` and `max` times, in a text of `n` characters. -/
def repeated (n : Nat) (a : Piece) (min : Nat) (max : Option Nat) (greedy : Bool) : Piece :=
  match max with
  | some max => seq (power a min) (most greedy a (max - min))
  | none =>
    match min with
    | 0 => opt greedy (plus n greedy a)
    | m + 1 => seq (power a m) (plus n greedy a)

end Piece

/-! ## Expressions -/

namespace Node

/-- The piece of an expression on the text `t`.  What looks around or back has none. -/
def piece (t : Text) : Node → Piece
  | empty | keep => .skip
  | set s => .take (.ofSet s t)
  | anchor a => .check (.ofAnchor a t)
  | seq a b => .seq (a.piece t) (b.piece t)
  | alt a b => .alt (a.piece t) (b.piece t)
  | group g a => .group g (a.piece t)
  | loop a min max greedy => .repeated t.length (a.piece t) min max greedy
  | look .. | atomic _ | backref .. | captured _ | branch .. => .never

/-- The places of `t` at which a match of the expression starts. -/
def starts (t : Text) (a : Node) : Places := ((a.piece t).toward (.upTo t.length)).starts

/-- Does the expression match somewhere in `t`? -/
def occurs (t : Text) (a : Node) : Bool := a.starts t != 0

/-- The leftmost match, of highest priority among those that start there. -/
def search (t : Text) (a : Node) : Option Match :=
  let p := (a.piece t).toward (.upTo t.length)
  (Places.first? t.length p.starts).map fun i => ⟨i, (p.walk i []).2⟩

end Node

end Readout.Regex
