/-
  Patterns over commands: regular expressions without look-around and back references.

  * `CommandPattern.parse?` reads an expression, or refuses it;
  * `CommandPattern.occurs` decides whether it matches somewhere in a text.

  The reader goes through the text once and keeps the open groups on a stack.  With every part it notes how
  deeply the part is nested, since expressions nested deeper than `depthLimit` are refused.
-/
import Readout.Regex.Bracket
import Readout.Regex.Plan
import Readout.Unicode.Alphanumeric

namespace Readout.Regex

/-- An expression that has been read. -/
structure CommandPattern where
  node : Node
  deriving DecidableEq, Repr

namespace CommandPattern

/-! ## Parts -/

/-- A part of an expression: what it is, how deeply it is nested, and whether it can be repeated. -/
structure Part where
  node : Node
  depth : Nat
  solid : Bool

/-- A part without inner structure. -/
def Part.leaf (a : Node) : Part := ⟨a, 0, true⟩

/-- A switch of flags, which is no expression. -/
def Part.flags : Part := ⟨.empty, 0, false⟩

/-- The depth of several parts side by side. -/
def depthOf (ps : List Part) : Nat := ps.foldr (fun p n => Nat.max p.depth n) 0

/-- Parts one behind the other. -/
def Part.concat : List Part → Part
  | [] => ⟨.empty, 0, false⟩
  | [p] => p
  | ps => ⟨.concat (ps.map (·.node)), depthOf ps + 1, true⟩

/-- Parts to choose from. -/
def Part.choice : List Part → Part
  | [p] => p
  | ps => ⟨.choice (ps.map (·.node)), depthOf ps + 1, true⟩

/-- A part in parentheses; `index` if it captures. -/
def Part.enclosed (index : Option Nat) (p : Part) : Part :=
  ⟨match index with
    | some g => .group g p.node
    | none => p.node, p.depth + 1, true⟩

/-- A repetition. -/
def Part.loop (p : Part) (min : Nat) (max : Option Nat) (greedy : Bool) : Part :=
  ⟨.loop p.node min max greedy, p.depth + 1, true⟩

/-! ## The reader -/

/-- The part of a group that has been read. -/
structure Scope where
  /-- the parts behind the last bar, the last one first -/
  parts : List Part := []
  /-- the alternatives in front of it, the last one first -/
  branches : List Part := []

/-- The scope as one part. -/
def Scope.part (s : Scope) : Part := .choice (Part.concat s.parts.reverse :: s.branches).reverse

/-- The scope with a part more. -/
def Scope.push (s : Scope) (p : Part) : Scope := { s with parts := p :: s.parts }

/-- An open group: what it captures as, what stood in front of it, and the flags there. -/
structure Opening where
  index : Option Nat
  outer : Scope
  flags : Flags

/-- How far an expression has been read. -/
structure Reading where
  scope : Scope := {}
  flags : Flags := {}
  openings : List Opening := []
  groups : Nat := 0
  names : List Text := []

namespace Reading

/-- Reads one part more. -/
def push (r : Reading) (p : Part) : Reading := { r with scope := r.scope.push p }

/-- Opens a group. -/
def open_ (r : Reading) (index : Option Nat) (flags : Flags) : Reading :=
  { r with scope := {}, flags, openings := ⟨index, r.scope, r.flags⟩ :: r.openings }

/-- Opens the next capture group. -/
def openCapture (r : Reading) (names : List Text) : Reading :=
  { r.open_ (some (r.groups + 1)) r.flags with groups := r.groups + 1, names }

/-- Closes the last group. -/
def close? (r : Reading) : Option Reading :=
  match r.openings with
  | [] => none
  | o :: os =>
    some { r with
      scope := o.outer.push (r.scope.part.enclosed o.index), flags := o.flags, openings := os }

/-- Goes on to the next alternative. -/
def bar (r : Reading) : Reading :=
  { r with scope := ⟨[], Part.concat r.scope.parts.reverse :: r.scope.branches⟩ }

/-- Repeats the last part. -/
def repeat? (r : Reading) (min : Nat) (max : Option Nat) (greedy : Bool) : Option Reading :=
  match r.scope.parts with
  | p :: ps =>
    if p.solid then
      some { r with scope := { r.scope with
        parts := p.loop min max (greedy != r.flags.swapGreed) :: ps } }
    else none
  | [] => none

end Reading

/-- Takes off a question mark: is there none? -/
def readGreedy : Text → Bool × Text
  | '?' :: t => (false, t)
  | t => (true, t)

/-- Reads a number with white space around it. -/
def readCount? (t : Text) : Option (Option Nat × Text) :=
  let t := t.dropWhile Unicode.isSpace
  match Text.readDecimal? t with
  | some (n, t) => if n < UInt32.size then some (some n, t.dropWhile Unicode.isSpace) else none
  | none => some (none, t)

/-- Reads a counted repetition behind its brace: the bounds, and the text from the question mark on. -/
def readCounts? (fl : Flags) (t : Text) : Option (Nat × Option Nat × Text) :=
  match readCount? (fl.skipSpace t) with
  | some (some min, '}' :: t) => some (min, some min, t)
  | some (some min, ',' :: t) =>
    match fl.skipSpace t with
    | '}' :: t => some (min, none, t)
    | t =>
      match readCount? t with
      | some (some max, '}' :: t) => if min ≤ max then some (min, some max, t) else none
      | _ => none
  | _ => none

/-- The flags with one switch turned. -/
def turn? (fl : Flags) (c : Char) (on : Bool) : Option Flags :=
  match c with
  | 'i' => some { fl with fold := on }
  | 'm' => some { fl with multiLine := on }
  | 's' => some { fl with dotAll := on }
  | 'U' => some { fl with swapGreed := on }
  | 'u' => some { fl with unicode := on }
  | 'R' => some { fl with returnBreaks := on }
  | 'x' => some { fl with ignoreSpace := on }
  | _ => none

/-- Reads flags up to their end: a parenthesis for the rest of the group, a colon for a group of their own. -/
def readFlags? (fl : Flags) (on : Bool) (seen : List Char) : Text → Option (Flags × Char × Text)
  | [] => none
  | c :: t =>
    if c = ':' ∨ c = ')' then
      if seen.head? = some '-' ∨ (c = ')' ∧ seen = []) then none else some (fl, c, t)
    else if seen.contains c then none
    else if c = '-' then readFlags? fl false (c :: seen) t
    else (turn? fl c on).bind fun fl => readFlags? fl on (c :: seen) t

/-- Is the text the name of a group? -/
def isName : Text → Bool
  | [] => false
  | c :: t =>
    (c == '_' || (Unicode.isAlphanumeric c && Unicode.isWord c && !Unicode.isDigit c)) &&
      t.all fun c => c == '_' || c == '.' || c == '[' || c == ']' || Unicode.isAlphanumeric c

/-- Reads the start of a group behind its parenthesis. -/
def readGroup? (r : Reading) (t : Text) : Option (Reading × Text) :=
  let named (t : Text) : Option (Reading × Text) :=
    match t.span (· != '>') with
    | (name, _ :: rest) =>
      if isName name && !r.names.contains name then some (r.openCapture (name :: r.names), rest) else none
    | _ => none
  match r.flags.skipSpace t with
  | '?' :: '=' :: _ | '?' :: '!' :: _ | '?' :: '<' :: '=' :: _ | '?' :: '<' :: '!' :: _ => none
  | '?' :: 'P' :: '<' :: t => named t
  | '?' :: '<' :: t => named t
  | '?' :: t =>
    match readFlags? r.flags true [] t with
    | some (fl, ')', t) => some ({ r.push .flags with flags := fl }, t)
    | some (fl, _, t) => some (r.open_ none fl, t)
    | none => none
  | t => some (r.openCapture r.names, t)

/-- Reads the next part, operator or parenthesis. -/
def readNext? (r : Reading) : Text → Option (Reading × Text)
  | [] => none
  | c :: t =>
    let uncounted (min : Nat) (max : Option Nat) : Option (Reading × Text) :=
      let (greedy, t) := readGreedy t
      (r.repeat? min max greedy).map (·, t)
    match c with
    | '(' => readGroup? r t
    | ')' => r.close?.map (·, t)
    | '|' => some (r.bar, t)
    | '[' => (Bracket.read? r.flags t).map fun (c, t) => (r.push ⟨.set c.set, c.depth, true⟩, t)
    | '?' => uncounted 0 (some 1)
    | '*' => uncounted 0 none
    | '+' => uncounted 1 none
    | '{' =>
      match r.scope.parts, readCounts? r.flags t with
      | _ :: _, some (min, max, t) =>
        let (greedy, t) := readGreedy (r.flags.skipSpace t)
        (r.repeat? min max greedy).map (·, t)
      | _, _ => none
    | '\\' => (Element.read? r.flags t).map fun (e, t) => (r.push (.leaf (e.node r.flags)), t)
    | '.' => if r.flags.unicode then some (r.push (.leaf (.set r.flags.dot)), t) else none
    | '^' => some (r.push (.leaf (.anchor r.flags.caret)), t)
    | '$' => some (r.push (.leaf (.anchor r.flags.dollar)), t)
    | c => some (r.push (.leaf (r.flags.char c)), t)

/-- Reads to the end of the text. -/
def readAll? : Nat → Reading → Text → Option Reading
  | 0, _, _ => none
  | fuel + 1, r, t =>
    match r.flags.skipSpace t with
    | [] => some r
    | t => (readNext? r t).bind fun (r, t) => readAll? fuel r t

/-- Expressions nested more deeply are refused. -/
def depthLimit : Nat := 250

/-- Is the part within the limits, of nesting and of size? -/
def Part.isAdmitted (p : Part) : Bool := p.depth ≤ depthLimit && p.node.fits

/-- Reads an expression. -/
def parse? (t : Text) : Option CommandPattern := do
  let r ← readAll? (t.length + 1) {} t
  if r.openings.isEmpty && r.scope.part.isAdmitted then some ⟨r.scope.part.node⟩ else none

/-- Does the pattern match somewhere in `t`? -/
def occurs (p : CommandPattern) (t : Text) : Bool := p.node.occurs t

end CommandPattern

end Readout.Regex
