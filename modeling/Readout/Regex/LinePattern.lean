/-
  Patterns over input lines: regular expressions with look-around, back references, atomic groups and
  possessive repetition.

  * `LinePattern.parse?` reads an expression, or refuses it;
  * `LinePattern.search` is the first match in a line, or an error if an expression with look-around or back
    references needs too many attempts;
  * `LinePattern.capture?` is the text that a named group has captured; a name that several groups have
    stands for the last of them.

  The reader descends into groups; `fuel` bounds the number of its calls, and `depth` that of open groups.
-/
import Readout.Regex.Backtrack
import Readout.Regex.Bracket
import Readout.Unicode.Alphanumeric

namespace Readout.Regex

/-- An expression that has been read. -/
structure LinePattern where
  node : Node
  /-- the names of its groups with their numbers, the last one first -/
  names : List (Text × Nat)
  deriving DecidableEq, Repr

namespace LinePattern

/-! ## The reader -/

/-- What has been read so far. -/
structure Reading where
  flags : Flags := {}
  groups : Nat := 0
  names : List (Text × Nat) := []
  /-- is there a reference to a group by its number? -/
  numbered : Bool := false
  /-- groups that are referred to have lower numbers than this -/
  bound : Nat

/-- A reader's result: what it has read, and what is left. -/
abbrev Result (α : Type) := Option (α × Reading × Text)

/-- Skips a comment in parentheses, of which a backslash quotes a character. -/
def skipRemark? : Text → Option Text
  | [] => none
  | ')' :: t => some t
  | '\\' :: _ :: t => skipRemark? t
  | _ :: t => skipRemark? t

/-- Skips comments in parentheses, and white space and comments to the line end if the flags say so. -/
def skip? (fl : Flags) : Nat → Text → Option Text
  | 0, t => some t
  | fuel + 1, t =>
    match t with
    | '(' :: '?' :: '#' :: r => (skipRemark? r).bind (skip? fl fuel)
    | c :: r =>
      if !fl.ignoreSpace then some t
      else if c = '#' then skip? fl fuel ((r.dropWhile (· != '\n')).drop 1)
      else if c = ' ' ∨ c = '\t' ∨ c = '\r' ∨ c = '\n' then skip? fl fuel r
      else some t
    | [] => some []

/-- Skips what the expression ignores. -/
def Reading.skip? (r : Reading) (t : Text) : Option Text := LinePattern.skip? r.flags (t.length + 1) t

/-- Is `c` a character of group names? -/
def isNameChar (c : Char) : Bool := c == '_' || Unicode.isAlphanumeric c

/-- Reads a name up to `close`. -/
def readName? (close : Char) (t : Text) : Option (Text × Text) :=
  match t.span isNameChar with
  | ([], _) => none
  | (name, c :: rest) => if c = close then some (name, rest) else none
  | _ => none

/-- A reference to a group by its number. -/
def readNumber? (r : Reading) (t : Text) : Result Nat :=
  match Text.readDecimal? t with
  | some (g, t) => if g < r.bound then some (g, { r with numbered := true }, t) else none
  | none => none

/-- A reference to a group by its name, or by its number in place of a name. -/
def readReference? (r : Reading) (close : Char) (t : Text) : Result Nat :=
  match readName? close t with
  | none => none
  | some (name, t) =>
    match r.names.find? (·.1 == name) with
    | some (_, g) => some (g, r, t)
    | none =>
      match readNumber? r name with
      | some (g, r, []) => some (g, r, t)
      | _ => none

/-- The bounds of a counted repetition behind its brace; `none` if the brace stands for itself. -/
def readCounts? (r : Reading) (t : Text) : Option (Nat × Option Nat × Text) := do
  let number? (t : Text) : Option (Nat × Text) := (Text.readDecimal? t).filter (·.1 < UInt64.size)
  let t ← r.skip? t
  let (min, t) ←
    match t with
    | ',' :: _ => some (0, t)
    | _ => number? t
  match ← r.skip? t with
  | '}' :: t => some (min, some min, t)
  | ',' :: t =>
    let t ← r.skip? t
    let (max, t) :=
      match number? t with
      | some (max, t) => (some max, t)
      | none => (none, t)
    match ← r.skip? t with
    | '}' :: t => some (min, max, t)
    | _ => none
  | _ => none

/-! ## Escapes -/

/-- What an escape stands for. -/
inductive Escape where
  | char (c : Char)
  /-- a set, and how a bracket expression writes it -/
  | set (s : CharSet) (source : Text)
  | node (a : Node)

/-- The characters of an end of line: a carriage return with a line feed, or a single one. -/
def lineBreak : Node :=
  .atomic (.alt (.seq (.char false '\r') (.char false '\n'))
    (.set (.unions [.range '\n' '\r', .single '\u0085', .range '\u2028' '\u2029'])))

/-- The end of the text, or line feeds only from here on. -/
def endBeforeBreaks : Node :=
  .look false false (.seq (.loop (.char false '\n') 0 none true) (.anchor .textEnd))

/-- An escape that means the same inside and outside of brackets. -/
def escapeLetter? (c : Char) : Option Escape :=
  match Element.classOf? true c, Element.control? c with
  | some s, _ => some (.set s ['\\', c])
  | none, some d => some (.char d)
  | none, none =>
    match c with
    | 'h' => some (.set .hex "[0-9A-Fa-f]".toList)
    | 'H' => some (.set (.compl .hex) "[^0-9A-Fa-f]".toList)
    | 'e' => some (.char '\x1b')
    | _ => if c.isAlpha then none else some (.char c)

/-- Reads the name of a property: its characters, and how the name is written. -/
def readProperty? (t : Text) : Option ((CharSet × Text) × Text) :=
  (Flags.argument? {} 1 t).bind fun (braces, name, t) =>
    (CharSet.property? name).map fun s => ((s, if braces then '\x7b' :: name ++ ['\x7d'] else name), t)

/-- The escape with the letter `c` for the characters with a property, or for all others if it is a capital. -/
def propertyEscape (c : Char) (fold : Bool) (s : CharSet) (name : Text) : Escape :=
  .set ((s.foldIf fold).complIf (c == 'P')) ('\\' :: c :: name)

/-- Reads an escape behind its backslash. -/
def readEscape? (r : Reading) (inBrackets : Bool) : Text → Result Escape
  | [] => none
  | c :: t =>
    let anchor (a : Anchor) : Result Escape := some (.node (.anchor a), r, t)
    let hex (width : Nat) : Result Escape := (readHex? {} width (some 8) t).map fun (d, t) => (.char d, r, t)
    match c with
    | 'x' => hex 2
    | 'u' => hex 4
    | 'U' => hex 8
    | 'p' | 'P' => (readProperty? t).map fun ((s, name), t) => (propertyEscape c r.flags.fold s name, r, t)
    | _ =>
      if c.isDigit then
        if inBrackets then none
        else (readNumber? r (c :: t)).map fun (g, r, t) => (.node (.backref g r.flags.fold), r, t)
      else if inBrackets then
        if c = 'b' then some (.char '\x08', r, t) else (escapeLetter? c).map (·, r, t)
      else
        match c with
        | 'k' =>
          let reference (close : Char) (t : Text) : Result Escape :=
            (readReference? r close t).map fun (g, r, t) => (.node (.backref g r.flags.fold), r, t)
          match t with
          | '\'' :: t => reference '\'' t
          | '<' :: t => reference '>' t
          | _ => none
        | 'A' => anchor .textStart
        | 'z' => anchor .textEnd
        | 'Z' => some (.node endBeforeBreaks, r, t)
        | 'b' =>
          match t with
          | '{' :: t =>
            match t.span (· != '}') with
            | (name, _ :: t) => (Element.edge? name).map fun e => (.node (.anchor (.word true e)), r, t)
            | _ => none
          | _ => anchor (.word true .edge)
        | 'B' => anchor (.word true .notEdge)
        | '<' => anchor (.word true .start)
        | '>' => anchor (.word true .stop)
        | 'K' => some (.node .keep, r, t)
        | 'G' => anchor .textStart
        | 'O' => some (.node (.set .any), r, t)
        | 'N' => some (.node (.set .notNewline), r, t)
        | 'R' => some (.node lineBreak, r, t)
        | c => (escapeLetter? c).map (·, r, t)

/-- Collects a bracket expression with its escapes spelled out, up to the bracket that closes it; `nested`
    brackets are open inside. -/
def collectBracket? (r : Reading) : Nat → Nat → Text → Option (Text × Text)
  | 0, _, _ => none
  | fuel + 1, nested, t =>
    match r.skip? t with
    | none | some [] => none
    | some ('\\' :: t) =>
      match readEscape? r true t with
      | some (.char c, _, t) => (collectBracket? r fuel nested t).map fun (s, t) => (Element.quoted c ++ s, t)
      | some (.set _ s, _, t) => (collectBracket? r fuel nested t).map fun (s', t) => (s ++ s', t)
      | _ => none
    | some ('[' :: t) => (collectBracket? r fuel (nested + 1) t).map fun (s, t) => ('[' :: s, t)
    | some (']' :: t) =>
      match nested with
      | 0 => some ([']'], t)
      | n + 1 => (collectBracket? r fuel n t).map fun (s, t) => (']' :: s, t)
    | some (c :: t) => (collectBracket? r fuel nested t).map fun (s, t) => (c :: s, t)

/-- Reads a bracket expression behind its opening bracket. -/
def readBracket? (r : Reading) (t : Text) : Result Node :=
  let (first, t) :=
    match t with
    | '^' :: ']' :: t => ("^]".toList, t)
    | '^' :: t => (['^'], t)
    | ']' :: t => ([']'], t)
    | t => ([], t)
  match collectBracket? r (t.length + 1) 0 t with
  | some (s, t) =>
    match Bracket.read? { fold := r.flags.fold } (first ++ s) with
    | some (c, []) => some (.set c.set, r, t)
    | _ => none
  | none => none

/-! ## Expressions -/

/-- Groups nested more deeply are refused. -/
def depthLimit : Nat := 64

/-- The flags with one switch turned. -/
def turn? (fl : Flags) (c : Char) (on : Bool) : Option Flags :=
  match c with
  | 'i' => some { fl with fold := on }
  | 'm' => some { fl with multiLine := on }
  | 's' => some { fl with dotAll := on }
  | 'U' => some { fl with swapGreed := on }
  | 'x' => some { fl with ignoreSpace := on }
  | 'u' => if on then some fl else none
  | _ => none

/-- Reads flags up to the parenthesis or colon that ends them; `last` is the character in front. -/
def readFlags? (r : Reading) (on : Bool) (last : Option Char) : Nat → Text → Option (Flags × Char × Text)
  | 0, _ => none
  | fuel + 1, t =>
    match r.skip? t with
    | none | some [] => none
    | some (c :: t) =>
      if c = ')' ∨ c = ':' then
        if last = some '-' ∨ (c = ')' ∧ last = none) then none else some (r.flags, c, t)
      else if c = '-' then if on then readFlags? r false (some c) fuel t else none
      else (turn? r.flags c on).bind fun fl => readFlags? { r with flags := fl } on (some c) fuel t

/-- A condition on the text in front.  Alternatives of different lengths become conditions of their own. -/
def behind (negated : Bool) : Node → Node
  | .alt a b =>
    if (Node.alt a b).fixedSize then .look true negated (.alt a b)
    else if negated then .seq (behind true a) (behind true b)
    else .alt (behind false a) (behind false b)
  | a => .look true negated a

/-- A closing parenthesis behind what has been read. -/
def closed? {α : Type} (x : Result α) : Result α :=
  match x with
  | some (a, r, t) =>
    match r.skip? t with
    | some (')' :: t) => some (a, r, t)
    | _ => none
  | none => none

/-- An optional or repeated part: what stands behind it decides. -/
def readSuffix? (a : Node) (r : Reading) (t : Text) : Option (Node × Reading × Text) := do
  let t ← r.skip? t
  let counts : Option (Nat × Option Nat × Text) :=
    match t with
    | '?' :: t => some (0, some 1, t)
    | '*' :: t => some (0, none, t)
    | '+' :: t => some (1, none, t)
    | '{' :: t => readCounts? r t
    | _ => none
  match counts with
  | none => some (a, r, t)
  | some (min, max, t) =>
    if a = .empty ∨ max.any (· < min) then none
    else do
      let t ← r.skip? t
      let (greedy, t) :=
        match t with
        | '?' :: t => (false, t)
        | t => (true, t)
      let loop : Node := .loop a min max (greedy != r.flags.swapGreed)
      match t with
      | '+' :: t => some (.atomic loop, r, t)
      | t => some (loop, r, t)

mutual

/-- Reads alternatives. -/
def readChoice? : Nat → Nat → Reading → Text → Option (Node × Reading × Text)
  | 0, _, _, _ => none
  | fuel + 1, depth, r, t => do
    let (as, r, t) ← readBranches? fuel depth r t
    match as with
    | [a] => if r.numbered && !r.names.isEmpty then none else some (a, r, t)
    | as => some (.choice as, r, t)

/-- Reads sequences with bars between them. -/
def readBranches? : Nat → Nat → Reading → Text → Option (List Node × Reading × Text)
  | 0, _, _, _ => none
  | fuel + 1, depth, r, t => do
    let (as, r, t) ← readParts? fuel depth r t
    match ← r.skip? t with
    | '|' :: t =>
      let (bs, r, t) ← readBranches? fuel depth r t
      some (.concat as :: bs, r, t)
    | t => some ([.concat as], r, t)

/-- Reads the parts of a sequence. -/
def readParts? : Nat → Nat → Reading → Text → Option (List Node × Reading × Text)
  | 0, _, _, _ => none
  | fuel + 1, depth, r, t =>
    if t.isEmpty then some ([], r, t)
    else do
      let (a, r, t') ← readAtom? fuel depth r t
      let (a, r, t') ← readSuffix? a r t'
      if t'.length = t.length then some ([], r, t)
      else
        let (as, r, t) ← readParts? fuel depth r t'
        some (if a = .empty then as else a :: as, r, t)

/-- Reads a single part; an operator or a closing parenthesis is left. -/
def readAtom? : Nat → Nat → Reading → Text → Option (Node × Reading × Text)
  | 0, _, _, _ => none
  | fuel + 1, depth, r, t => do
    match ← r.skip? t with
    | [] => some (.empty, r, [])
    | c :: t =>
      match c with
      | '.' => some (.set r.flags.dot, r, t)
      | '^' => some (.anchor r.flags.caret, r, t)
      | '$' => some (.anchor r.flags.dollar, r, t)
      | '(' => if depth + 1 < depthLimit then readGroup? fuel (depth + 1) r t else none
      | '\\' =>
        match ← readEscape? r false t with
        | (.char c, r, t) => some (.char r.flags.fold c, r, t)
        | (.set s _, r, t) => some (.set s, r, t)
        | (.node a, r, t) => some (a, r, t)
      | '+' | '*' | '?' | '|' | ')' => some (.empty, r, c :: t)
      | '[' => readBracket? r t
      | c => some (.char r.flags.fold c, r, t)

/-- Reads a group behind its opening parenthesis. -/
def readGroup? : Nat → Nat → Reading → Text → Option (Node × Reading × Text)
  | 0, _, _, _ => none
  | fuel + 1, depth, r, t => do
    let inside (wrap : Node → Node) (r : Reading) (t : Text) : Option (Node × Reading × Text) :=
      (closed? (readChoice? fuel depth r t)).map fun (a, r, t) => (wrap a, r, t)
    let named (close : Char) (t : Text) : Option (Node × Reading × Text) :=
      match readName? close t with
      | some (name, t) =>
        let g := r.groups + 1
        inside (.group g) { r with groups := g, names := (name, g) :: r.names } t
      | none => none
    match ← r.skip? t with
    | '?' :: '=' :: t => inside (.look false false) r t
    | '?' :: '!' :: t => inside (.look false true) r t
    | '?' :: '<' :: '=' :: t => inside (behind false) r t
    | '?' :: '<' :: '!' :: t => inside (behind true) r t
    | '?' :: '<' :: t => named '>' t
    | '?' :: '\'' :: t => named '\'' t
    | '?' :: 'P' :: '<' :: t => named '>' t
    | '?' :: 'P' :: '=' :: t =>
      (readReference? r ')' t).map fun (g, r, t) => (.backref g r.flags.fold, r, t)
    | '?' :: '>' :: t => inside .atomic r t
    | '?' :: '(' :: t => readBranch? fuel depth r t
    | '?' :: t =>
      match ← readFlags? r true none (t.length + 1) t with
      | (fl, ')', t) => some (.empty, { r with flags := fl }, t)
      | (fl, _, t) =>
        (closed? (readChoice? fuel depth { r with flags := fl } t)).map fun (a, r', t) =>
          (a, { r' with flags := r.flags }, t)
    | t => inside (.group (r.groups + 1)) { r with groups := r.groups + 1 } t

/-- Reads a condition with the expressions that depend on it, behind the parenthesis of the condition. -/
def readBranch? : Nat → Nat → Reading → Text → Option (Node × Reading × Text)
  | 0, _, _, _ => none
  | fuel + 1, depth, r, t => do
    let captured (x : Option (Nat × Reading × Text)) : Option (Node × Reading × Text) :=
      x.map fun (g, r, t) => (.captured g, r, t)
    let (cond, r, t) ← closed? <|
      match t with
      | '<' :: t => captured (readReference? r '>' t)
      | '\'' :: t => captured (readReference? r '\'' t)
      | c :: _ => if c.isDigit then captured (readNumber? r t) else readChoice? fuel depth r t
      | [] => none
    let (bs, r, t) ← closed? (readBranches? fuel depth r t)
    match bs with
    | [.empty] => some (cond, r, t)
    | yes :: rest => some (.branch cond yes (.choice rest), r, t)
    | [] => none

end

/-! ## Patterns -/

/-- Can every condition on the text in front be decided: its text has a fixed length, or it is simple? -/
def decidable (refs : List Nat) : Node → Bool
  | .look true _ a => (a.fixedSize || a.simple refs) && decidable refs a
  | .seq a b | .alt a b => decidable refs a && decidable refs b
  | .group _ a | .loop a _ _ _ | .look false _ a | .atomic a => decidable refs a
  | .branch c y n => decidable refs c && decidable refs y && decidable refs n
  | .empty | .set _ | .anchor _ | .backref .. | .captured _ | .keep => true

/-- A condition on the text behind the whole match is matched as a part of it, which gives the same
    captures. -/
def openEnd : Node → Node
  | .seq a (.look false false b) => .seq a b
  | .seq a b => .seq a (openEnd b)
  | a => a

/-- Reads an expression. -/
def parse? (t : Text) : Option LinePattern := do
  let (a, r, rest) ← readChoice? (8 * (t.length + 1)) 0 { bound := Text.bytes t / 2 } t
  let a := openEnd a
  let refs := a.references
  if rest.isEmpty && refs.all (fun g => 0 < g && g ≤ r.groups) && decidable refs a && a.fits then
    some ⟨a, r.names⟩
  else none

/-- The first match in a line. -/
def search (p : LinePattern) (line : Text) : Except Unit (Option Match) :=
  if p.node.simple p.node.references then .ok (p.node.search line) else p.node.explore line

/-- The number of the last group called `name`. -/
def group? (p : LinePattern) (name : Text) : Option Nat := (p.names.find? (·.1 == name)).map (·.2)

/-- What the group called `name` has captured. -/
def capture? (p : LinePattern) (line : Text) (m : Match) (name : Text) : Option Text :=
  ((p.group? name).bind m.captures.get?).map (·.text line)

end LinePattern

end Readout.Regex
