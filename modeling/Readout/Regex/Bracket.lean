/-
  Escapes and bracket expressions, as both dialects read them.

  * `Flags` are the switches of an expression;
  * `Element.read?` reads what follows a backslash: a character, a set, a property or an anchor;
  * `Bracket.read?` reads a bracket expression behind its opening bracket: ranges, nested brackets, ASCII
    classes, and the set operations `&&`, `--` and `~~`, which bind weaker than juxtaposition and to the left.

  Readers return what they have read and the text behind it, or `none` for text that they refuse.
-/
import Readout.Regex.Node
import Readout.Regex.Property
import Readout.Text.Digits

namespace Readout.Regex

/-! ## Flags -/

/-- The switches that `(?…)` turns on and off. -/
structure Flags where
  /-- `i`: letters stand for both cases -/
  fold : Bool := false
  /-- `m`: `^` and `$` also hold at line breaks -/
  multiLine : Bool := false
  /-- `s`: `.` also stands for a line feed -/
  dotAll : Bool := false
  /-- `U`: repetitions are lazy, and greedy with `?` -/
  swapGreed : Bool := false
  /-- `x`: white space and comments are skipped -/
  ignoreSpace : Bool := false
  /-- `R`: a carriage return breaks lines, too -/
  returnBreaks : Bool := false
  /-- `u`: classes go beyond ASCII -/
  unicode : Bool := true
  deriving DecidableEq, Repr

/-- Skips a comment up to its line end, then white space and comments. -/
def skipSpaceFrom : Bool → Text → Text
  | _, [] => []
  | true, c :: t => skipSpaceFrom (c != '\n') t
  | false, c :: t =>
    if c = '#' then skipSpaceFrom true t
    else if Unicode.isSpace c then skipSpaceFrom false t
    else c :: t

/-- Skips white space and comments if the flags say so. -/
def Flags.skipSpace (fl : Flags) (t : Text) : Text := if fl.ignoreSpace then skipSpaceFrom false t else t

/-- What `.` stands for. -/
def Flags.dot (fl : Flags) : CharSet :=
  if fl.dotAll then .any
  else if fl.returnBreaks then .compl (.unions [.single '\n', .single '\r'])
  else .notNewline

/-- What `^` stands for. -/
def Flags.caret (fl : Flags) : Anchor :=
  if !fl.multiLine then .textStart else if fl.returnBreaks then .breakStart else .lineStart

/-- What `$` stands for. -/
def Flags.dollar (fl : Flags) : Anchor :=
  if !fl.multiLine then .textEnd else if fl.returnBreaks then .breakEnd else .lineEnd

/-- The set with the other case of its letters, if they stand for both cases; within ASCII without Unicode. -/
def Flags.close (fl : Flags) (s : CharSet) : CharSet :=
  if !fl.fold then s
  else if fl.unicode then .folded s
  else .union s (.inter (.folded (.inter s .ascii)) .ascii)

/-- The set, or all other characters; the latter go beyond ASCII. -/
def Flags.negate? (fl : Flags) (negated : Bool) (s : CharSet) : Option CharSet :=
  if negated && !fl.unicode then none else some (s.complIf negated)

/-- The one character as an expression. -/
def Flags.char (fl : Flags) (c : Char) : Node := .set (fl.close (.single c))

/-! ## Arguments of escapes -/

/-- The character with a given number. -/
def charOf? (n : Nat) : Option Char := if n.isValidChar then some (Char.ofNat n) else none

/-- Reads `n` characters, without what is skipped in front of them. -/
def Flags.take? (fl : Flags) : Nat → Text → Option (Text × Text)
  | 0, t => some ([], t)
  | n + 1, t =>
    match fl.skipSpace t with
    | [] => none
    | c :: t => (fl.take? n t).map fun (s, t) => (c :: s, t)

/-- Reads up to a closing brace, without what is skipped; is a comment open? -/
def Flags.braced? (fl : Flags) : Bool → Text → Option (Text × Text)
  | _, [] => none
  | true, c :: t => fl.braced? (c != '\n') t
  | false, c :: t =>
    if c = '\x7d' then some ([], t)
    else if fl.ignoreSpace && c == '#' then fl.braced? true t
    else if fl.ignoreSpace && Unicode.isSpace c then fl.braced? false t
    else (fl.braced? false t).map fun (s, t) => (c :: s, t)

/-- Reads what belongs to an escape: `width` characters, or any number of them in braces. -/
def Flags.argument? (fl : Flags) (width : Nat) (t : Text) : Option (Bool × Text × Text) :=
  match fl.skipSpace t with
  | '\x7b' :: t => (fl.braced? false t).map (true, ·)
  | t => (fl.take? width t).map (false, ·)

/-- A character by its number: `width` hexadecimal digits, or in braces any number of them up to `most`.  Without
    Unicode, two digits are a byte, which is no character beyond ASCII. -/
def readHex? (fl : Flags) (width : Nat) (most : Option Nat) (t : Text) : Option (Char × Text) :=
  (fl.argument? width t).bind fun (braces, ds, t) =>
    let allowed (c : Char) : Bool :=
      if braces then most.all (ds.length ≤ ·) else fl.unicode || width != 2 || c.toNat < 128
    (((Text.hexNumber? ds).bind charOf?).filter allowed).map (·, t)

/-! ## Escapes -/

/-- A single element of an expression. -/
inductive Element where
  | char (c : Char)
  | set (s : CharSet)
  /-- the characters with a property, or without it if `negated` -/
  | property (s : CharSet) (negated : Bool)
  | anchor (a : Anchor)
  deriving DecidableEq, Repr

namespace Element

/-- The characters that are operators. -/
def isMeta (c : Char) : Bool := "\\.+*?()|[]\x7b\x7d^$#&-~".toList.contains c

/-- The character as an expression that stands for it, in brackets and outside of them. -/
def quoted (c : Char) : Text := if isMeta c then ['\\', c] else [c]

/-- Does a backslash make the character stand for itself? -/
def isEscapable (c : Char) : Bool :=
  isMeta c || (c.toNat < 128 && !c.isAlphanum && c != '<' && c != '>')

/-- The class of an escape letter. -/
def classOf? (unicode : Bool) (c : Char) : Option CharSet :=
  let pick (full ascii : CharSet) : CharSet := if unicode then full else ascii
  let other (s : CharSet) : Option CharSet := if unicode then some (.compl s) else none
  match c with
  | 'd' => some (pick .digit (.range '0' '9'))
  | 's' => some (pick .space (.inter .space .ascii))
  | 'w' => some (pick .word (.inter .word .ascii))
  | 'D' => other .digit
  | 'S' => other .space
  | 'W' => other .word
  | _ => none

/-- The control character of an escape letter. -/
def control? : Char → Option Char
  | 'a' => some '\x07'
  | 'f' => some '\x0c'
  | 't' => some '\t'
  | 'n' => some '\n'
  | 'r' => some '\r'
  | 'v' => some '\x0b'
  | _ => none

/-- The condition named in braces behind `\b`. -/
def edge? (name : Text) : Option Edge :=
  if name = "start".toList then some .start
  else if name = "end".toList then some .stop
  else if name = "start-half".toList then some .startHalf
  else if name = "end-half".toList then some .stopHalf
  else none

/-- Reads the name of a property, a single letter or a name in braces.  Without Unicode there are none. -/
def readProperty? (fl : Flags) (t : Text) : Option (CharSet × Text) :=
  if fl.unicode then
    (fl.argument? 1 t).bind fun (_, name, t) => (CharSet.property? name).map (·, t)
  else none

/-- Reads what follows `\b`: a name in braces, if braces with a letter or a dash follow. -/
def readEdge? (t : Text) : Option (Edge × Text) :=
  match t with
  | '\x7b' :: c :: rest =>
    if c.isAlpha || c = '-' then
      match (c :: rest).span (fun c => c.isAlpha || c == '-') with
      | (name, '\x7d' :: rest) => (edge? name).map (·, rest)
      | _ => none
    else some (.edge, t)
  | _ => some (.edge, t)

/-- Reads what follows a backslash. -/
def read? (fl : Flags) : Text → Option (Element × Text)
  | [] => none
  | c :: t =>
    let hex (width : Nat) : Option (Element × Text) := (readHex? fl width none t).map fun (d, t) => (.char d, t)
    let property (negated : Bool) : Option (Element × Text) :=
      (readProperty? fl t).map fun (s, t) => (.property s negated, t)
    let word (e : Edge) : Element := .anchor (.word fl.unicode e)
    match classOf? fl.unicode c, control? c with
    | some s, _ => some (.set s, t)
    | none, some d => some (.char d, t)
    | none, none =>
      match c with
      | 'x' => hex 2
      | 'u' => hex 4
      | 'U' => hex 8
      | 'p' => property false
      | 'P' => property true
      | 'A' => some (.anchor .textStart, t)
      | 'z' => some (.anchor .textEnd, t)
      | 'b' => (readEdge? t).map fun (e, t) => (word e, t)
      | 'B' => some (word .notEdge, t)
      | '<' => some (word .start, t)
      | '>' => some (word .stop, t)
      | _ => if isEscapable c then some (.char c, t) else none

/-- The element as an expression. -/
def node (fl : Flags) : Element → Node
  | char c => fl.char c
  | set s => .set s
  | property s negated => .set ((fl.close s).complIf negated)
  | anchor a => .anchor a

/-- The characters that an element of a bracket expression stands for by itself.  Without Unicode there are none
    beyond ASCII. -/
def alone? (fl : Flags) : Element → Option CharSet
  | char c => if fl.unicode || c.toNat < 128 then some (.single c) else none
  | set s => some s
  | property s negated => some ((fl.close s).complIf negated)
  | anchor _ => none

/-- The characters between two elements of a bracket expression. -/
def between? (fl : Flags) : Element → Element → Option CharSet
  | char lo, char hi => if lo ≤ hi && (fl.unicode || hi.toNat < 128) then some (.range lo hi) else none
  | _, _ => none

end Element

/-! ## Bracket expressions -/

namespace Bracket

/-- What a bracket expression or a part of it stands for, and how deeply it is nested. -/
structure Class where
  set : CharSet
  depth : Nat := 0
  deriving DecidableEq, Repr

/-- Items side by side. -/
structure Items where
  set : CharSet := .empty
  depth : Nat := 0
  count : Nat := 0
  deriving DecidableEq, Repr

/-- An item more. -/
def Items.add (u : Items) (c : Class) : Items :=
  ⟨if u.count = 0 then c.set else .union u.set c.set, Nat.max u.depth c.depth, u.count + 1⟩

/-- The items as one; several are nested a level deeper. -/
def Items.whole (u : Items) : Class := ⟨u.set, if u.count ≤ 1 then u.depth else u.depth + 1⟩

/-- An operation between sets. -/
inductive Op where
  | inter
  | diff
  | either
  deriving DecidableEq, Repr

/-- The result of an operation. -/
def Op.apply (a b : Class) (o : Op) : Class where
  set :=
    match o with
    | inter => .inter a.set b.set
    | diff => .diff a.set b.set
    | either => .either a.set b.set
  depth := Nat.max a.depth b.depth + 1

/-- What is left to do when the present part of a bracket expression ends. -/
inductive Level where
  /-- an open bracket; `outer` is what has been read in front of it -/
  | bracket (outer : Items) (negated : Bool)
  /-- an operation with its left side -/
  | op (o : Op) (left : Class)

/-- Carries out the operation that waits for its right side, if one does. -/
def finishOp (c : Class) : List Level → Class × List Level
  | .op o left :: ls => (o.apply left c, ls)
  | ls => (c, ls)

/-- Literal dashes at the start of a bracket expression. -/
def leadingDashes (fl : Flags) (u : Items) : Nat → Text → Items × Text
  | n + 1, '-' :: t => leadingDashes fl (u.add ⟨.single '-', 0⟩) n (fl.skipSpace t)
  | _, t => (u, t)

/-- Reads the start of a bracket expression: whether it is negated, and its literal dashes or its literal
    closing bracket. -/
def readOpen (fl : Flags) (t : Text) : Bool × Items × Text :=
  let t := fl.skipSpace t
  let (negated, t) :=
    match t with
    | '^' :: t => (true, fl.skipSpace t)
    | t => (false, t)
  let (u, t) := leadingDashes fl {} t.length t
  match u.count, t with
  | 0, ']' :: t => (negated, Items.add {} ⟨.single ']', 0⟩, fl.skipSpace t)
  | _, _ => (negated, u, t)

/-- Reads a named ASCII class behind `[:`, and whether it is negated. -/
def readNamed? (t : Text) : Option (CharSet × Bool × Text) :=
  let (negated, t) :=
    match t with
    | '^' :: t => (true, t)
    | t => (false, t)
  match t.span (· != ':') with
  | (name, ':' :: ']' :: rest) => (CharSet.ascii? (Text.str name)).map (·, negated, rest)
  | _ => none

/-- Reads a single character or an escape. -/
def readItem? (fl : Flags) : Text → Option (Element × Text)
  | [] => none
  | '\\' :: t => Element.read? fl t
  | c :: t => some (.char c, t)

/-- Reads a single element or a range. -/
def readRange? (fl : Flags) (t : Text) : Option (CharSet × Text) := do
  let (e, t) ← readItem? fl t
  let t := fl.skipSpace t
  match t with
  | [] => none
  | '-' :: r =>
    match fl.skipSpace r with
    | [] => none
    | ']' :: _ | '-' :: _ => (e.alone? fl).map (·, t)
    | r => do
      let (e', t) ← readItem? fl r
      (e.between? fl e').map (·, t)
  | _ => (e.alone? fl).map (·, t)

/-- Reads on inside a bracket expression.  Both cases of the letters are taken in item by item, which all operations
    keep. -/
def readFrom? (fl : Flags) : Nat → List Level → Items → Text → Option (Class × Text)
  | 0, _, _, _ => none
  | fuel + 1, ls, u, t =>
    let operation (o : Op) (rest : Text) : Option (Class × Text) :=
      let (left, ls) := finishOp u.whole ls
      readFrom? fl fuel (.op o left :: ls) {} rest
    match fl.skipSpace t with
    | [] => none
    | '[' :: t =>
      let named :=
        match t with
        | ':' :: r => readNamed? r
        | _ => none
      match named with
      | some (s, negated, t) =>
        (fl.negate? negated (fl.close s)).bind fun s => readFrom? fl fuel ls (u.add ⟨s, 0⟩) t
      | none =>
        let (negated, first, t) := readOpen fl t
        readFrom? fl fuel (.bracket u negated :: ls) first t
    | ']' :: t =>
      match finishOp u.whole ls with
      | (c, .bracket outer negated :: ls) =>
        (fl.negate? negated c.set).bind fun s =>
          match ls with
          | [] => some (⟨s, c.depth + 1⟩, t)
          | _ :: _ => readFrom? fl fuel ls (outer.add ⟨s, c.depth + 1⟩) t
      | _ => none
    | '&' :: '&' :: t => operation .inter t
    | '-' :: '-' :: t => operation .diff t
    | '~' :: '~' :: t => operation .either t
    | t =>
      match readRange? fl t with
      | some (s, t) => readFrom? fl fuel ls (u.add ⟨fl.close s, 0⟩) t
      | none => none

/-- Reads a bracket expression behind its opening bracket. -/
def read? (fl : Flags) (t : Text) : Option (Class × Text) :=
  let (negated, first, t) := readOpen fl t
  readFrom? fl (t.length + 1) [.bracket {} negated] first t

end Bracket

end Readout.Regex
