/-
  Reading JSON.

  * `Json.parse?` reads a text that is one value with white space around it.

  Readers return what they have read and the text behind it, or `none`.  The recursion into arrays and objects
  spends `fuel`, of which one for each character suffices.
-/
import Readout.Json.Basic

namespace Readout.Json

/-- Is `c` white space between tokens? -/
def isBlank (c : Char) : Bool := c == ' ' || c == '\t' || c == '\n' || c == '\r'

/-- Skips white space. -/
def skipBlank (t : Text) : Text := t.dropWhile isBlank

/-! ## Strings -/

/-- Reads four hexadecimal digits. -/
def readUnit? : Text → Option (Nat × Text)
  | a :: b :: c :: d :: t => do
    let a ← Text.hexValue? a
    let b ← Text.hexValue? b
    let c ← Text.hexValue? c
    let d ← Text.hexValue? d
    some (4096 * a + 256 * b + 16 * c + d, t)
  | _ => none

/-- The character of a surrogate pair, whose first unit is `n`, if its second one follows. -/
def readPair? (n : Nat) : Text → Option (Char × Text)
  | '\\' :: 'u' :: t => do
    let (m, t) ← readUnit? t
    if n < 0xdc00 && 0xdc00 ≤ m && m ≤ 0xdfff then
      some (Char.ofNat (0x10000 + 1024 * (n - 0xd800) + (m - 0xdc00)), t)
    else none
  | _ => none

/-- Reads an escaped character by its number, which may need a pair of units; half of a pair is no
    character. -/
def readCodePoint? (t : Text) : Option (Option Char × Text) := do
  let (n, t) ← readUnit? t
  if n < 0xd800 || 0xdfff < n then some (some (Char.ofNat n), t)
  else
    match readPair? n t with
    | some (c, t) => some (some c, t)
    | none => some (none, t)

/-- Reads what follows a backslash. -/
def readEscape? : Text → Option (Option Char × Text)
  | 'u' :: t => readCodePoint? t
  | c :: t =>
    match c with
    | '"' | '\\' | '/' => some (some c, t)
    | 'b' => some (some '\x08', t)
    | 'f' => some (some '\x0c', t)
    | 'n' => some (some '\n', t)
    | 'r' => some (some '\r', t)
    | 't' => some (some '\t', t)
    | _ => none
  | [] => none

/-- Reads a string behind its opening quote: its text, if it is one. -/
def readString? : Nat → Text → Option (Option Text × Text)
  | 0, _ => none
  | fuel + 1, t =>
    match t with
    | [] => none
    | '"' :: t => some (some [], t)
    | '\\' :: t => do
      let (c, t) ← readEscape? t
      let (s, t) ← readString? fuel t
      some (c.bind fun c => s.map (c :: ·), t)
    | c :: t =>
      if c.toNat < 32 then none
      else do
        let (s, t) ← readString? fuel t
        some (s.map (c :: ·), t)

/-! ## Numbers -/

/-- Reads digits, of which there has to be one. -/
def readDigits? (t : Text) : Option (Text × Text) :=
  match t.span Char.isDigit with
  | ([], _) => none
  | p => some p

/-- Reads an optional part that `start` announces and that has at least one digit. -/
def readTail? (start : Text → Option (Text × Text)) (t : Text) : Option (Text × Text) :=
  match start t with
  | none => some ([], t)
  | some (s, t) => (readDigits? t).map fun (ds, t) => (s ++ ds, t)

/-- The point in front of a fraction. -/
def readPoint? : Text → Option (Text × Text)
  | '.' :: t => some (['.'], t)
  | _ => none

/-- The letter and the sign in front of an exponent. -/
def readExponent? : Text → Option (Text × Text)
  | e :: t =>
    if e = 'e' ∨ e = 'E' then
      match t with
      | '+' :: t => some ([e, '+'], t)
      | '-' :: t => some ([e, '-'], t)
      | t => some ([e], t)
    else none
  | [] => none

/-- Reads a number: no digit follows a zero at its start. -/
def readNumber? (t : Text) : Option (Text × Text) := do
  let (sign, t) : Text × Text :=
    match t with
    | '-' :: t => (['-'], t)
    | t => ([], t)
  let (whole, t) ← readDigits? t
  if whole.length > 1 && whole.head? == some '0' then none
  else do
    let (fraction, t) ← readTail? readPoint? t
    let (exponent, t) ← readTail? readExponent? t
    some (sign ++ whole ++ fraction ++ exponent, t)

/-! ## Values -/

/-- The value that has been made of the text in front of `rest`, or that text itself. -/
def orRaw (t : Text) (v : Option Json) (rest : Text) : Json × Text :=
  (v.getD (raw (t.take (t.length - rest.length))), rest)

mutual

/-- Reads a value. -/
def readValue? : Nat → Text → Option (Json × Text)
  | 0, _ => none
  | fuel + 1, t =>
    match skipBlank t with
    | 'n' :: 'u' :: 'l' :: 'l' :: t => some (null, t)
    | 't' :: 'r' :: 'u' :: 'e' :: t => some (bool true, t)
    | 'f' :: 'a' :: 'l' :: 's' :: 'e' :: t => some (bool false, t)
    | '"' :: t => (readString? (t.length + 1) t).map fun (s, rest) => orRaw ('"' :: t) (s.map string) rest
    | '[' :: t =>
      match skipBlank t with
      | ']' :: t => some (array [], t)
      | t => (readItems? fuel t).map fun (js, t) => (array js, t)
    | '\x7b' :: t =>
      match skipBlank t with
      | '\x7d' :: t => some (object [], t)
      | _ => (readMembers? fuel t).map fun (ms, rest) => orRaw ('\x7b' :: t) (ms.map object) rest
    | t => (readNumber? t).map fun (n, t) => (number n, t)

/-- Reads the items of an array up to its bracket. -/
def readItems? : Nat → Text → Option (List Json × Text)
  | 0, _ => none
  | fuel + 1, t => do
    let (j, t) ← readValue? fuel t
    match skipBlank t with
    | ',' :: t =>
      let (js, t) ← readItems? fuel t
      some (j :: js, t)
    | ']' :: t => some ([j], t)
    | _ => none

/-- Reads the members of an object up to its brace; there are none if a name is no text. -/
def readMembers? : Nat → Text → Option (Option (List (Text × Json)) × Text)
  | 0, _ => none
  | fuel + 1, t =>
    match skipBlank t with
    | '"' :: t => do
      let (k, t) ← readString? (t.length + 1) t
      match skipBlank t with
      | ':' :: t =>
        let (j, t) ← readValue? fuel t
        match skipBlank t with
        | ',' :: t =>
          let (ms, t) ← readMembers? fuel t
          some (k.bind fun k => ms.map ((k, j) :: ·), t)
        | '\x7d' :: t => some (k.map fun k => [(k, j)], t)
        | _ => none
      | _ => none
    | _ => none

end

/-- Reads a text that is one value. -/
def parse? (t : Text) : Option Json := do
  let (j, t) ← readValue? (2 * t.length + 2) t
  if (skipBlank t).isEmpty then some j else none

end Readout.Json
