/-
  JSON values and their written form over several lines.

  * `Json` is a value, of which a number is kept as written and an object keeps the order of its members;
  * `Json.pretty` writes a value, with two blanks for each level.
-/
import Readout.Text.Digits

namespace Readout

/-- A JSON value. -/
inductive Json where
  | null
  | bool (b : Bool)
  /-- a number, as written -/
  | number (t : Text)
  | string (t : Text)
  | array (items : List Json)
  | object (members : List (Text × Json))
  /-- a string, or an object with a name, that is no text since it holds half of a surrogate pair; kept as
      written -/
  | raw (source : Text)

namespace Json

/-! ## Strings -/

/-- The character inside a written string: quotes, backslashes and control characters are escaped. -/
def escape (c : Char) : Text :=
  match c with
  | '"' => "\\\"".toList
  | '\\' => "\\\\".toList
  | '\x08' => "\\b".toList
  | '\t' => "\\t".toList
  | '\n' => "\\n".toList
  | '\x0c' => "\\f".toList
  | '\r' => "\\r".toList
  | c =>
    if c.toNat < 32 then
      "\\u00".toList ++ [Text.hexDigit (c.toNat / 16), Text.hexDigit (c.toNat % 16)]
    else [c]

/-- A written string. -/
def quote (t : Text) : Text := '"' :: t.flatMap escape ++ ['"']

/-! ## Values -/

/-- A new line at a level. -/
def newline (level : Nat) : Text := '\n' :: List.replicate (2 * level) ' '

mutual

/-- A written value, whose first line stands at a level. -/
def prettyAt (level : Nat) : Json → Text
  | null => "null".toList
  | bool b => if b then "true".toList else "false".toList
  | number t | raw t => t
  | string t => quote t
  | array [] => "[]".toList
  | array (j :: js) =>
    '[' :: newline (level + 1) ++ prettyAt (level + 1) j ++ prettyItems (level + 1) js ++ newline level ++
      [']']
  | object [] => "\x7b\x7d".toList
  | object ((k, j) :: ms) =>
    '\x7b' :: newline (level + 1) ++ quote k ++ ": ".toList ++ prettyAt (level + 1) j ++
      prettyMembers (level + 1) ms ++ newline level ++ ['\x7d']

/-- Further items of an array. -/
def prettyItems (level : Nat) : List Json → Text
  | [] => []
  | j :: js => ',' :: newline level ++ prettyAt level j ++ prettyItems level js

/-- Further members of an object. -/
def prettyMembers (level : Nat) : List (Text × Json) → Text
  | [] => []
  | (k, j) :: ms =>
    ',' :: newline level ++ quote k ++ ": ".toList ++ prettyAt level j ++ prettyMembers level ms

end

/-- A written value over several lines. -/
def pretty (j : Json) : Text := prettyAt 0 j

end Json

end Readout
