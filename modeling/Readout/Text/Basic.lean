/-
  Text as a sequence of characters: trimming, words, searching.

  * `trim`, `trimStart`, `trimEnd` remove white space at the ends;
  * `words` are the maximal runs without white space, `splitWord` takes off the first of them;
  * `pieces` are the parts between separators;
  * `hasInfix` is containment, `splitOn?` the first place where one text occurs in another.
-/
import Readout.Unicode.Space

namespace Readout

/-- A text: a sequence of Unicode scalar values. -/
abbrev Text := List Char

namespace Text

/-- The text as a string. -/
def str (t : Text) : String := String.ofList t

/-- The number of bytes of the UTF-8 form. -/
def bytes (t : Text) : Nat := t.foldr (fun c n => c.utf8Size + n) 0

/-! ## White space -/

/-- Does the text start with white space? -/
def startsBlank (t : Text) : Bool := (t.head?.map Unicode.isSpace).getD false

/-- The text without white space at its start. -/
def trimStart (t : Text) : Text := t.dropWhile Unicode.isSpace

/-- The text without white space at its end. -/
def trimEnd (t : Text) : Text := t.foldr (fun c r => if r.isEmpty && Unicode.isSpace c then [] else c :: r) []

/-- The text without white space at both ends. -/
def trim (t : Text) : Text := t.trimStart.trimEnd

/-- The part in front of the first white space, and the trimmed rest from there on. -/
def splitWord (t : Text) : Text × Text :=
  let p := t.span fun c => !Unicode.isSpace c
  (p.1, trim p.2)

/-- The texts with a character more in front of the first one. -/
def consHead (c : Char) : List Text → List Text
  | [] => [[c]]
  | p :: ps => (c :: p) :: ps

/-- The maximal runs of characters other than white space. -/
def words : Text → List Text
  | [] => []
  | c :: t =>
    if Unicode.isSpace c then words t
    else if t.isEmpty || startsBlank t then [c] :: words t
    else consHead c (words t)

/-- The pieces between the separators, of which there is one more than separators. -/
def pieces (sep : Char) : Text → List Text
  | [] => [[]]
  | c :: t => if c = sep then [] :: pieces sep t else consHead c (pieces sep t)

/-! ## Searching -/

/-- Does `t` start with `p`? -/
def hasPrefix (p t : Text) : Bool := p.isPrefixOf t

/-- Does `p` occur in `t`? -/
def hasInfix (p : Text) : Text → Bool
  | [] => p.isEmpty
  | c :: t => hasPrefix p (c :: t) || hasInfix p t

/-- What stands in front of and behind the first occurrence of `p`, if there is one. -/
def splitOn? (p : Text) : Text → Option (Text × Text)
  | [] => if p.isEmpty then some ([], []) else none
  | c :: t =>
    match p.isPrefixOf? (c :: t) with
    | some rest => some ([], rest)
    | none => (splitOn? p t).map fun (a, b) => (c :: a, b)

/-- The text up to the first `': `, as it is quoted in front of an explanation. -/
def quotable (t : Text) : Text := ((splitOn? "': ".toList t).map (·.1)).getD t

/-- The text without the double quotes at its ends. -/
def stripQuotes (t : Text) : Text :=
  let u := t.dropWhile (· == '"')
  (u.reverse.dropWhile (· == '"')).reverse

/-- The texts in a row with `sep` between them. -/
def joinWith (sep : Text) (ts : List Text) : Text := sep.intercalate ts

example : trim " \t a b\u00a0 ".toList = "a b".toList := by decide
example : words " show  ip\tbgp ".toList = ["show".toList, "ip".toList, "bgp".toList] := by decide
example : pieces ',' "a,,b".toList = ["a".toList, [], "b".toList] := by decide
example : splitOn? "]]".toList "a]b]]c]]".toList = some ("a]b".toList, "c]]".toList) := by decide
example : hasInfix "ip".toList "show ip".toList ∧ ¬ hasInfix "ipx".toList "show ip".toList := by decide

end Text

end Readout
