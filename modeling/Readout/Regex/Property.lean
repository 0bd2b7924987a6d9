/-
  Sets of characters by the name of a property, as escapes write it.

  * `CharSet.property?` finds general categories and scripts by their short and long names, and the properties
    `Alphabetic`, `Cased`, `Case_Ignorable`, `Lowercase`, `Uppercase` and `White_Space`.
-/
import Readout.Regex.CharSet
import Readout.Unicode.Alphanumeric
import Readout.Unicode.Category
import Readout.Unicode.Lower
import Readout.Unicode.Script

namespace Readout.Regex.CharSet

/-! ## Properties -/

/-- The characters of a general category, or of a group of them. -/
def category (short : String) : CharSet := table (Unicode.categoryRanges short)

/-- The characters with the property `Alphabetic`. -/
def alphabetic : CharSet :=
  diff (unions [range 'A' 'Z', range 'a' 'z', table Unicode.alphanumericRanges])
    (union (category "Nd") (category "No"))

/-- The characters with the property `Lowercase`: small letters, and what looks like them. -/
def lowercase : CharSet :=
  union (category "Ll") <| table
    [(0xaa, 0xaa), (0xba, 0xba), (0x2b0, 0x2b8), (0x2c0, 0x2c1), (0x2e0, 0x2e4), (0x345, 0x345),
     (0x37a, 0x37a), (0x10fc, 0x10fc), (0x1d2c, 0x1d6a), (0x1d78, 0x1d78), (0x1d9b, 0x1dbf),
     (0x2071, 0x2071), (0x207f, 0x207f), (0x2090, 0x209c), (0x2170, 0x217f), (0x24d0, 0x24e9),
     (0x2c7c, 0x2c7d), (0xa69c, 0xa69d), (0xa770, 0xa770), (0xa7f2, 0xa7f4), (0xa7f8, 0xa7f9),
     (0xab5c, 0xab5f), (0xab69, 0xab69), (0x10780, 0x10780), (0x10783, 0x10785), (0x10787, 0x107b0),
     (0x107b2, 0x107ba), (0x1e030, 0x1e06d)]

/-- The characters with the property `Uppercase`: capital letters, and what looks like them. -/
def uppercase : CharSet :=
  union (category "Lu") <| table
    [(0x2160, 0x216f), (0x24b6, 0x24cf), (0x1f130, 0x1f149), (0x1f150, 0x1f169), (0x1f170, 0x1f189)]

/-! ## Names -/

/-- A name without what does not tell it from others: the case of its letters, blanks, dashes, underscores, and `is`
    in front. -/
def plainName (name : Text) : String :=
  let plain (t : Text) : Text :=
    (t.filter fun c => c.toNat < 128 && c != ' ' && c != '_' && c != '-').map Char.toLower
  match name with
  | 'i' :: 's' :: t | 'i' :: 'S' :: t | 'I' :: 's' :: t | 'I' :: 'S' :: t =>
    -- a property of its own, not the category `c`
    if plain t = ['c'] then "isc" else Text.str (plain t)
  | t => Text.str (plain t)

/-- The short name in a table of names. -/
def shortName? (names : List (String × String)) (name : String) : Option String :=
  (names.find? fun e => e.1.toLower = name || e.2 = name).map (·.1)

/-- The general category with the name, or one of the sets that go by a name like it. -/
def category? (name : String) : Option CharSet :=
  match name with
  | "any" => some any
  | "ascii" => some ascii
  | "assigned" => some (compl (category "Cn"))
  | _ => (shortName? Unicode.categoryNames name).map category

/-- The script with the name. -/
def script? (name : String) : Option CharSet :=
  (shortName? Unicode.scriptNames name).map fun short => table (Unicode.scriptRanges short)

/-- The property with the name that characters have or not. -/
def binary? (name : String) : Option CharSet :=
  match name with
  | "alphabetic" | "alpha" => some alphabetic
  | "cased" => some (table Unicode.casedRanges)
  | "caseignorable" | "ci" => some (table Unicode.caseIgnorableRanges)
  | "lowercase" | "lower" => some lowercase
  | "uppercase" | "upper" => some uppercase
  | "whitespace" | "wspace" | "space" => some space
  | _ => none

/-- The property with the name and the value behind a separator. -/
def valued? (name value : String) : Option CharSet :=
  match name with
  | "generalcategory" | "gc" => category? value
  | "script" | "sc" => script? value
  | _ => none

/-- The property that a text names.  A separator with an exclamation mark is none the less one. -/
def property? (t : Text) : Option CharSet :=
  match Text.splitOn? "!=".toList t <|> Text.splitOn? [':'] t <|> Text.splitOn? ['='] t with
  | some (name, value) => valued? (plainName name) (plainName value)
  | none =>
    let name := plainName t
    binary? name <|> category? name <|> script? name

example : plainName "Is_Upper-case Letter".toList = "uppercaseletter" := by decide

end Readout.Regex.CharSet
