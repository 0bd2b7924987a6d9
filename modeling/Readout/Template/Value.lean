/-
  Declarations of values.  A line `Value options name (pattern)` declares a column of the records: its name,
  the pattern of its text in parentheses, and the options, separated by commas, if there are any.

  * `Value` is a declaration, `Value.parse` reads one, `Value.Fault` are the reasons to refuse one;
  * `Value.group` is the pattern as a named group, ready to stand in a rule;
  * `Value.print` writes a declaration.
-/
import Readout.Regex.LinePattern
import Readout.Template.Name

namespace Readout.Template

/-! ## Options -/

/-- How a value behaves from one record to the next. -/
inductive ValueOption where
  /-- a record without the value is dropped -/
  | required
  /-- the value stays for the following records -/
  | filldown
  /-- the value is copied into earlier records that lack it -/
  | fillup
  /-- the value is a part of what identifies a record -/
  | key
  /-- all texts are collected -/
  | list
  deriving DecidableEq, Repr

namespace ValueOption

/-- All options. -/
def all : List ValueOption := [required, filldown, fillup, key, list]

/-- The keyword of an option. -/
def keyword : ValueOption → Text
  | required => "Required".toList
  | filldown => "Filldown".toList
  | fillup => "Fillup".toList
  | key => "Key".toList
  | list => "List".toList

/-- The option with a keyword. -/
def ofKeyword? (t : Text) : Option ValueOption := all.find? (·.keyword == t)

end ValueOption

/-! ## Declarations -/

/-- A declared value. -/
structure Value where
  name : Text
  /-- as written, with its parentheses -/
  pattern : Text
  /-- in written order -/
  options : List ValueOption := []
  deriving DecidableEq, Repr

namespace Value

/-- Does the value have the option? -/
def has (v : Value) (o : ValueOption) : Bool := v.options.contains o

/-- The pattern as a group with the name of the value. -/
def group (v : Value) : Text := "(?P<".toList ++ v.name ++ ['>'] ++ v.pattern.drop 1

/-- Why a declaration is refused. -/
inductive Fault where
  | noKeyword
  | tooFewTokens
  | badName (name : Text)
  | notEnclosed (pattern : Text)
  | badPattern (pattern : Text)
  | unknownOption (option : Text)
  | duplicateOption (option : ValueOption)
  | duplicateName (name : Text)
  deriving DecidableEq, Repr

/-- The wording of a fault.  A refused pattern is quoted up to the first `': `, behind which an explanation
    would follow. -/
def Fault.message : Fault → String
  | noKeyword => "line must start with 'Value'"
  | tooFewTokens => "expect at least 3 tokens on line"
  | badName name => s!"invalid value name '{Text.str name}'"
  | notEnclosed pattern => s!"value '{Text.str pattern}' must be contained within a '()' pair"
  | badPattern pattern => s!"invalid regular expression '{Text.str (Text.quotable pattern)}'"
  | unknownOption option => s!"unknown option \"{Text.str option}\""
  | duplicateOption option => s!"duplicate option \"{Text.str option.keyword}\""
  | duplicateName name => s!"duplicate declarations for Value '{Text.str name}'"

/-- Reads options that are separated by commas; empty pieces do not count. -/
def parseOptions (t : Text) : Except Fault (List ValueOption) :=
  ((Text.pieces ',' t).filter (!·.isEmpty)).foldlM (fun os piece =>
    match ValueOption.ofKeyword? piece with
    | none => .error (.unknownOption piece)
    | some o => if os.contains o then .error (.duplicateOption o) else .ok (os ++ [o])) []

/-- The parts of a declaration behind its keyword: options, name and pattern.  Options are left out if the
    second word starts the pattern. -/
def split (t : Text) : Text × Text × Text :=
  let (first, rest) := t.splitWord
  if rest.head? = some '(' then ([], first, rest)
  else
    let (name, pattern) := rest.splitWord
    (first, name, pattern)

/-- Reads a declaration. -/
def parse (line : Text) : Except Fault Value :=
  match "Value".toList.isPrefixOf? line.trim with
  | none => .error .noKeyword
  | some rest =>
    if !Text.startsBlank rest then .error .noKeyword
    else
      let (options, name, pattern) := split (Text.trimStart rest)
      if name.isEmpty || pattern.isEmpty then .error .tooFewTokens
      else if !isName name then .error (.badName name)
      else if pattern.head? != some '(' || pattern.getLast? != some ')' then .error (.notEnclosed pattern)
      else if (Regex.LinePattern.parse? pattern).isNone then .error (.badPattern pattern)
      else (parseOptions options).map fun options => { name, pattern, options }

/-- Writes a declaration. -/
def print (v : Value) : Text :=
  "Value ".toList ++
    (if v.options.isEmpty then [] else Text.joinWith [','] (v.options.map (·.keyword)) ++ [' ']) ++
    v.name ++ [' '] ++ v.pattern

end Value

end Readout.Template
