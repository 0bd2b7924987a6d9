/-
  Names of values and states: letters, numbers and underscores, of bounded length.
-/
import Readout.Text.Basic
import Readout.Unicode.Alphanumeric

namespace Readout.Template

/-- Is `c` a character of names? -/
def isNameChar (c : Char) : Bool := Unicode.isAlphanumeric c || c == '_'

/-- Is the text a word of name characters? -/
def isWord (t : Text) : Bool := !t.isEmpty && t.all isNameChar

/-- The greatest number of bytes in a name. -/
def maxNameBytes : Nat := 48

/-- Is the text a name? -/
def isName (t : Text) : Bool := isWord t && Text.bytes t ≤ maxNameBytes

end Readout.Template
