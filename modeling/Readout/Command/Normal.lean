/-
  The normal form of a command: its words in lower case, with one blank between them.

  * `Command.normalize` is the normal form;
  * `Command.core` is what a completion pattern says when everything optional is typed out.
-/
import Readout.Unicode.Lower

namespace Readout.Command

/-- The words of a command in lower case, with one blank between them. -/
def normalize (command : Text) : Text := Text.joinWith [' '] (command.words.map Text.lower)

/-- The text without the occurrences of a pair of equal brackets, read from the left. -/
def dropPairs (bracket : Char) : Text → Text
  | c :: d :: t =>
    if c = bracket ∧ d = bracket then dropPairs bracket t else c :: dropPairs bracket (d :: t)
  | t => t

/-- The command that a completion pattern spells out. -/
def core (pattern : Text) : Text := normalize (dropPairs ']' (dropPairs '[' pattern))

example : normalize " Show\t\tVERSION ".toList = "show version".toList := by decide
example : core "sh[[ow]]  ver[[sion]]".toList = "show version".toList := by decide
example : core "[[[a]]]".toList = "[a]".toList := by decide

end Readout.Command
