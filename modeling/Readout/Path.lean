/-
  Paths, written with slashes.

  * `Path.join` puts a path behind a directory as written, without simplifying anything;
  * `Path.parts` are the names in a path, by which two spellings of a path are compared.
-/
import Readout.Text.Basic

namespace Readout

/-- A path as written. -/
abbrev Path := Text

namespace Path

/-- Does the path start at the root? -/
def isAbsolute (p : Path) : Bool := p.head? == some '/'

/-- The path `p` seen from `dir`: an absolute path replaces the directory, and no second slash is added. -/
def join (dir p : Path) : Path :=
  if isAbsolute p then p
  else if dir.isEmpty || dir.getLast? == some '/' then dir ++ p
  else dir ++ '/' :: p

/-- The names in a path.  Empty pieces and dots are dropped, but for a dot that starts a relative path. -/
def parts (p : Path) : List Text :=
  match Text.pieces '/' p with
  | [] => []
  | first :: rest =>
    (if first = [] then [] else [first]) ++ rest.filter fun s => s != [] && s != ['.']

/-- What identifies a path: whether it is absolute, and its names. -/
def key (p : Path) : Bool × List Text := (isAbsolute p, p.parts)

example : join "t".toList "./x".toList = "t/./x".toList := by decide
example : join [] "x".toList = "x".toList ∧ join "a/".toList "x".toList = "a/x".toList := by decide
example : join ".".toList [] = "./".toList ∧ join "a".toList "/x".toList = "/x".toList := by decide
example : key "a//b/./c/".toList = key "a/b/c".toList ∧ key "./a".toList ≠ key "a".toList := by decide

end Path

end Readout
