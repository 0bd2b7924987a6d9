/-
  A tree of files and directories, named by paths from its root.

  * `FileTree` is a tree, `write`, `makeDir` and `remove` change it;
  * `find?` follows a path, `read` is the text of a file.
-/
import Readout.Path

namespace Readout

namespace FileTree

/-- What a file holds. -/
inductive Content where
  | text (t : Text)
  /-- bytes that are no UTF-8 -/
  | binary
  deriving DecidableEq, Repr

/-- What stands at a place of the tree. -/
inductive Item where
  | file (content : Content)
  | directory
  deriving DecidableEq, Repr

/-- Why a file cannot be read. -/
inductive ReadError where
  | notFound
  | isDirectory
  | notUtf8
  deriving DecidableEq, Repr

/-- The wording of an error. -/
def ReadError.message : ReadError → String
  | notFound => "No such file or directory (os error 2)"
  | isDirectory => "Is a directory (os error 21)"
  | notUtf8 => "stream did not contain valid UTF-8"

end FileTree

/-- A tree: the items below its root, each with the names that lead to it. -/
structure FileTree where
  items : List (List Text × FileTree.Item) := []
  deriving DecidableEq, Repr

namespace FileTree

/-- The item that names lead to. -/
def item? (t : FileTree) (names : List Text) : Option Item :=
  if names.isEmpty then some .directory else (t.items.find? (·.1 == names)).map (·.2)

/-- Follows the pieces of a path from a directory on: a name leads into a directory only, two dots lead out
    of it, and an empty piece and a dot stay there. -/
def follow (t : FileTree) (names : List Text) : List Text → Option (List Text)
  | [] => some names
  | piece :: pieces =>
    if t.item? names = some .directory then
      if piece = [] ∨ piece = ['.'] then t.follow names pieces
      else if piece = ['.', '.'] then t.follow names.dropLast pieces
      else
        let names := names ++ [piece]
        if (t.item? names).isSome then t.follow names pieces else none
    else none

/-- The item that a path leads to from the root. -/
def find? (t : FileTree) (p : Path) : Option Item :=
  if p.isEmpty then none else (t.follow [] (Text.pieces '/' p)).bind t.item?

/-- Does the path lead to something? -/
def has (t : FileTree) (p : Path) : Bool := (t.find? p).isSome

/-- Does the path lead to a file? -/
def hasFile (t : FileTree) (p : Path) : Bool :=
  match t.find? p with
  | some (.file _) => true
  | _ => false

/-- The text of a file. -/
def read (t : FileTree) (p : Path) : Except ReadError Text :=
  match t.find? p with
  | some (.file (.text s)) => .ok s
  | some (.file .binary) => .error .notUtf8
  | some .directory => .error .isDirectory
  | none => .error .notFound

/-- The names that a path leads through. -/
def namesOf (p : Path) : List Text :=
  (Text.pieces '/' p).foldl (fun names piece =>
    if piece = [] ∨ piece = ['.'] then names
    else if piece = ['.', '.'] then names.dropLast
    else names ++ [piece]) []

/-- The tree with an item in place of what was there. -/
def put (t : FileTree) (names : List Text) (i : Item) : FileTree :=
  if names.isEmpty then t else ⟨(names, i) :: t.items.filter (·.1 != names)⟩

/-- The tree with directories at all of the first `n` names. -/
def makeDirs (t : FileTree) (names : List Text) (n : Nat) : FileTree :=
  (List.range n).foldl (fun t i =>
    let names := names.take (i + 1)
    if (t.item? names).isSome then t else t.put names .directory) t

/-- Writes a file, with the directories that lead to it. -/
def write (t : FileTree) (p : Path) (c : Content) : FileTree :=
  let names := namesOf p
  (t.makeDirs names (names.length - 1)).put names (.file c)

/-- Makes a directory, with those that lead to it. -/
def makeDir (t : FileTree) (p : Path) : FileTree :=
  let names := namesOf p
  t.makeDirs names names.length

/-- Removes a file, or a directory with all that is below it. -/
def remove (t : FileTree) (p : Path) : FileTree :=
  let names := namesOf p
  ⟨t.items.filter fun i => !names.isPrefixOf i.1⟩

/-- The tree of some files without content. -/
def ofPaths (ps : List Path) : FileTree := ps.foldl (fun t p => t.write p (.text [])) {}

end FileTree

end Readout
