/-
  The configuration of a session.

  * `Config` says where the index and the templates are, and how many templates are kept;
  * `Config.parse?` reads one from a JSON text, `Config.ofEnvironment` takes one from the environment.
-/
import Readout.Json.Reader
import Readout.Path

namespace Readout

/-- Where the index and the templates are, and how many templates are kept. -/
structure Config where
  /-- the directory of the index and the templates -/
  templateDir : Path := "./templates".toList
  /-- more directories of templates -/
  extraDirs : List Path := []
  /-- the name of the index, seen from `templateDir` -/
  indexFile : Path := "index".toList
  /-- the number of templates that are kept; none if it is zero -/
  cacheSize : Nat := 64
  deriving DecidableEq, Repr

namespace Config

/-- The directories in which templates are looked for, in order. -/
def templateDirs (c : Config) : List Path := c.templateDir :: c.extraDirs

/-- The path of the index. -/
def indexPath (c : Config) : Path := Path.join c.templateDir c.indexFile

/-- The configuration of an environment in which a variable names the directory; an empty one does not
    count. -/
def ofEnvironment (dir : Option Path) : Config :=
  match dir with
  | some (c :: t) => { templateDir := c :: t }
  | _ => {}

/-! ## Reading -/

/-- The text of a string. -/
def text? : Json → Option Text
  | .string t => some t
  | _ => none

/-- The texts of an array of strings. -/
def texts? : Json → Option (List Text)
  | .array js => js.mapM text?
  | _ => none

/-- A number that is written as an integer without a sign and fits into 64 bits. -/
def size? : Json → Option Nat
  | .number t =>
    if t.all Char.isDigit then
      let n := Text.decimal t
      if n < UInt64.size then some n else none
    else none
  | _ => none

/-- A field of a configuration. -/
inductive Key where
  | templateDir
  | extraDirs
  | indexFile
  | cacheSize
  deriving DecidableEq, Repr

/-- The fields in order. -/
def Key.all : List Key := [templateDir, extraDirs, indexFile, cacheSize]

/-- The name of a field. -/
def Key.name : Key → Text
  | templateDir => "template_dir".toList
  | extraDirs => "extra_template_dirs".toList
  | indexFile => "index_file".toList
  | cacheSize => "template_cache_size".toList

/-- The configuration with one field set, if the value fits. -/
def set? (c : Config) (j : Json) : Key → Option Config
  | .templateDir => (text? j).map fun t => { c with templateDir := t }
  | .extraDirs => (texts? j).map fun ts => { c with extraDirs := ts }
  | .indexFile => (text? j).map fun t => { c with indexFile := t }
  | .cacheSize => (size? j).map fun n => { c with cacheSize := n }

/-- Sets the fields that members name; a field is named once, and other names do not count. -/
def ofMembers? (c : Config) (seen : List Key) : List (Text × Json) → Option Config
  | [] => some c
  | (name, j) :: ms =>
    match Key.all.find? (·.name == name) with
    | none => ofMembers? c seen ms
    | some k => if seen.contains k then none else (c.set? j k).bind fun c => ofMembers? c (k :: seen) ms

/-- Sets the fields in order. -/
def ofItems? (c : Config) : List Key → List Json → Option Config
  | _, [] => some c
  | [], _ :: _ => none
  | k :: ks, j :: js => (c.set? j k).bind fun c => ofItems? c ks js

/-- The configuration that a JSON value describes: an object of fields, or an array of them in order. -/
def ofJson? : Json → Option Config
  | .object ms => ofMembers? {} [] ms
  | .array js => ofItems? {} Key.all js
  | _ => none

/-- Reads a configuration. -/
def parse? (t : Text) : Option Config := (Json.parse? t).bind ofJson?

end Config

end Readout
