/-
  The registry of templates: for each platform the commands that have a template, in the order of the index.

  * `Entry` is one row of the index, `Registry` all of them with the matchers of their patterns;
  * `Registry.ofEntries` builds one, `entriesOf`, `matcher?`, `platforms` and `commands` look things up.
-/
import Readout.Command.Completion

namespace Readout.Index

/-- A platform, a command pattern, and the template for the command. -/
structure Entry where
  platform : Text
  pattern : Text
  template : Text
  deriving DecidableEq, Repr

/-- Entries in index order, and one matcher for each pattern that occurs in them. -/
structure Registry where
  entries : List Entry := []
  matchers : List Command.Matcher := []
  deriving DecidableEq

namespace Registry

/-- The matcher of a pattern. -/
def matcher? (r : Registry) (pattern : Text) : Option Command.Matcher :=
  r.matchers.find? (·.pattern == pattern)

/-- The registry with an entry more. -/
def insert (r : Registry) (e : Entry) : Registry where
  entries := r.entries ++ [e]
  matchers :=
    if (r.matcher? e.pattern).isSome then r.matchers else r.matchers ++ [.ofPattern e.pattern]

/-- The registry of some entries. -/
def ofEntries (es : List Entry) : Registry := es.foldl insert {}

/-- The entries of a platform. -/
def entriesOf (r : Registry) (platform : Text) : List Entry := r.entries.filter (·.platform == platform)

/-- Does the platform have an entry? -/
def contains (r : Registry) (platform : Text) : Bool := !(r.entriesOf platform).isEmpty

/-- Puts a text into a sorted list, unless it is there. -/
def insertSorted (t : Text) : List Text → List Text
  | [] => [t]
  | u :: us => if t = u then u :: us else if t < u then t :: u :: us else u :: insertSorted t us

/-- The platforms that have an entry, sorted by code points. -/
def platforms (r : Registry) : List Text :=
  r.entries.foldr (fun e names => insertSorted e.platform names) []

/-- The commands of a platform, spelled out. -/
def commands (r : Registry) (platform : Text) : List Text :=
  (r.entriesOf platform).map fun e => Command.core e.pattern

end Registry

end Readout.Index
