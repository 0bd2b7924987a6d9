/-
  The choice of a template for a command.  Exact matches come first, then partial ones, each in index order;
  an entry whose template is in none of the directories is passed over.

  * `Registry.find` chooses, given which paths exist.
-/
import Readout.Index.Registry
import Readout.Path

namespace Readout.Index

/-- How a pattern matched. -/
inductive MatchKind where
  | exact
  | partly
  deriving DecidableEq, Repr

/-- The template that has been chosen. -/
structure TemplateRef where
  platform : Text
  template : Text
  path : Path
  pattern : Text
  kind : MatchKind
  deriving DecidableEq, Repr

/-- The outcome of a choice. -/
inductive Resolution where
  | found (ref : TemplateRef)
  | unsupportedPlatform
  | noMatch
  deriving DecidableEq, Repr

/-- The path of a template in the first directory that has it. -/
def locate? (dirs : List Path) (present : Path → Bool) (template : Text) : Option Path :=
  (dirs.map fun d => Path.join d template).find? present

namespace Registry

/-- Does the entry match the command in this way? -/
def accepts (r : Registry) (kind : MatchKind) (command : Text) (e : Entry) : Bool :=
  (r.matcher? e.pattern).any fun m =>
    match kind with
    | .exact => m.isExact command
    | .partly => m.isPartial command

/-- The first entry that matches in the given way and whose template is there. -/
def findBy? (r : Registry) (dirs : List Path) (present : Path → Bool) (platform command : Text)
    (kind : MatchKind) : Option TemplateRef :=
  (r.entriesOf platform).findSome? fun e =>
    if r.accepts kind command e then
      (locate? dirs present e.template).map fun path =>
        { platform, template := e.template, path, pattern := e.pattern, kind }
    else none

/-- The template for a command of a platform. -/
def find (r : Registry) (dirs : List Path) (present : Path → Bool) (platform command : Text) :
    Resolution :=
  let platform := platform.trim.lower
  let command := Command.normalize command
  if r.contains platform then
    match r.findBy? dirs present platform command .exact <|>
      r.findBy? dirs present platform command .partly with
    | some ref => .found ref
    | none => .noMatch
  else .unsupportedPlatform

end Registry

end Readout.Index
