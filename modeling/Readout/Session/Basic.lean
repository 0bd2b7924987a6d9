/-
  A session parses the output of commands.  It reads the index when it first needs it, chooses a template for
  the command, and runs the template over the output; templates that have been read are kept.

  * `Session` is the state: the configuration, the registry once the index has been read, and the cache;
  * `Session.resolve`, `platforms` and `commands` answer questions about the index, `reload` reads it again;
  * `Session.outcome`, `parse` and `report` run templates.

  A function that may read files returns the session behind it, and what it wants to be logged.
-/
import Readout.Config
import Readout.Extraction.Report
import Readout.Extraction.Run
import Readout.FileTree
import Readout.Index.Basic
import Readout.Index.Selection
import Readout.Session.Cache

namespace Readout

namespace Session

/-! ## Errors and log lines -/

/-- Why an index is not loaded. -/
inductive LoadError where
  | notFound (path : Path)
  | unreadable (path : Path) (e : FileTree.ReadError)
  | refused (fault : Index.Fault)
  deriving DecidableEq, Repr

/-- The wording of an error. -/
def LoadError.message : LoadError → String
  | notFound path => s!"Index file not found at {Text.str path}"
  | unreadable path e => s!"Failed to read index file {Text.str path}: {e.message}"
  | refused fault => fault.message

/-- Why there is no template. -/
inductive TemplateError where
  | unreadable (path : Path) (e : FileTree.ReadError)
  | refused (fault : Template.Fault)
  deriving DecidableEq, Repr

/-- The wording of an error. -/
def TemplateError.message : TemplateError → String
  | unreadable path e => s!"Failed to read template {Text.str path}: {e.message}"
  | refused fault => fault.message

/-- Why output is not parsed. -/
inductive ParseError where
  | emptyInput
  | unsupportedPlatform (platform : Text)
  | noTemplate (platform command : Text)
  | template (e : TemplateError)
  | failed (f : Extraction.Failure)
  deriving DecidableEq, Repr

/-- The wording of an error. -/
def ParseError.message : ParseError → String
  | emptyInput => "Empty output provided for parsing"
  | unsupportedPlatform platform => s!"No templates registered for platform '{Text.str platform}'"
  | noTemplate platform command =>
    s!"No template found for platform '{Text.str platform}' command '{Text.str command}'"
  | template e => s!"Template definition error: {e.message}"
  | failed f => f.message

/-- Any error of a session. -/
inductive Error where
  | index (e : LoadError)
  | template (e : TemplateError)
  | parse (e : ParseError)
  deriving DecidableEq, Repr

/-- The wording of an error. -/
def Error.message : Error → String
  | index e => s!"Index error: {e.message}"
  | template e => s!"Template error: {e.message}"
  | parse e => s!"Parse error: {e.message}"

/-- What a session wants to be logged. -/
inductive LogLine where
  | noticed (n : Index.Notice)
  | notLoaded (e : LoadError)
  /-- a warning of a run, for the output of a command on a platform -/
  | warned (w : Extraction.Warning) (platform command : Text)
  deriving DecidableEq, Repr

/-- The wording of a log line, with its level in front. -/
def LogLine.text : LogLine → String
  | noticed n => s!"WARN {n.message}"
  | notLoaded e => s!"ERROR Failed to load template index: {e.message}"
  | warned w platform command => s!"WARN {w.message} ({Text.str platform} '{Text.str command}')"

end Session

/-! ## Sessions -/

/-- The state of a session. -/
structure Session where
  config : Config
  /-- the registry of the index, once it has been read -/
  registry : Option Index.Registry := none
  cache : Session.Cache := {}
  deriving DecidableEq

namespace Session

open Index (Registry Resolution)

/-- The registry of the index file. -/
def loadIndex (files : FileTree) (path : Path) : Except LoadError Index.Noticing :=
  if !files.hasFile path then .error (.notFound path)
  else
    match files.read path with
    | .error e => .error (.unreadable path e)
    | .ok content =>
      match Index.parse content with
      | .error fault => .error (.refused fault)
      | .ok r => .ok r

/-- The session with its registry, which is read if it is not there. -/
def load (s : Session) (files : FileTree) : Session × List LogLine :=
  match s.registry with
  | some _ => (s, [])
  | none =>
    match loadIndex files s.config.indexPath with
    | .ok (r, notices) => ({ s with registry := some r }, notices.map .noticed)
    | .error e => (s, [.notLoaded e])

/-- Reads the index again, and drops the templates that are kept.  If the index cannot be read, everything
    stays as it is. -/
def reload (s : Session) (files : FileTree) : Session × List LogLine × Except LoadError Unit :=
  match loadIndex files s.config.indexPath with
  | .ok (r, notices) =>
    ({ s with registry := some r, cache := s.cache.invalidate }, notices.map .noticed, .ok ())
  | .error e => (s, [], .error e)

/-! ## Questions about the index -/

/-- The template for a command, as the registry of the session has it. -/
def resolution (s : Session) (files : FileTree) (platform command : Text) : Resolution :=
  match s.registry with
  | some r => r.find s.config.templateDirs files.has platform command
  | none => .unsupportedPlatform

/-- The template for a command. -/
def resolve (s : Session) (files : FileTree) (platform command : Text) :
    Session × List LogLine × Resolution :=
  let (s, log) := s.load files
  (s, log, s.resolution files platform command)

/-- The platforms of the index. -/
def platforms (s : Session) (files : FileTree) : Session × List LogLine × List Text :=
  let (s, log) := s.load files
  (s, log, (s.registry.map Registry.platforms).getD [])

/-- The commands of a platform. -/
def commands (s : Session) (files : FileTree) (platform : Text) : Session × List LogLine × List Text :=
  let (s, log) := s.load files
  (s, log, (s.registry.map fun r => r.commands platform.lower).getD [])

/-! ## Parsing -/

/-- The template in a file. -/
def readTemplate (files : FileTree) (path : Path) : Except TemplateError Template :=
  match files.read path with
  | .error e => .error (.unreadable path e)
  | .ok source =>
    match Template.parse source with
    | .error fault => .error (.refused fault)
    | .ok t => .ok t

/-- The template of a path: the one that is kept, or else the one in the file, which is kept from then on. -/
def template (s : Session) (files : FileTree) (path : Path) : Session × Except TemplateError Template :=
  if s.config.cacheSize = 0 then (s, readTemplate files path)
  else
    match s.cache.get? path with
    | some t => ({ s with cache := s.cache.touch path }, .ok t)
    | none =>
      match readTemplate files path with
      | .error e => (s, .error e)
      | .ok t =>
        ({ s with cache := s.cache.insert s.config.cacheSize s.cache.generation path t }, .ok t)

/-- What a run over the output of a command yields. -/
def outcome (s : Session) (files : FileTree) (platform command text : Text) :
    Session × List LogLine × Except ParseError Extraction.Outcome :=
  if text.isEmpty then (s, [], .error .emptyInput)
  else
    let (s, log, r) := s.resolve files platform command
    match r with
    | .unsupportedPlatform => (s, log, .error (.unsupportedPlatform platform))
    | .noMatch => (s, log, .error (.noTemplate platform command))
    | .found ref =>
      match s.template files ref.path with
      | (s, .error e) => (s, log, .error (.template e))
      | (s, .ok t) => (s, log, (Extraction.extract t text).mapError .failed)

/-- The records in the output of a command; the warnings of the run are logged. -/
def parse (s : Session) (files : FileTree) (platform command text : Text) :
    Session × List LogLine × Except ParseError (List Extraction.Record) :=
  match s.outcome files platform command text with
  | (s, log, .error e) => (s, log, .error e)
  | (s, log, .ok o) => (s, log ++ o.warnings.map fun w => .warned w platform command, .ok o.records)

/-- The records in the output of a command, as a JSON text. -/
def report (s : Session) (files : FileTree) (platform command text : Text) :
    Session × List LogLine × Except Error Text :=
  match s.parse files platform command text with
  | (s, log, .error e) => (s, log, .error (.parse e))
  | (s, log, .ok rs) => (s, log, .ok (Extraction.report rs))

end Session

end Readout
