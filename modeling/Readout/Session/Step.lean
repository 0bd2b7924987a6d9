/-
  Sessions step by step: a desk with files and a session, on which files change and questions are asked.

  * `Step` is one thing to do, `Answer` what comes of it;
  * `Desk.step` does it, `Desk.run` does several in a row.
-/
import Readout.Session.Description

namespace Readout.Session

/-- One thing to do. -/
inductive Step where
  | write (path : Path) (content : FileTree.Content)
  | makeDir (path : Path)
  | remove (path : Path)
  /-- begins a new session; the files stay -/
  | begin (config : Config)
  | parse (platform command text : Text)
  | outcome (platform command text : Text)
  | report (platform command text : Text)
  | resolve (platform command : Text)
  | platforms
  | commands (platform : Text)
  | reload
  | registry
  | config
  | describe
  deriving DecidableEq, Repr

/-- What comes of a step. -/
inductive Answer where
  | done
  | parsed (r : Except ParseError (List Extraction.Record))
  | outcome (r : Except ParseError Extraction.Outcome)
  | report (r : Except Error Text)
  | resolution (r : Index.Resolution)
  | names (ts : List Text)
  | reloaded (r : Except LoadError Unit)
  | registry (r : Option Index.Registry)
  | config (c : Config)
  | description (t : Text)

/-- Files, and a session that reads them. -/
structure Desk where
  files : FileTree := {}
  session : Session

namespace Desk

/-- The desk with another state of the session, next to what is logged and answered. -/
def answer {α : Type} (d : Desk) (a : α → Answer) (r : Session × List LogLine × α) :
    Desk × List LogLine × Answer :=
  ({ d with session := r.1 }, r.2.1, a r.2.2)

/-- Does one step. -/
def step (d : Desk) : Step → Desk × List LogLine × Answer
  | .write path content => ({ d with files := d.files.write path content }, [], .done)
  | .makeDir path => ({ d with files := d.files.makeDir path }, [], .done)
  | .remove path => ({ d with files := d.files.remove path }, [], .done)
  | .begin config => ({ d with session := { config } }, [], .done)
  | .parse platform command text => d.answer .parsed (d.session.parse d.files platform command text)
  | .outcome platform command text => d.answer .outcome (d.session.outcome d.files platform command text)
  | .report platform command text => d.answer .report (d.session.report d.files platform command text)
  | .resolve platform command => d.answer .resolution (d.session.resolve d.files platform command)
  | .platforms => d.answer .names (d.session.platforms d.files)
  | .commands platform => d.answer .names (d.session.commands d.files platform)
  | .reload => d.answer .reloaded (d.session.reload d.files)
  | .registry => (d, [], .registry d.session.registry)
  | .config => (d, [], .config d.session.config)
  | .describe => (d, [], .description d.session.describe)

/-- Does steps in a row: the desk behind them, and what each of them logs and answers. -/
def run (d : Desk) : List Step → Desk × List (List LogLine × Answer)
  | [] => (d, [])
  | s :: ss =>
    let (d, log, a) := d.step s
    let (d, as) := d.run ss
    (d, (log, a) :: as)

end Desk

end Readout.Session
