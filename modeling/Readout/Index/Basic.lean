/-
  The index file.  The first line that is neither blank nor a comment names the columns, and every further
  one is an entry; a row that lacks a field is skipped.

  * `Index.parse` reads an index: the registry, and what was noticed on the way;
  * `Index.Error` are the reasons to refuse one, `Index.Notice` the findings that do not stop the reading.
-/
import Readout.Index.Registry
import Readout.Index.Row
import Readout.Text.Lines

namespace Readout.Index

/-! ## Findings -/

/-- A column of the index. -/
inductive Column where
  | template
  | platform
  | command
  deriving DecidableEq, Repr

/-- The name of a column. -/
def Column.name : Column → String
  | template => "template"
  | platform => "platform"
  | command => "command"

/-- The names that a column may have in the header. -/
def Column.accepts : Column → List Text
  | platform => ["platform".toList, "vendor".toList]
  | c => [c.name.toList]

/-- Why the text of an index is refused. -/
inductive Fault where
  | missingHeader
  | missingColumn (column : Column) (header : Text)
  deriving DecidableEq, Repr

/-- The wording of a fault. -/
def Fault.message : Fault → String
  | missingHeader => "No header found in index file"
  | missingColumn column header =>
    s!"Missing '{column.name}' column in index header: {Text.str header}"

/-- What is noticed while an index is read. -/
inductive Notice where
  | malformedRow (line : Nat) (row : Text)
  | invalidPattern (pattern : Text)
  deriving DecidableEq, Repr

/-- The wording of a notice.  A pattern is quoted up to the first `': `, behind which an explanation would
    follow. -/
def Notice.message : Notice → String
  | malformedRow line row => s!"Skipping malformed index row at line {line}: '{Text.str row}'"
  | invalidPattern pattern => s!"Invalid command pattern '{Text.str (Text.quotable pattern)}'"

/-! ## Columns -/

/-- Where the columns stand in a row. -/
structure Columns where
  template : Nat
  platform : Nat
  command : Nat
  deriving DecidableEq, Repr

/-- Finds the columns in a header. -/
def Columns.ofHeader (header : Text) : Except Fault Columns := do
  let names := (Row.fields header).map Text.lower
  let position (c : Column) : Except Fault Nat :=
    match names.findIdx? c.accepts.contains with
    | some i => .ok i
    | none => .error (.missingColumn c header)
  return { template := ← position .template
           platform := ← position .platform
           command := ← position .command }

/-- The entry in a row, if none of its fields is missing or empty. -/
def Columns.entry? (cs : Columns) (fields : List Text) : Option Entry := do
  let template ← fields[cs.template]?
  let platform ← fields[cs.platform]?
  let command ← fields[cs.command]?
  if template.isEmpty || platform.isEmpty || command.isEmpty then none
  else some { platform := Text.lower platform, pattern := command, template }

/-! ## Reading -/

/-- The lines that count, trimmed and with their numbers. -/
def significantLines (content : Text) : List (Nat × Text) :=
  (content.numberedLines.map fun (n, l) => (n, Text.trim l)).filter fun (_, l) =>
    !l.isEmpty && l.head? != some '#'

/-- The registry with the notices of its making. -/
abbrev Noticing := Registry × List Notice

/-- Takes in one row. -/
def readRow (cs : Columns) (s : Noticing) (line : Nat × Text) : Noticing :=
  match cs.entry? (Row.fields line.2) with
  | none => (s.1, s.2 ++ [.malformedRow line.1 line.2])
  | some e =>
    let known := (s.1.matcher? e.pattern).isSome
    let r := s.1.insert e
    (r, if known || ((r.matcher? e.pattern).any (·.isCompiled)) then s.2
        else s.2 ++ [.invalidPattern e.pattern])

/-- Reads an index. -/
def parse (content : Text) : Except Fault Noticing :=
  match significantLines content with
  | [] => .error .missingHeader
  | (_, header) :: rows => do
    let cs ← Columns.ofHeader header
    return rows.foldl (readRow cs) ({}, [])

end Readout.Index
