/-
  Records as JSON: an array of objects, whose members are the fields in order.
-/
import Readout.Extraction.Record
import Readout.Json.Basic

namespace Readout.Extraction

/-- A field as JSON. -/
def Field.json : Field → Json
  | single t => .string t
  | list ts => .array (ts.map .string)

/-- A record as JSON. -/
def Record.json (r : Record) : Json := .object (r.map fun (name, f) => (name, f.json))

/-- Records as a JSON text. -/
def report (rs : List Record) : Text := (Json.array (rs.map Record.json)).pretty

end Readout.Extraction
