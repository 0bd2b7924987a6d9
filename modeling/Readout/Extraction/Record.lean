/-
  Records: what a run extracts.  A record has one field for each declared value, in declared order.

  * `Field` is a single text or a list of texts;
  * `Record` is a list of named fields, `Record.get?` looks one up.
-/
import Readout.Text.Basic

namespace Readout.Extraction

/-- The content of a column. -/
inductive Field where
  | single (t : Text)
  | list (ts : List Text)
  deriving DecidableEq, Repr

namespace Field

/-- Is there nothing in the field? -/
def isEmpty : Field → Bool
  | single t => t.isEmpty
  | list ts => ts.isEmpty

/-- The text of a single field. -/
def text? : Field → Option Text
  | single t => some t
  | list _ => none

/-- The texts of a list. -/
def texts? : Field → Option (List Text)
  | single _ => none
  | list ts => some ts

/-- The field as text: a list stands in brackets, with commas between its items. -/
def display : Field → Text
  | single t => t
  | list ts => '[' :: Text.joinWith ", ".toList ts ++ [']']

end Field

/-- The fields of a record without their names. -/
abbrev Row := List Field

/-- Named fields. -/
abbrev Record := List (Text × Field)

namespace Record

/-- The field called `name`. -/
def get? (r : Record) (name : Text) : Option Field := (r.find? (·.1 == name)).map (·.2)

/-- The names of the fields. -/
def names (r : Record) : List Text := r.map (·.1)

end Record

end Readout.Extraction
