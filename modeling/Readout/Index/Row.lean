/-
  Rows of an index: fields separated by commas.  Double quotes take commas literally, and a doubled quote
  inside them stands for one; white space around a field is dropped.

  * `Row.fields` reads a row;
  * `Row.write` writes one with every field in quotes.
-/
import Readout.Text.Basic

namespace Readout.Index.Row

/-- The fields of a row, where `field` is what has been read of the first one, and `quoted` says that a quote
    is open. -/
def fieldsFrom (quoted : Bool) (field : Text) : Text → List Text
  | [] => [field.trim]
  | '"' :: t =>
    match quoted, t with
    | true, '"' :: t => fieldsFrom true (field ++ ['"']) t
    | _, t => fieldsFrom (!quoted) field t
  | c :: t =>
    if c = ',' ∧ quoted = false then field.trim :: fieldsFrom false [] t
    else fieldsFrom quoted (field ++ [c]) t

/-- The fields of a row. -/
def fields (row : Text) : List Text := fieldsFrom false [] row

/-- The field in quotes. -/
def quote (field : Text) : Text :=
  '"' :: field.flatMap (fun c => if c = '"' then ['"', '"'] else [c]) ++ ['"']

/-- The fields as a row. -/
def write (fields : List Text) : Text := Text.joinWith [','] (fields.map quote)

example : fields " a, b c ,\"x,\"\"y\"\" \" ".toList =
    ["a".toList, "b c".toList, "x,\"y\"".toList] := by decide
example : fields (write ["a,b".toList, "\"".toList]) = ["a,b".toList, "\"".toList] := by decide

end Readout.Index.Row
