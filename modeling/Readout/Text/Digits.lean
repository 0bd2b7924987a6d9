/-
  Numbers written in digits.

  * `decimal` is the number that decimal digits write, `readDecimal?` reads one from the start of a text;
  * `hexValue?` is the value of a hexadecimal digit, `hexDigit` the digit of a value;
  * `hexNumber?` is the number that hexadecimal digits write.
-/
import Readout.Text.Basic

namespace Readout.Text

/-! ## Decimal digits -/

/-- The number that decimal digits write. -/
def decimal (t : Text) : Nat := t.foldl (fun n c => 10 * n + (c.toNat - '0'.toNat)) 0

/-- The number at the start of a text, and the text behind it; `none` if there is no digit. -/
def readDecimal? (t : Text) : Option (Nat × Text) :=
  match t.span Char.isDigit with
  | ([], _) => none
  | (ds, rest) => some (decimal ds, rest)

/-! ## Hexadecimal digits -/

/-- The value of a hexadecimal digit, in either case. -/
def hexValue? (c : Char) : Option Nat :=
  if '0' ≤ c ∧ c ≤ '9' then some (c.toNat - '0'.toNat)
  else if 'a' ≤ c ∧ c ≤ 'f' then some (c.toNat - 'a'.toNat + 10)
  else if 'A' ≤ c ∧ c ≤ 'F' then some (c.toNat - 'A'.toNat + 10)
  else none

/-- The digit of a value below 16, in lower case. -/
def hexDigit (n : Nat) : Char := Nat.digitChar n

/-- The number that hexadecimal digits write. -/
def hexNumber? (t : Text) : Option Nat :=
  if t.isEmpty then none else t.foldlM (fun n c => (hexValue? c).map (16 * n + ·)) 0

example : readDecimal? "042,".toList = some (42, ",".toList) ∧ readDecimal? ",".toList = none := by decide
example : ∀ n < 16, hexValue? (hexDigit n) = some n := by decide
example : hexNumber? "00eF".toList = some 239 ∧ hexNumber? "0g".toList = none := by decide

end Readout.Text
