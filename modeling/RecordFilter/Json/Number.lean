import RecordFilter.Json.Basic

/-!
# Reading JSON numbers

A number without fraction and exponent that fits 64 bits is a whole number.  Any
other is read as the nearest double; a number beyond the greatest double is
refused.
-/

namespace RecordFilter

/-- A number as read. -/
inductive JsonNumber where
  | whole (value : Int)
  | float (value : Binary64)
  deriving DecidableEq, Repr

namespace JsonNumber

/-- The nearest double to the text of a number, where there is one. -/
def float? (literal : List Char) : Option JsonNumber :=
  (Binary64.ofText? (String.ofList literal)).bind fun x =>
    if x.isFinite then some (.float x) else none

/-- Reads the text of a number.  A zero with a minus sign is no whole number. -/
def ofLiteral? (literal : List Char) : Option JsonNumber :=
  match literal with
  | '-' :: digits =>
    let magnitude := Nat.ofDigitChars 10 digits 0
    if digits.all Char.isDigit ∧ 0 < magnitude ∧ magnitude ≤ 2 ^ 63 then
      some (.whole (-(magnitude : Int)))
    else float? literal
  | digits =>
    let magnitude := Nat.ofDigitChars 10 digits 0
    if digits.all Char.isDigit ∧ magnitude < 2 ^ 64 then some (.whole magnitude)
    else float? literal

end JsonNumber

end RecordFilter
