import RecordFilter.Number.Binary64

/-!
# UUIDs

A 128-bit number with a text of 32 hexadecimal digits in groups of 8, 4, 4, 4 and
12.  Reading also takes the digits without hyphens, in braces and as a URN, whose
scheme is written in either case.
-/

namespace RecordFilter

/-- A universally unique identifier. -/
structure Uuid where
  bits : Fin (2 ^ 128)
  deriving DecidableEq, Repr

namespace Uuid

/-- The identifier whose bits are all zero. -/
def nil : Uuid := ⟨⟨0, by decide⟩⟩

/-- Order of the numbers, which is the order of the texts. -/
def order (left right : Uuid) : Ordering :=
  compare left.bits.val right.bits.val

/-- Lower-case text in five groups. -/
def toText (u : Uuid) : String :=
  let digits := Nat.toDigits 16 u.bits.val
  let digits := List.replicate (32 - digits.length) '0' ++ digits
  let group (start length : Nat) : List Char := (digits.drop start).take length
  String.ofList <|
    group 0 8 ++ '-' :: group 8 4 ++ '-' :: group 12 4 ++ '-' :: group 16 4 ++ '-' :: group 20 12

/-- The value of a hexadecimal digit. -/
def hexValue? (c : Char) : Option Nat :=
  if c.isDigit then some (c.toNat - '0'.toNat)
  else if 'a' ≤ c ∧ c ≤ 'f' then some (c.toNat - 'a'.toNat + 10)
  else if 'A' ≤ c ∧ c ≤ 'F' then some (c.toNat - 'A'.toNat + 10)
  else none

/-- Reads exactly 32 hexadecimal digits. -/
def ofDigits? (digits : List Char) : Option Uuid :=
  if digits.length = 32 then
    (digits.mapM hexValue?).map fun values =>
      ⟨Fin.ofNat (2 ^ 128) (values.foldl (fun n v => n * 16 + v) 0)⟩
  else none

/-- Reads five groups of digits joined by hyphens. -/
def ofGroups? (text : List Char) : Option Uuid :=
  let group (start length : Nat) : List Char := (text.drop start).take length
  if text.length = 36 ∧ [8, 13, 18, 23].all (fun i => text[i]? == some '-') then
    ofDigits? (group 0 8 ++ group 9 4 ++ group 14 4 ++ group 19 4 ++ group 24 12)
  else none

/-- Reads an identifier in any of its forms. -/
def ofText? (text : String) : Option Uuid :=
  let chars := text.toList
  let urn := "urn:uuid:".toList
  if chars.length = 32 then ofDigits? chars
  else if chars.length = 38 ∧ chars.head? = some '\x7b' ∧ chars.getLast? = some '\x7d' then
    ofGroups? (chars.tail.dropLast)
  else if urn.isPrefixOf (chars.map Char.toLower) then ofGroups? (chars.drop urn.length)
  else ofGroups? chars

end Uuid

end RecordFilter
