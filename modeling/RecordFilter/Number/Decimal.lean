import RecordFilter.Number.Shortest

/-!
# Decimal numbers

A decimal is `± magnitude · 10 ^ (-scale)` with a 96-bit magnitude and at most 28
decimal places.  The number of places is kept, so `1.50` and `1.5` are equal in
value and differ in text; `order` compares values exactly.

`ofText?` reads decimal text, rounding digits that do not fit half up.
`ofBinary64?` gives the decimal that stands for a double when the two kinds of
number are compared; it keeps about fifteen significant digits.
-/

namespace RecordFilter

/-- A decimal number of at most 28 places whose magnitude fits 96 bits.  A zero is
    negative only where a negative number was rounded to it. -/
structure Decimal where
  negative : Bool
  magnitude : Nat
  scale : Nat
  bounded : magnitude < 2 ^ 96 ∧ scale ≤ 28
  deriving DecidableEq, Repr

namespace Decimal

/-- The greatest number of decimal places. -/
def maxScale : Nat := 28

/-- The decimal with these parts, when they fit. -/
def make? (negative : Bool) (magnitude scale : Nat) : Option Decimal :=
  if bounded : magnitude < 2 ^ 96 ∧ scale ≤ 28 then some ⟨negative, magnitude, scale, bounded⟩
  else none

/-- Zero without decimal places. -/
def zero : Decimal := ⟨false, 0, 0, by decide⟩

/-- The decimal of an integer, when it fits. -/
def ofInt? (n : Int) : Option Decimal :=
  make? (n < 0) n.natAbs 0

/-- The decimal of a 64-bit integer. -/
def ofInt64 (n : Int64) : Decimal :=
  ⟨n.toInt < 0, n.toInt.natAbs, 0, by
    have low := n.le_toInt
    have high := n.toInt_lt
    omega, by decide⟩

/-- The value in units of the last decimal place. -/
def units (d : Decimal) : Int :=
  if d.negative then -(d.magnitude : Int) else d.magnitude

/-- Exact order of the values. -/
def order (left right : Decimal) : Ordering :=
  compare (left.units * 10 ^ right.scale) (right.units * 10 ^ left.scale)

/-- Plain text with exactly `scale` digits after the point. -/
def toText (d : Decimal) : String :=
  let digits := Nat.toDigits 10 d.magnitude
  let padded := List.replicate (d.scale + 1 - digits.length) '0' ++ digits
  let whole := padded.take (padded.length - d.scale)
  let fraction := padded.drop (padded.length - d.scale)
  let text := if d.scale = 0 then whole else whole ++ '.' :: fraction
  String.ofList (if d.negative then '-' :: text else text)

/-- The nearest double. -/
def toBinary64 (d : Decimal) : Binary64 :=
  Binary64.roundRatio Binary64.double (d.units < 0) d.magnitude (10 ^ d.scale)

/-! ## Reading text -/

/-- Digits read so far: their value, how many stand after the point, and whether
    a point and a digit have been seen. -/
structure Progress where
  mantissa : Nat
  scale : Nat
  point : Bool
  digit : Bool
  deriving Repr

/-- Closes a number: at least one digit must have been read. -/
def Progress.finish (p : Progress) : Option (Nat × Nat) :=
  if p.digit then some (p.mantissa, p.scale) else none

/-- Rounds up.  A mantissa that overflows by it loses its last digit. -/
def Progress.roundUp (p : Progress) : Option (Nat × Nat) :=
  if p.mantissa + 1 < 2 ^ 96 then some (p.mantissa + 1, p.scale)
  else if p.scale = 0 then none
  else some ((p.mantissa + 5) / 10, p.scale - 1)

/-- Rounds half up by the first digit of the digits that do not fit; nothing but
    underscores may stand between them. -/
def Progress.round (p : Progress) (rest : List Char) : Option (Nat × Nat) :=
  if rest.all fun c => c.isDigit || c == '_' then
    match rest.find? Char.isDigit with
    | some digit => if '5' ≤ digit then p.roundUp else p.finish
    | none => p.finish
  else none

/-- Reads digits, one point, and underscores after the first digit.  Digits after
    28 places, or after one that would overflow, decide the rounding; an overflow
    before the point is refused. -/
def readDigits (p : Progress) : List Char → Option (Nat × Nat)
  | [] => p.finish
  | c :: rest =>
    if c.isDigit then
      let mantissa := p.mantissa * 10 + (c.toNat - '0'.toNat)
      if mantissa < 2 ^ 96 then
        let read : Progress := ⟨mantissa, if p.point then p.scale + 1 else p.scale, p.point, true⟩
        if maxScale ≤ read.scale then read.round rest else readDigits read rest
      else if p.point then p.round (c :: rest)
      else none
    else if c = '.' ∧ p.point = false then readDigits { p with point := true } rest
    else if c = '_' ∧ p.digit = true then readDigits p rest
    else none

/-- Reads plain text without a sign. -/
def ofUnsigned? (negative : Bool) (text : List Char) : Option Decimal :=
  (readDigits ⟨0, 0, false, false⟩ text).bind fun (mantissa, scale) =>
    make? (negative && mantissa != 0) mantissa scale

/-- Reads plain text: an optional sign, then digits with an optional point. -/
def ofPlainText? (text : List Char) : Option Decimal :=
  match text with
  | '-' :: rest => ofUnsigned? true rest
  | '+' :: rest => ofUnsigned? false rest
  | rest => ofUnsigned? false rest

/-- Reads an unsigned exponent of at most 32 bits; a plus sign may precede it. -/
def readExponent? (text : List Char) : Option Nat :=
  let digits := match text with
    | '+' :: digits => digits
    | digits => digits
  if digits.isEmpty ∨ !digits.all Char.isDigit then none
  else
    let value := Nat.ofDigitChars 10 digits 0
    if value < 2 ^ 32 then some value else none

/-- Moves the point to the left; places beyond the last one are rounded half up. -/
def shrink? (d : Decimal) (exponent : Nat) : Option Decimal :=
  if maxScale < exponent then none
  else if d.scale + exponent ≤ maxScale then
    make? d.negative d.magnitude (d.scale + exponent)
  else
    let power := 10 ^ (d.scale + exponent - maxScale)
    make? d.negative ((d.magnitude + power / 2) / power) maxScale

/-- Moves the point to the right.  An exponent within the places of the mantissa
    only changes the scale; a greater one gives a whole number. -/
def grow? (d : Decimal) (exponent : Nat) : Option Decimal :=
  if exponent ≤ d.scale then make? d.negative d.magnitude (d.scale - exponent)
  else if maxScale < exponent then none
  else make? d.negative (d.magnitude * 10 ^ (exponent - d.scale)) 0

/-- Reads a mantissa and an exponent joined by `e`. -/
def ofScientific? (text : List Char) : Option Decimal :=
  let isMark (c : Char) : Bool := c == 'e' || c == 'E'
  match text.dropWhile fun c => !isMark c with
  | [] => none
  | _ :: exponent =>
    (ofPlainText? (text.takeWhile fun c => !isMark c)).bind fun d =>
      match exponent with
      | '-' :: digits => (readExponent? digits).bind d.shrink?
      | digits => (readExponent? digits).bind d.grow?

/-- Reads decimal text, plain or with an exponent. -/
def ofText? (text : String) : Option Decimal :=
  (ofPlainText? text.toList).orElse fun _ => ofScientific? text.toList

/-! ## The decimal that stands for a double -/

/-- Turns `2 ^ (-five)` into powers of five while the mantissa has 96 bits of
    room: an even mantissa is halved, an odd one multiplied by five, and one that
    would overflow loses its last bit.  Returns mantissa and decimal exponent. -/
def trade : Nat → Nat → Int → Nat × Int
  | 0, mantissa, ten => (mantissa, ten)
  | five + 1, mantissa, ten =>
    if mantissa % 2 = 0 then trade five (mantissa / 2) (ten + 1)
    else if mantissa * 5 < 2 ^ 96 then trade five (mantissa * 5) ten
    else trade five (mantissa / 2) (ten + 1)

/-- Divides by ten, a half going up. -/
def dropDigit (mantissa : Nat) : Nat :=
  if 5 ≤ mantissa % 10 then mantissa / 10 + 1 else mantissa / 10

/-- Brings the number of places down to 28; a mantissa that vanishes is zero
    without places. -/
def limitPlaces : Nat → Nat → Nat → Nat × Nat
  | 0, mantissa, places => (mantissa, places)
  | excess + 1, mantissa, places =>
    if mantissa / 10 = 0 then (0, 0)
    else limitPlaces excess (dropDigit mantissa) (places - 1)

/-- Drops digits after the point while the mantissa exceeds the 52 bits a double
    vouches for. -/
def limitDigits : Nat → Nat → Nat × Nat
  | mantissa, 0 => (mantissa, 0)
  | mantissa, places + 1 =>
    if 2 ^ 52 ≤ mantissa then limitDigits (dropDigit mantissa) places else (mantissa, places + 1)

/-- Drops trailing zeros after the point. -/
def dropZeros : Nat → Nat → Nat × Nat
  | mantissa, 0 => (mantissa, 0)
  | mantissa, places + 1 =>
    if mantissa % 10 = 0 then dropZeros (mantissa / 10) places else (mantissa, places + 1)

/-- Mantissa and places of the decimal for `significand · 2 ^ exponent`.  A whole
    number of 96 bits is kept as it is, and a greater one has none. -/
def approximate (significand : Nat) (exponent : Int) : Option (Nat × Nat) :=
  if 0 < exponent then
    let whole := significand * 2 ^ exponent.toNat
    if whole < 2 ^ 96 then some (whole, 0) else none
  else
    let (mantissa, ten) := trade (-exponent).toNat significand exponent
    let places := (-ten).toNat
    let (mantissa, places) := limitPlaces (places - 28) mantissa places
    let (mantissa, places) := limitDigits mantissa places
    some (dropZeros mantissa places)

/-- The decimal that stands for a double in a comparison; none for "not a
    number", the infinities and magnitudes beyond 96 bits. -/
def ofBinary64? : Binary64 → Option Decimal
  | .finite negative significand exponent _ =>
    if significand = 0 then some zero
    else (approximate significand ((exponent : Int) - 1074)).bind fun (m, s) => make? negative m s
  | _ => none

end Decimal

end RecordFilter
