/-!
# Double-precision numbers

A finite number is `± significand · 2 ^ (exponent - 1074)`.  Keeping the parts as
integers makes every comparison and every rounding exact, so statements about
numbers are statements about integers.

`roundRatio` turns an exact ratio of integers into the nearest number of a
binary format; reading decimal text and converting integers and decimals go
through it.
-/

-- Powers of whole numbers are those of the core library, whatever else a module imports.
attribute [instance (2000)] instPowNat
attribute [default_instance 20000] instPowNat

namespace RecordFilter

namespace Binary64

/-- Limits of a binary format: bits of the significand, and the range of the
    exponent in steps above `2 ^ (-1074)`. -/
structure Precision where
  bits : Nat
  least : Nat
  greatest : Nat
  deriving DecidableEq, Repr

/-- The limits of a double. -/
def double : Precision := ⟨53, 0, 2045⟩

/-- The limits of a single, measured in the exponent steps of a double. -/
def single : Precision := ⟨24, 925, 1178⟩

/-- A significand and an exponent are canonical when the exponent is the least
    one that leaves the significand within 53 bits. -/
def Canonical (significand exponent : Nat) : Prop :=
  significand < 2 ^ 53 ∧ exponent ≤ 2045 ∧ (exponent = 0 ∨ 2 ^ 52 ≤ significand)

instance (significand exponent : Nat) : Decidable (Canonical significand exponent) :=
  inferInstanceAs (Decidable (_ ∧ _ ∧ _))

end Binary64

/-- A double-precision number.  There is one value for "not a number". -/
inductive Binary64 where
  | nan
  | infinity (negative : Bool)
  | finite (negative : Bool) (significand exponent : Nat)
      (canonical : Binary64.Canonical significand exponent)
  deriving DecidableEq, Repr

namespace Binary64

/-- Positive or negative zero. -/
def zero (negative : Bool) : Binary64 :=
  .finite negative 0 0 ⟨by decide, by decide, .inl rfl⟩

/-- The number with these parts; parts that are not canonical stand for a
    magnitude beyond the greatest double. -/
def ofParts (negative : Bool) (significand exponent : Nat) : Binary64 :=
  if canonical : Canonical significand exponent then
    .finite negative significand exponent canonical
  else .infinity negative

/-- Whether the number is neither infinite nor "not a number". -/
def isFinite : Binary64 → Bool
  | .finite .. => true
  | _ => false

/-- Position on the number line in units of `2 ^ (-1074)`.  The infinities stand
    beyond every finite number and "not a number" has no position. -/
def position : Binary64 → Option Int
  | .nan => none
  | .infinity negative => some (if negative then -(2 ^ 2098 : Int) else 2 ^ 2098)
  | .finite negative significand exponent _ =>
    let magnitude : Int := (significand * 2 ^ exponent : Nat)
    some (if negative then -magnitude else magnitude)

/-- Order on the number line; undefined exactly when a side is "not a number". -/
def order (left right : Binary64) : Option Ordering :=
  match left.position, right.position with
  | some l, some r => some (compare l r)
  | _, _ => none

/-- `numerator / denominator` rounded to the nearest integer, a half to the even
    neighbour. -/
def roundHalfEven (numerator denominator : Nat) : Nat :=
  let quotient := numerator / denominator
  let twice := 2 * (numerator % denominator)
  if denominator < twice ∨ (twice = denominator ∧ quotient % 2 = 1) then quotient + 1
  else quotient

/-- Doubles the significand until it fills 53 bits or the exponent is used up. -/
def normalize (negative : Bool) (significand exponent : Nat) : Binary64 :=
  let shift := min exponent (52 - Nat.log2 significand)
  ofParts negative (significand * 2 ^ shift) (exponent - shift)

/-- The number for a rounded significand.  One that was rounded up to a power of two
    beyond the format's bits is halved; beyond the greatest exponent it is infinite. -/
def ofRounded (precision : Precision) (negative : Bool) (rounded exponent : Nat) : Binary64 :=
  let (significand, exponent) :=
    if rounded = 2 ^ precision.bits then (2 ^ (precision.bits - 1), exponent + 1)
    else (rounded, exponent)
  if precision.greatest < exponent then .infinity negative
  else if significand = 0 then zero negative
  else normalize negative significand exponent

/-- The number of the given precision nearest to `numerator / denominator`, ties
    to the even significand. -/
def roundRatio (precision : Precision) (negative : Bool) (numerator denominator : Nat) :
    Binary64 :=
  let units := numerator * 2 ^ 1074
  let exponent := max precision.least (Nat.log2 (units / denominator) + 1 - precision.bits)
  ofRounded precision negative (roundHalfEven units (denominator * 2 ^ exponent)) exponent

/-- The nearest double to an integer. -/
def ofInt (n : Int) : Binary64 :=
  roundRatio double (n < 0) n.natAbs 1

/-- The nearest double to `mantissa · 10 ^ exponent`.  Magnitudes far outside the
    range of a double are settled from their number of digits alone. -/
def ofScientific (negative : Bool) (mantissa : Nat) (exponent : Int) : Binary64 :=
  let size : Int := (Nat.toDigits 10 mantissa).length + exponent
  if mantissa = 0 ∨ size < -400 then zero negative
  else if 400 < size then .infinity negative
  else if 0 ≤ exponent then roundRatio double negative (mantissa * 10 ^ exponent.toNat) 1
  else roundRatio double negative mantissa (10 ^ (-exponent).toNat)

/-- The nearest single-precision number, as a double. -/
def toSingle : Binary64 → Binary64
  | .nan => .nan
  | .infinity negative => .infinity negative
  | .finite negative significand exponent _ =>
    roundRatio single negative (significand * 2 ^ exponent) (2 ^ 1074)

/-- Reads the exponent that may follow the digits of a number. -/
def readExponent : List Char → Option Int
  | [] => some 0
  | mark :: rest =>
    if mark = 'e' ∨ mark = 'E' then
      let (negative, digits) := match rest with
        | '-' :: digits => (true, digits)
        | '+' :: digits => (false, digits)
        | digits => (false, digits)
      if digits.isEmpty ∨ !digits.all Char.isDigit then none
      else
        let value : Int := Nat.ofDigitChars 10 digits 0
        some (if negative then -value else value)
    else none

/-- Reads unsigned decimal text: digits with an optional point and an optional
    exponent, or a word for an infinity or for "not a number". -/
def readUnsigned (negative : Bool) (text : List Char) : Option Binary64 :=
  let word := text.map Char.toLower
  if word = "nan".toList then some .nan
  else if word = "inf".toList ∨ word = "infinity".toList then some (.infinity negative)
  else
    let whole := text.takeWhile Char.isDigit
    let (fraction, rest) := match text.dropWhile Char.isDigit with
      | '.' :: rest => (rest.takeWhile Char.isDigit, rest.dropWhile Char.isDigit)
      | rest => ([], rest)
    if whole.isEmpty ∧ fraction.isEmpty then none
    else (readExponent rest).map fun exponent =>
      ofScientific negative (Nat.ofDigitChars 10 (whole ++ fraction) 0)
        (exponent - fraction.length)

/-- Reads decimal text as the nearest double. -/
def ofText? (text : String) : Option Binary64 :=
  match text.toList with
  | '-' :: rest => readUnsigned true rest
  | '+' :: rest => readUnsigned false rest
  | rest => readUnsigned false rest

end Binary64

end RecordFilter
