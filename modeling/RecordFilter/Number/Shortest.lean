import RecordFilter.Number.Binary64

/-!
# Shortest decimal text of a double

`Binary64.shortest` finds the fewest decimal digits that read back as the same
number.  A grid of `n` digits holds a point inside the rounding interval exactly
when one of the two grid points next to the number lies inside it, so it is
enough to test those two on ever finer grids; of two hits the nearer one wins, and
a `Tie` decides between two that are equally near.

How the digits are laid out is a separate decision, recorded as a `NumberLayout`.
-/

namespace RecordFilter

/-- A positive decimal `digits · 10 ^ exponent` without trailing zeros. -/
structure Shortest where
  digits : Nat
  exponent : Int
  deriving DecidableEq, Repr

namespace Shortest

/-- Which of two equally near neighbours is taken. -/
inductive Tie where
  | up
  | toEven
  deriving DecidableEq, Repr

/-- The neighbour taken when `lower` and `lower + 1` are equally near. -/
def Tie.choose : Tie → Nat → Nat
  | up, lower => lower + 1
  | toEven, lower => if lower % 2 = 0 then lower else lower + 1

/-- Moves trailing zeros of the digits into the exponent. -/
def strip : Nat → Nat → Int → Shortest
  | 0, digits, exponent => ⟨digits, exponent⟩
  | fuel + 1, digits, exponent =>
    if digits ≠ 0 ∧ digits % 10 = 0 then strip fuel (digits / 10) (exponent + 1)
    else ⟨digits, exponent⟩

/-- The decimal places that make the least positive double an integer part. -/
def scale : Nat := 400

/-- The grid point, of the two next to `value / unit` on the grid with spacing
    `step`, that lies within the rounding interval and is nearest.  All lengths
    are multiples of `1 / unit`. -/
def nearestOn (tie : Tie) (value below above unit step : Nat) (inclusive : Bool) : Option Nat :=
  let lower := value / (unit * step)
  let down := value - lower * (unit * step)
  let up := (lower + 1) * (unit * step) - value
  let within (distance limit : Nat) : Bool :=
    distance < limit || (inclusive && distance == limit)
  match within down below, within up above with
  | false, false => none
  | true, false => some lower
  | false, true => some (lower + 1)
  | true, true =>
    some (if down < up then lower else if up < down then lower + 1 else tie.choose lower)

end Shortest

namespace Binary64

/-- The fewest digits that read back as the positive number
    `significand · 2 ^ (exponent - 1074)`.  The number below a power of two is half
    as far away as the number above it. -/
def shortest (tie : Shortest.Tie) (significand exponent : Nat) : Shortest :=
  let half := 2 ^ exponent * 10 ^ Shortest.scale
  let value := 4 * significand * half
  let unit := 4 * 2 ^ 1074
  let below := if significand = 2 ^ 52 ∧ exponent ≠ 0 then half else 2 * half
  let size := (Nat.toDigits 10 (value / unit)).length
  let found := (List.range 17).findSome? fun n =>
    let step := size - (n + 1)
    (Shortest.nearestOn tie value below (2 * half) unit (10 ^ step)
      (significand % 2 = 0)).map fun digits => (digits, step)
  let (digits, step) := found.getD (value / unit, 0)
  Shortest.strip 20 digits ((step : Int) - Shortest.scale)

end Binary64

/-- How a number is laid out: the range of decimal exponents (of the first digit)
    that are written positionally, whether a whole number ends in `.0`, whether an
    exponent that is not negative has a sign, and how ties are settled. -/
structure NumberLayout where
  positionalFrom : Option Int
  positionalBelow : Option Int
  wholeMark : Bool
  plusSign : Bool
  tie : Shortest.Tie
  deriving DecidableEq, Repr

namespace NumberLayout

/-- Always positional, whole numbers bare, ties up. -/
def plain : NumberLayout := ⟨none, none, false, false, .up⟩

/-- Positional from `1e-4` up to `1e16`, whole numbers marked, ties up. -/
def descriptive : NumberLayout := ⟨some (-4), some 16, true, false, .up⟩

/-- Positional from `1e-5` up to `1e16`, whole numbers marked, exponents with their
    sign, ties to the even digit. -/
def interchange : NumberLayout := ⟨some (-5), some 16, true, true, .toEven⟩

/-- Whether a number whose first digit has this exponent is written positionally. -/
def isPositional (layout : NumberLayout) (leading : Int) : Bool :=
  (match layout.positionalFrom with
    | some least => decide (least ≤ leading)
    | none => true) &&
  (match layout.positionalBelow with
    | some limit => decide (leading < limit)
    | none => true)

/-- Writes digits with a point at the right place. -/
def positional (layout : NumberLayout) (digits : List Char) (exponent : Int) : List Char :=
  if 0 ≤ exponent then
    digits ++ List.replicate exponent.toNat '0' ++ (if layout.wholeMark then ['.', '0'] else [])
  else
    let places := (-exponent).toNat
    if places < digits.length then
      digits.take (digits.length - places) ++ '.' :: digits.drop (digits.length - places)
    else '0' :: '.' :: (List.replicate (places - digits.length) '0' ++ digits)

/-- Writes one digit before the point and the exponent after the mark `e`. -/
def scientific (layout : NumberLayout) (digits : List Char) (leading : Int) : List Char :=
  let mantissa := match digits with
    | first :: second :: rest => first :: '.' :: second :: rest
    | short => short
  let sign := if leading < 0 then ['-'] else if layout.plusSign then ['+'] else []
  mantissa ++ 'e' :: (sign ++ Nat.toDigits 10 leading.natAbs)

/-- The text of a magnitude. -/
def magnitude (layout : NumberLayout) (shortest : Shortest) : List Char :=
  let digits := Nat.toDigits 10 shortest.digits
  let leading : Int := shortest.exponent + digits.length - 1
  if shortest.digits = 0 then layout.positional ['0'] 0
  else if layout.isPositional leading then layout.positional digits shortest.exponent
  else layout.scientific digits leading

end NumberLayout

namespace Binary64

/-- The text of a number in a layout. -/
def toText (layout : NumberLayout) : Binary64 → String
  | .nan => "NaN"
  | .infinity negative => if negative then "-inf" else "inf"
  | .finite negative significand exponent _ =>
    let text := layout.magnitude
      (if significand = 0 then ⟨0, 0⟩ else shortest layout.tie significand exponent)
    String.ofList (if negative then '-' :: text else text)

end Binary64

end RecordFilter
