import RecordFilter.Operator

/-!
# Comparison of values

`Value.order` is the partial order that evaluation uses: numbers compare across
their kinds, texts, date-times and identifiers within their own.  `Value.same` is
equality as a criterion sees it and `Value.identical` equality of recorded values,
where kinds never mix.  `Operator.holds` applies an operator to the value read
from a record and the value of a criterion.
-/

namespace RecordFilter

namespace Value

/-- Order of a double and a decimal: through the decimal that stands for the
    double, or as doubles when there is none. -/
def orderFloatDecimal (x : Binary64) (d : Decimal) : Option Ordering :=
  match Decimal.ofBinary64? x with
  | some approximation => some (approximation.order d)
  | none => x.order d.toBinary64

/-- Order of a decimal and a double, by the same rule. -/
def orderDecimalFloat (d : Decimal) (x : Binary64) : Option Ordering :=
  match Decimal.ofBinary64? x with
  | some approximation => some (d.order approximation)
  | none => d.toBinary64.order x

/-- Order of two values; none when they cannot be compared. -/
def order : Value → Value → Option Ordering
  | int a, int b => some (compare a.toInt b.toInt)
  | decimal a, decimal b => some (a.order b)
  | int a, decimal b => some ((Decimal.ofInt64 a).order b)
  | decimal a, int b => some (a.order (Decimal.ofInt64 b))
  | float a, float b => a.order b
  | float a, int b => a.order (Binary64.ofInt b.toInt)
  | int a, float b => (Binary64.ofInt a.toInt).order b
  | float a, decimal b => orderFloatDecimal a b
  | decimal a, float b => orderDecimalFloat a b
  | text a, text b => some (compare a b)
  | dateTime a, dateTime b => some (a.order b)
  | uuid a, uuid b => some (a.order b)
  | _, _ => none

mutual

/-- Whether two values are of one kind and equal.  Decimals and doubles compare
    by number, so "not a number" differs from itself. -/
def identical : Value → Value → Bool
  | null, null => true
  | bool a, bool b => a == b
  | int a, int b => a == b
  | float a, float b => a.order b == some .eq
  | decimal a, decimal b => a.order b == .eq
  | text a, text b => a == b
  | dateTime a, dateTime b => a == b
  | uuid a, uuid b => a == b
  | list as, list bs => identicalLists as bs
  | _, _ => false

/-- Whether two lists hold identical values in the same places. -/
def identicalLists : List Value → List Value → Bool
  | [], [] => true
  | a :: as, b :: bs => identical a b && identicalLists as bs
  | _, _ => false

end

/-- Equality as a criterion sees it: the absent value equals nothing, and numbers
    compare across their kinds. -/
def same (left right : Value) : Bool :=
  if left.isNull || right.isNull then false
  else if left.isNumeric && right.isNumeric then left.order right == some .eq
  else left.identical right

end Value

/-- Whether a text occurs within another, letter case counting. -/
def textContains (needle : List Char) : List Char → Bool
  | [] => needle.isEmpty
  | c :: rest => needle.isPrefixOf (c :: rest) || textContains needle rest

/-- Applies a text test to two values that are texts. -/
def Value.bothTexts (test : List Char → List Char → Bool) (actual expected : Value) : Bool :=
  match actual.text?, expected.text? with
  | some subject, some needle => test needle.toList subject.toList
  | _, _ => false

/-- Whether the value read from a record stands in the operator's relation to the
    value of a criterion.  An absent value never does. -/
def Operator.holds (operator : Operator) (actual expected : Value) : Bool :=
  !actual.isNull &&
    match operator with
    | .equal => actual.same expected
    | .lessThan => actual.order expected == some .lt
    | .greaterThan => actual.order expected == some .gt
    | .lessThanOrEqual => actual.order expected == some .lt || actual.order expected == some .eq
    | .greaterThanOrEqual => actual.order expected == some .gt || actual.order expected == some .eq
    | .contains => Value.bothTexts textContains actual expected
    | .startsWith => Value.bothTexts List.isPrefixOf actual expected
    | .among => match expected.items? with
      | some items => items.any fun item => actual.same item
      | none => false

end RecordFilter
