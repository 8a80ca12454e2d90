import RecordFilter.Number.Decimal
import RecordFilter.Time.DateTime
import RecordFilter.Uuid

/-!
# Values and kinds

A `Value` is what a criterion compares a property with, and what a property reads
from a record.  `null` stands for an absent value.  A `Kind` is declared for a
property; `Kind.admits` says which values a property of that kind can be compared
with.
-/

namespace RecordFilter

/-- A filter value. -/
inductive Value where
  | null
  | bool (value : Bool)
  | int (value : Int64)
  | float (value : Binary64)
  | decimal (value : Decimal)
  | text (value : String)
  | dateTime (value : DateTime)
  | uuid (value : Uuid)
  | list (items : List Value)

/-- Declared kind of a property. -/
inductive Kind where
  | bool
  | int
  | float
  | decimal
  | text
  | dateTime
  | uuid
  | list
  /-- Known only from the value itself. -/
  | any
  deriving DecidableEq, Repr

namespace Kind

/-- Every kind, in declaration order. -/
def all : List Kind := [bool, int, float, decimal, text, dateTime, uuid, list, any]

/-- The name of a kind. -/
def name : Kind → String
  | bool => "Bool"
  | int => "Int"
  | float => "Float"
  | decimal => "Decimal"
  | text => "Text"
  | dateTime => "DateTime"
  | uuid => "Uuid"
  | list => "List"
  | any => "Any"

/-- The kind with a name. -/
def ofName? (name : String) : Option Kind :=
  all.find? (·.name == name)

/-- Whether the kind is text. -/
def isText (kind : Kind) : Bool := kind = text

/-- Whether values of the kind are numbers. -/
def isNumeric (kind : Kind) : Bool := kind = int || kind = float || kind = decimal

/-- Every name names its kind. -/
@[simp]
theorem ofName?_name (kind : Kind) : ofName? kind.name = some kind := by
  cases kind <;> decide

end Kind

namespace Value

/-- Whether this is the absent value. -/
def isNull : Value → Bool
  | null => true
  | _ => false

/-- Whether this is a list. -/
def isList : Value → Bool
  | list _ => true
  | _ => false

/-- Whether this is a truth value. -/
def isBool : Value → Bool
  | bool _ => true
  | _ => false

/-- The text, if this is one. -/
def text? : Value → Option String
  | text value => some value
  | _ => none

/-- The items, if this is a list. -/
def items? : Value → Option (List Value)
  | list items => some items
  | _ => none

/-- The kind the value naturally has; none for the absent value. -/
def kind? : Value → Option Kind
  | null => none
  | bool _ => some .bool
  | int _ => some .int
  | float _ => some .float
  | decimal _ => some .decimal
  | text _ => some .text
  | dateTime _ => some .dateTime
  | uuid _ => some .uuid
  | list _ => some .list

/-- Whether this is a number of any kind. -/
def isNumeric (value : Value) : Bool :=
  match value.kind? with
  | some kind => kind.isNumeric
  | none => false

end Value

/-- Whether a property of this kind can be compared with the value.  Numbers
    compare across their kinds, properties of kind `list` and `any` take every
    value, and the absent value is admitted everywhere. -/
def Kind.admits (kind : Kind) (value : Value) : Bool :=
  match value.kind? with
  | none => true
  | some other =>
    kind == .list || kind == .any || other == kind || (other.isNumeric && kind.isNumeric)

end RecordFilter
