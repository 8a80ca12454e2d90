import RecordFilter.Value

/-!
# Operators

An `Operator` compares a property with a value; a `GroupOperator` combines the
members of a group.  `Operator.accepts` says which comparisons can be recorded,
and names the reason when one cannot.
-/

namespace RecordFilter

/-- How a property is compared with a value. -/
inductive Operator where
  | equal
  | lessThan
  | greaterThan
  | lessThanOrEqual
  | greaterThanOrEqual
  /-- The text contains the value. -/
  | contains
  /-- The text starts with the value. -/
  | startsWith
  /-- The property is one of the listed values. -/
  | among
  deriving DecidableEq, Repr

/-- Why an operator cannot compare a property with a value. -/
inductive Refusal where
  | nestedList
  | itemKind
  | listExpected
  | textPropertyExpected
  | textValueExpected
  | singleExpected
  | unorderedBool
  | valueKind
  deriving DecidableEq, Repr

/-- The reason in words. -/
def Refusal.message : Refusal → String
  | nestedList => "list items must be single values"
  | itemKind => "list items do not match the property type"
  | listExpected => "expected a list value"
  | textPropertyExpected => "pattern operators need a text property"
  | textValueExpected => "pattern operators need a string value"
  | singleExpected => "expected a single value, not a list"
  | unorderedBool => "booleans have no ordering"
  | valueKind => "value does not match the property type"

namespace Operator

/-- Every operator, in declaration order. -/
def all : List Operator :=
  [equal, lessThan, greaterThan, lessThanOrEqual, greaterThanOrEqual, contains, startsWith, among]

/-- Stable textual code. -/
def code : Operator → String
  | equal => "Equal"
  | lessThan => "LessThan"
  | greaterThan => "GreaterThan"
  | lessThanOrEqual => "LessThanOrEqual"
  | greaterThanOrEqual => "GreaterThanOrEqual"
  | contains => "Contains"
  | startsWith => "StartsWith"
  | among => "In"

/-- The operator with a code, whatever the case of its ASCII letters. -/
def ofCode? (code : String) : Option Operator :=
  all.find? fun operator =>
    operator.code.toList.map Char.toLower == code.toList.map Char.toLower

/-- Whether this is one of the text pattern operators. -/
def isPattern (operator : Operator) : Bool := operator = contains || operator = startsWith

/-- Whether this operator asks for an order. -/
def isOrdering (operator : Operator) : Bool :=
  operator = lessThan || operator = greaterThan || operator = lessThanOrEqual ||
    operator = greaterThanOrEqual

/-- The operator used when none is chosen: text is searched, all else is compared
    for equality. -/
def defaultFor (kind : Kind) : Operator :=
  if kind.isText then contains else equal

/-- Whether the operator can compare a property of the kind with the value.  The
    value must have the property's kind, numbers of any kind being alike. -/
def accepts (operator : Operator) (kind : Kind) (value : Value) : Except Refusal Unit :=
  match operator with
  | among =>
    match value with
    | .list items =>
      if items.any Value.isList then .error .nestedList
      else if items.all kind.admits then .ok ()
      else .error .itemKind
    | _ => .error .listExpected
  | contains | startsWith =>
    if kind ≠ .text ∧ kind ≠ .any then .error .textPropertyExpected
    else if value.text?.isNone then .error .textValueExpected
    else .ok ()
  | operator =>
    if value.isList then .error .singleExpected
    else if operator.isOrdering ∧ value.isBool then .error .unorderedBool
    else if kind.admits value then .ok ()
    else .error .valueKind

/-- Every code names its operator. -/
@[simp]
theorem ofCode?_code (operator : Operator) : ofCode? operator.code = some operator := by
  cases operator <;> decide

end Operator

/-- How the members of a group are combined. -/
inductive GroupOperator where
  /-- Every member must hold. -/
  | and
  /-- At least one member must hold. -/
  | or
  deriving DecidableEq, Repr

namespace GroupOperator

/-- Stable textual code. -/
def code : GroupOperator → String
  | and => "And"
  | or => "Or"

/-- The operator with a code. -/
def ofCode? (code : String) : Option GroupOperator :=
  [GroupOperator.and, .or].find? (·.code == code)

/-- Every code names its operator. -/
@[simp]
theorem ofCode?_code (operator : GroupOperator) : ofCode? operator.code = some operator := by
  cases operator <;> decide

end GroupOperator

end RecordFilter
