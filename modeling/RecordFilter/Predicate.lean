import RecordFilter.Backend
import RecordFilter.Predicate.Condition
import RecordFilter.Text.CaseMap
import RecordFilter.Value.Display

/-!
# Predicates

The backend that compiles a tree into a test on records.  A criterion on the
elements of a collection holds when some element satisfies it, and a property
whose value is absent on a record fails every comparison.
-/

namespace RecordFilter

/-- The record, or the element of a collection, that a condition is tested on. -/
structure Binding where
  name : String
  typeName : String
  deriving DecidableEq, Repr

/-- A compiled tree that tests records. -/
structure Predicate where
  condition : Condition Record
  parameter : Binding

namespace Predicate

/-- Whether a record satisfies the tree. -/
def isMatch (predicate : Predicate) (record : Record) : Bool :=
  predicate.condition.evaluate record

/-- The records that satisfy the tree, in order. -/
def keep (predicate : Predicate) (records : List Record) : List Record :=
  records.filter predicate.isMatch

/-- The positions of the records that satisfy the tree. -/
def positions (predicate : Predicate) (records : List Record) : List Nat :=
  (records.zipIdx.filter fun (record, _) => predicate.isMatch record).map (·.2)

/-- Whether every record satisfies the tree because no criterion applies. -/
def isAlways (predicate : Predicate) : Bool := predicate.condition.isAlways

/-- Parameter and label. -/
def toText (predicate : Predicate) : String :=
  predicate.parameter.name ++ " => " ++ predicate.condition.label

/-- The name of the backend in errors. -/
def backendName : String := "predicate"

/-- Whether the value has the shape that the operator compares with. -/
def hasShape (operator : Operator) (value : Value) : Bool :=
  match operator with
  | .among => value.isList
  | .contains | .startsWith => value.text?.isSome
  | _ => !value.isList

/-- A comparison as a condition. -/
def comparison (criterion : Criterion) (parameter : Binding) :
    Except FilterError (Condition Record) :=
  if hasShape criterion.operator criterion.value then
    .ok (.test
      (parameter.name ++ "." ++ criterion.property.name ++ " " ++ criterion.operator.code ++ " " ++
        criterion.value.shown)
      criterion.holds)
  else .error (.unsupportedOperator backendName criterion.operator criterion.property.name)

/-- Some element of a collection satisfies a condition. -/
def anyElement (outer : Binding) (collection : Collection) (condition : Condition Record)
    (inner : Binding) : Condition Record :=
  .test
    (outer.name ++ "." ++ collection.name ++ ".any(" ++ inner.name ++ " => " ++ condition.label ++ ")")
    fun record => (collection.items record).any condition.evaluate

/-- The predicate backend. -/
def backend : Backend (Condition Record) Binding Predicate where
  identity := .always
  isIdentity := Condition.isAlways
  both := Condition.and
  either := Condition.or
  comparison := comparison
  parameter typeName name := ⟨name, typeName⟩
  elementParameter collection :=
    ⟨String.ofList (Text.lowercase collection.name.toList), collection.element⟩
  anyElement := anyElement
  formatGroup _ condition := condition
  finish condition parameter := ⟨condition, parameter⟩
  announce condition parameter := [.predicateBuilt parameter.name condition.isAlways]

end Predicate

end RecordFilter
