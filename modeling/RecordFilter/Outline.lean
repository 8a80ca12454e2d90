import RecordFilter.Backend

/-!
# Outlines

A backend that shows how a tree is compiled: nested prefix terms with a mark for
every group that is formatted.  Some comparisons can be made to fail or to drop
out, which shows how the compiler deals with them.
-/

namespace RecordFilter

/-- What an outline does with some of the comparisons. -/
structure Outline where
  /-- Properties whose comparisons drop out. -/
  dropped : List String
  /-- A property whose comparisons fail. -/
  failing : Option String
  /-- Whether a collection is shown when all its comparisons drop out. -/
  keepsEmpty : Bool

namespace Outline

/-- The name of the backend in errors. -/
def backendName : String := "sexpr"

/-- A prefix term of two conditions, none of them missing. -/
def term (name : String) (left right : Option String) : Option String :=
  some ("(" ++ name ++ " " ++ left.getD "" ++ " " ++ right.getD "" ++ ")")

/-- A comparison. -/
def comparison (outline : Outline) (criterion : Criterion) (parameter : String) :
    Except FilterError (Option String) :=
  let property := criterion.property.name
  if outline.failing = some property then
    .error (.unsupportedOperator backendName criterion.operator property)
  else if outline.dropped.contains property then .ok none
  else .ok (some ("(" ++ criterion.operator.code ++ " " ++ parameter ++ "." ++ property ++ ")"))

/-- Some element of a collection satisfies a condition. -/
def anyElement (outline : Outline) (outer : String) (collection : Collection)
    (condition : Option String) : Option String :=
  if condition.isNone && !outline.keepsEmpty then none
  else some ("(exists " ++ outer ++ "." ++ collection.name ++ " " ++ condition.getD "any" ++ ")")

/-- The mark of a group before its condition. -/
def formatGroup (scope : Scope) (condition : Option String) : Option String :=
  let place := if scope.group.isRoot then "root" else "group"
  condition.map fun text =>
    "[" ++ place ++ groupName scope.group.id ++ ":" ++ scope.group.operator.code ++ ":" ++
      toString scope.terms ++ "]" ++ text

/-- The outline backend. -/
def backend (outline : Outline) : Backend (Option String) String String where
  identity := none
  isIdentity := Option.isNone
  both := term "and"
  either := term "or"
  comparison := outline.comparison
  parameter _ name := name
  elementParameter collection := "e." ++ collection.name
  anyElement outer collection condition _ := outline.anyElement outer collection condition
  formatGroup := formatGroup
  finish condition _ := condition.getD "true"
  announce _ _ := []

end Outline

end RecordFilter
