import RecordFilter.Backend
import RecordFilter.Sql.Config
import RecordFilter.Sql.Quoting

/-!
# SQL conditions

The backend that writes a tree as the condition of a `WHERE` clause.  Criteria on
the elements of a collection are written inline, against the collection's name.
A group other than the root stands in parentheses when it has two terms or more.
-/

namespace RecordFilter.Sql

/-- The name of the backend in errors. -/
def backendName : String := "sql"

namespace Config

variable (config : Config)

/-- A name, quoted when the configuration asks for it. -/
def identifier (name : String) : String :=
  if config.quoteIdentifiers then quoteIdentifier name else name

/-- A column, with its parameter in front unless that is blank. -/
def column (parameter property : String) : String :=
  if Text.isBlankText parameter then config.identifier property
  else config.identifier parameter ++ "." ++ config.identifier property

/-- A single value as a literal. -/
def literal (value : Value) : Except FilterError String :=
  match value with
  | .null => .ok "NULL"
  | .bool b => .ok (if b then "TRUE" else "FALSE")
  | .int n => .ok (toString n.toInt)
  | .float x =>
    if x.isFinite then .ok (x.toText .plain)
    else .error (.unrenderableValue backendName ("the non-finite number " ++ x.toText .plain))
  | .decimal d => .ok d.toText
  | .text s => .ok (quoteString s)
  | .dateTime d =>
    match Pattern.format? config.datetimeFormat d with
    | some text => .ok (String.ofList ('\'' :: text ++ ['\'']))
    | none => .error (.invalidConfiguration
        ("'" ++ config.datetimeFormat ++ "' cannot format date-time " ++ d.toText ' '))
  | .uuid u => .ok ("'" ++ u.toText ++ "'")
  | .list _ => .error (.unrenderableValue backendName "a list as a single value")

/-- Literals joined by commas. -/
def literals (items : List Value) : Except FilterError String :=
  (items.mapM config.literal).map fun texts => ", ".intercalate texts

/-- The symbol of an operator that compares with a single value. -/
def symbol : Operator → String
  | .lessThan => "<"
  | .greaterThan => ">"
  | .lessThanOrEqual => "<="
  | .greaterThanOrEqual => ">="
  | _ => "="

/-- A comparison as a condition; an error names property and operator. -/
def comparison (criterion : Criterion) (parameter : String) : Except FilterError String :=
  let property := criterion.property.name
  let operator := criterion.operator
  let column := config.column parameter property
  let unsupported := FilterError.unsupportedOperator backendName operator property
  let located (result : Except FilterError String) : Except FilterError String :=
    result.mapError fun e => (e.withProperty property).withOperator operator
  match operator with
  | .contains =>
    match criterion.value.text? with
    | some text => .ok (column ++ " LIKE " ++ quoteString ("%" ++ text ++ "%"))
    | none => .error unsupported
  | .startsWith =>
    match criterion.value.text? with
    | some text => .ok (column ++ " LIKE " ++ quoteString (text ++ "%"))
    | none => .error unsupported
  | .among =>
    match criterion.value.items? with
    | some [] => .ok config.alwaysFalse
    | some items => (located (config.literals items)).map fun texts =>
        column ++ " IN (" ++ texts ++ ")"
    | none => .error unsupported
  | operator => (located (config.literal criterion.value)).map fun text =>
      column ++ " " ++ symbol operator ++ " " ++ text

/-- Parentheses around a group of two terms or more, except the root. -/
def formatGroup (scope : Scope) (condition : String) : String :=
  if scope.group.isRoot || scope.terms ≤ 1 then condition else "(" ++ condition ++ ")"

/-- The SQL backend; the empty text is its identity. -/
def backend : Backend String String String where
  identity := ""
  isIdentity condition := condition.isEmpty
  both left right := left ++ " AND " ++ right
  either left right := left ++ " OR " ++ right
  comparison := config.comparison
  parameter _ name := name
  elementParameter collection := collection.name
  anyElement _ _ condition _ := condition
  formatGroup := formatGroup
  finish condition _ := if condition.isEmpty then config.alwaysTrue else condition
  announce _ _ := []

end Config

end RecordFilter.Sql
