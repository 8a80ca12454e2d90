import RecordFilter.Operator

/-!
# Errors

An error has a code for programs, a message for people and a context that names
the type, property and operator it is about.  The constructors at the end are the
causes the library knows; each fixes code, wording and context.
-/

namespace RecordFilter

/-- What kind of fault an error is. -/
inductive ErrorCode where
  | invalidProperty
  | invalidCriterion
  | invalidOperator
  | unsupportedOperator
  | unrenderableValue
  | invalidConfiguration
  | internal
  deriving DecidableEq, Repr

namespace ErrorCode

/-- Every code: faults of building, of compiling, of configuration, and internal
    ones, each group with a thousand of its own. -/
def all : List ErrorCode :=
  [invalidProperty, invalidCriterion, invalidOperator, unsupportedOperator, unrenderableValue,
    invalidConfiguration, internal]

/-- The number of a code. -/
def number : ErrorCode → Nat
  | invalidProperty => 1001
  | invalidCriterion => 1002
  | invalidOperator => 1003
  | unsupportedOperator => 2001
  | unrenderableValue => 2002
  | invalidConfiguration => 7001
  | internal => 9001

/-- The code as text. -/
def code (code : ErrorCode) : String :=
  "Q" ++ toString code.number

/-- The code with a text. -/
def ofCode? (text : String) : Option ErrorCode :=
  all.find? (·.code == text)

/-- A short description. -/
def description : ErrorCode → String
  | invalidProperty => "Unknown property"
  | invalidCriterion => "Invalid criterion"
  | invalidOperator => "Unknown operator"
  | unsupportedOperator => "Unsupported operator"
  | unrenderableValue => "Unrenderable value"
  | invalidConfiguration => "Invalid configuration"
  | internal => "Internal error"

/-- Whether the fault lies in building a tree. -/
def isBuildError (code : ErrorCode) : Bool :=
  1000 ≤ code.number && code.number < 2000

/-- Every code reads back. -/
@[simp]
theorem ofCode?_code (code : ErrorCode) : ofCode? code.code = some code := by
  cases code <;> decide

end ErrorCode

/-- An error raised while building or compiling a tree, or while configuring. -/
structure FilterError where
  code : ErrorCode
  message : String
  /-- What was being done. -/
  operation : Option String
  typeName : Option String
  property : Option String
  operator : Option Operator
  suggestions : List String
  help : Option String
  /-- The message of the error that caused this one. -/
  source : Option String
  deriving DecidableEq, Repr

namespace FilterError

/-- An error without context. -/
def plain (code : ErrorCode) (message : String) : FilterError :=
  ⟨code, message, none, none, none, none, [], none, none⟩

/-- Names what was being done. -/
def withOperation (operation : String) (e : FilterError) : FilterError :=
  { e with operation := some operation }

/-- Adds a suggestion after the others. -/
def withSuggestion (suggestion : String) (e : FilterError) : FilterError :=
  { e with suggestions := e.suggestions ++ [suggestion] }

/-- Sets the help text. -/
def withHelp (help : String) (e : FilterError) : FilterError :=
  { e with help := some help }

/-- Names the type. -/
def withType (typeName : String) (e : FilterError) : FilterError :=
  { e with typeName := some typeName }

/-- Names the property. -/
def withProperty (property : String) (e : FilterError) : FilterError :=
  { e with property := some property }

/-- Names the operator. -/
def withOperator (operator : Operator) (e : FilterError) : FilterError :=
  { e with operator := some operator }

/-- Names the cause. -/
def withSource (source : String) (e : FilterError) : FilterError :=
  { e with source := some source }

/-- Code and message on one line. -/
def toText (e : FilterError) : String :=
  "[" ++ e.code.code ++ "] " ++ e.message

/-- A line of context, when there is something to say. -/
def contextLine (title : String) : Option String → String
  | some text => "  → " ++ title ++ ": " ++ text ++ "\n"
  | none => ""

/-- Numbered lines, counted from `first`. -/
def numbered (first : Nat) : List String → String
  | [] => ""
  | line :: rest => "  " ++ toString first ++ ". " ++ line ++ "\n" ++ numbered (first + 1) rest

/-- The whole error with its context, suggestions and help. -/
def report (e : FilterError) : String :=
  "Error [" ++ e.code.code ++ "]: " ++ e.message ++ "\n" ++
    contextLine "While" e.operation ++ contextLine "Type" e.typeName ++
    contextLine "Property" e.property ++ contextLine "Operator" (e.operator.map Operator.code) ++
    (if e.suggestions.isEmpty then "" else "\nSuggestions:\n" ++ numbered 1 e.suggestions) ++
    (match e.help with
      | some help => "\nHelp: " ++ help ++ "\n"
      | none => "")

/-! ## Causes -/

/-- A name that is no property of the type. -/
def invalidProperty (typeName property : String) : FilterError :=
  plain .invalidProperty (typeName ++ " has no property named '" ++ property ++ "'")
    |>.withType typeName
    |>.withProperty property
    |>.withSuggestion "Check the spelling against the names declared by #[derive(Reflect)]"
    |>.withHelp "Collection properties are not part of the scalar property list"

/-- An operator that cannot be applied, with the reason in words. -/
def invalidCriterion (property : String) (operator : Operator) (reason : String) : FilterError :=
  plain .invalidCriterion
      ("Cannot apply " ++ operator.code ++ " to property '" ++ property ++ "': " ++ reason)
    |>.withProperty property
    |>.withOperator operator

/-- A code that names no operator. -/
def invalidOperator (code : String) : FilterError :=
  plain .invalidOperator ("'" ++ code ++ "' is not a comparison operator")
    |>.withSuggestion ("Use one of: " ++ ", ".intercalate (Operator.all.map Operator.code))

/-- A comparison that a backend cannot express. -/
def unsupportedOperator (backend : String) (operator : Operator) (property : String) :
    FilterError :=
  plain .unsupportedOperator
      ("Comparison " ++ operator.code ++ " on '" ++ property ++ "' is not supported by the " ++
        backend ++ " backend")
    |>.withProperty property
    |>.withOperator operator
    |>.withHelp "This is a gap in the rendering backend, not in the criteria"

/-- A value without a literal form in a backend. -/
def unrenderableValue (backend reason : String) : FilterError :=
  plain .unrenderableValue ("The " ++ backend ++ " backend cannot render " ++ reason)

/-- A configuration that cannot be used. -/
def invalidConfiguration (message : String) : FilterError :=
  plain .invalidConfiguration ("Invalid configuration: " ++ message)

/-- A state the library does not reach. -/
def internal (message : String) : FilterError :=
  plain .internal ("Internal error: " ++ message)

end FilterError

/-- Reads the code of an operator. -/
def Operator.parse (code : String) : Except FilterError Operator :=
  match ofCode? code with
  | some operator => .ok operator
  | none => .error (.invalidOperator code)

end RecordFilter
