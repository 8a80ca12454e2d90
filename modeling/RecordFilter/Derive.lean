import RecordFilter.Derive.Attribute
import RecordFilter.Derive.Token.Reader
import RecordFilter.Derive.TypeExpr
import RecordFilter.Text.Words

/-!
# Deriving descriptors

`Declaration.derive` reads the declaration of a record type and gives the constants
that describe its fields: one for each field that is not skipped, a property or a
collection.  A constant is named for its field; the property's name follows the
naming convention of the declaration unless the field is renamed.

A declaration that cannot be described gives the first failure: those of the
declaration itself, then those of its fields in order, then a property name that
is used twice.
-/

namespace RecordFilter.Derive

open Text (Convention)

/-- What kind of type is declared. -/
inductive Shape where
  | namedFields
  | positionalFields
  | noFields
  /-- No record type at all. -/
  | other
  deriving DecidableEq, Repr

/-- A declared field. -/
structure Field where
  name : String
  type : List Token
  entries : List Entry
  deriving DecidableEq, Repr

/-- A declared type. -/
structure Declaration where
  name : String
  shape : Shape
  generics : List Token
  entries : List Entry
  fields : List Field
  deriving DecidableEq, Repr

/-- Why a declaration cannot be described. -/
inductive Failure where
  | generic
  | unnamedFields
  | noRecord
  | unsupportedEntry
  | unknownConvention (name : String)
  | vectorExpected
  | duplicateProperty (name : String)
  /-- An attribute that cannot be read. -/
  | malformed
  /-- No constant can be named for the field. -/
  | unnamable
  deriving DecidableEq, Repr

/-- The failure in words; one about the form of the text has no words of its own. -/
def Failure.message? : Failure → Option String
  | generic => some "Reflect derive does not support generic types"
  | unnamedFields => some "Reflect derive only supports structs with named fields"
  | noRecord => some "Reflect derive only supports structs"
  | unsupportedEntry => some "unsupported qof attribute"
  | unknownConvention name => some ("unknown naming convention '" ++ name ++ "'")
  | vectorExpected => some "#[qof(collection)] requires a Vec<T> field"
  | duplicateProperty name => some ("duplicate property name '" ++ name ++ "'")
  | malformed | unnamable => none

/-! ## Options -/

/-- The options of a declaration. -/
structure Options where
  convention : Convention
  /-- The path of the library in the generated text. -/
  library : List Token
  deriving DecidableEq, Repr

namespace Options

/-- The options in force when nothing is declared. -/
def default : Options := ⟨.pascal, [.pathSeparator, .word "qof".toList]⟩

/-- The convention with a name. -/
def convention? : String → Option Convention
  | "PascalCase" => some .pascal
  | "camelCase" => some .camel
  | "snake_case" => some .snake
  | "SCREAMING_SNAKE_CASE" => some .upperSnake
  | _ => none

/-- Reads the path of the library. -/
def readLibrary (path : String) : Except Failure (List Token) :=
  match (Token.ofText? path).bind PathExpr.ofTokens? with
  | some path => .ok path.tokens
  | none => .error .malformed

/-- Carries out an entry. -/
def apply (options : Options) : Entry → Except Failure Options
  | .named "rename_all" (some value) =>
    match value.content?, value.content?.bind convention? with
    | some _, some convention => .ok { options with convention := convention }
    | some name, none => .error (.unknownConvention name)
    | none, _ => .error .malformed
  | .named "crate" (some (.text path)) =>
    (readLibrary path).map fun tokens => { options with library := tokens }
  | .named "rename_all" _ | .named "crate" _ | .broken => .error .malformed
  | .named _ _ => .error .unsupportedEntry

/-- Reads the options of a declaration; of two entries of one name the last counts. -/
def ofEntries (entries : List Entry) : Except Failure Options :=
  entries.foldlM apply default

end Options

/-- The options of a field. -/
structure FieldOptions where
  skip : Bool
  collection : Bool
  property : String
  deriving DecidableEq, Repr

namespace FieldOptions

/-- Carries out an entry. -/
def apply (options : FieldOptions) : Entry → Except Failure FieldOptions
  | .named "skip" none => .ok { options with skip := true }
  | .named "collection" none => .ok { options with collection := true }
  | .named "rename" (some value) =>
    match value.content? with
    | some name => .ok { options with property := name }
    | none => .error .malformed
  | .named "skip" _ | .named "collection" _ | .named "rename" _ | .broken => .error .malformed
  | .named _ _ => .error .unsupportedEntry

/-- Reads the options of a field whose property has the given name until it is
    renamed. -/
def ofEntries (property : String) (entries : List Entry) : Except Failure FieldOptions :=
  entries.foldlM apply ⟨false, false, property⟩

end FieldOptions

/-! ## Constants -/

/-- What a constant describes. -/
inductive Role where
  | property (type : List Token)
  | collection (element : List Token)
  deriving DecidableEq, Repr

/-- Whether a constant describes a property. -/
def Role.isProperty : Role → Bool
  | property _ => true
  | collection _ => false

/-- A generated constant. -/
structure Constant where
  name : String
  /-- The field that is read. -/
  field : String
  property : String
  role : Role
  deriving DecidableEq, Repr

/-- The name of a field without the mark of a raw name. -/
def plainName (name : String) : String :=
  match name.toList with
  | 'r' :: '#' :: rest => String.ofList rest
  | _ => name

/-- The text that the constant for a field is named. -/
def Field.constantText (field : Field) : String :=
  Convention.upperSnake.apply (plainName field.name)

/-- The name of the constant for a field, where its text is an identifier. -/
def constantName (field : Field) : Except Failure String :=
  if Text.isIdentifier field.constantText.toList then .ok field.constantText
  else .error .unnamable

/-- What the constant of a field describes. -/
def role (field : Field) (options : FieldOptions) : Except Failure Role :=
  let type? := TypeExpr.ofTokens? field.type
  if options.collection then
    match type?.bind TypeExpr.vectorElement? with
    | some element => .ok (.collection element)
    | none => .error .vectorExpected
  else .ok (.property (type?.elim field.type TypeExpr.tokens))

/-- The constant for a field; a skipped field has none. -/
def Field.constant? (convention : Convention) (field : Field) :
    Except Failure (Option Constant) := do
  let name ← constantName field
  let options ← FieldOptions.ofEntries (convention.apply (plainName field.name)) field.entries
  if options.skip then return none
  else return some ⟨name, field.name, options.property, ← role field options⟩

/-- The first name that occurs a second time. -/
def repeated? (seen : List String) : List String → Option String
  | [] => none
  | name :: rest => if seen.contains name then some name else repeated? (name :: seen) rest

/-- The constants of a type, in the order of the fields. -/
structure Derivation where
  owner : String
  library : List Token
  constants : List Constant
  deriving DecidableEq, Repr

/-- Whether the type takes parameters; empty angle brackets hold none, and conditions
    without angle brackets are none. -/
def Declaration.isGeneric (declaration : Declaration) : Bool :=
  match declaration.generics with
  | .symbol ['<'] :: next :: _ => next != .greater
  | _ => false

/-- Refuses a type that takes parameters or has no named fields. -/
def Declaration.checkShape (declaration : Declaration) : Except Failure Unit :=
  if declaration.isGeneric then .error .generic
  else match declaration.shape with
    | .other => .error .noRecord
    | .positionalFields | .noFields => .error .unnamedFields
    | .namedFields => .ok ()

/-- Refuses constants of which two describe one property. -/
def checkNames (constants : List Constant) : Except Failure Unit :=
  match repeated? [] (constants.map Constant.property) with
  | some name => .error (.duplicateProperty name)
  | none => .ok ()

/-- The descriptors of a declared type. -/
def Declaration.derive (declaration : Declaration) : Except Failure Derivation := do
  declaration.checkShape
  let options ← Options.ofEntries declaration.entries
  let constants ← declaration.fields.mapM (Field.constant? options.convention)
  let constants := constants.filterMap id
  checkNames constants
  return ⟨declaration.name, options.library, constants⟩

namespace Derivation

/-- A name of the library in the generated text. -/
def libraryName (derivation : Derivation) (name : String) : String :=
  sourceOf derivation.library ++ "::" ++ name

/-- The trait that is implemented. -/
def trait (derivation : Derivation) : String := derivation.libraryName "Reflect"

/-- The constants listed as the properties of the type. -/
def listed (derivation : Derivation) : List String :=
  (derivation.constants.filter (·.role.isProperty)).map fun constant =>
    derivation.owner ++ "::" ++ constant.name

/-- The type of a constant. -/
def typeOf (derivation : Derivation) (constant : Constant) : String :=
  match constant.role with
  | .property _ => derivation.libraryName "Property" ++ "<" ++ derivation.owner ++ ">"
  | .collection element =>
    derivation.libraryName "CollectionProperty" ++ "<" ++ derivation.owner ++ "," ++
      sourceOf element ++ ">"

end Derivation

/-- The documentation of a constant. -/
def Constant.doc (constant : Constant) : String :=
  "The `" ++ constant.property ++ "` " ++
    (if constant.role.isProperty then "property." else "collection.")

/-- The type that gives a property its kind. -/
def Constant.kindOf? (constant : Constant) : Option String :=
  match constant.role with
  | .property type => some (sourceOf type)
  | .collection _ => none

end RecordFilter.Derive
