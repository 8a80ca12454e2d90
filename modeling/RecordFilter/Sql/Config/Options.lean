import RecordFilter.Json.Reader
import RecordFilter.Sql.Config

/-!
# Configuration by named options

A configuration can be written as a set of named options.  An unknown name, a name
that occurs twice and a value of the wrong type are refused; options that are not
named keep their defaults.  The JSON form is an object of options, or an array of
the values in order.
-/

namespace RecordFilter.Sql.Config

/-- The value of an option. -/
inductive OptionValue where
  | text (value : String)
  | flag (value : Bool)
  deriving DecidableEq, Repr

/-- The names of the options, in order. -/
def optionNames : List String :=
  ["parameter", "datetime_format", "always_true", "always_false", "quote_identifiers"]

/-- Sets one option. -/
def set? (config : Config) (name : String) (value : OptionValue) : Option Config :=
  match name, value with
  | "parameter", .text s => some { config with parameter := s }
  | "datetime_format", .text s => some { config with datetimeFormat := s }
  | "always_true", .text s => some { config with alwaysTrue := s }
  | "always_false", .text s => some { config with alwaysFalse := s }
  | "quote_identifiers", .flag b => some { config with quoteIdentifiers := b }
  | _, _ => none

/-- The default options with the named ones set, each at most once. -/
def ofOptions? (options : List (String × OptionValue)) : Option Config :=
  if (options.map (·.1)).Nodup then
    options.foldlM (fun config (name, value) => config.set? name value) default
  else none

/-- The options of a configuration, in order. -/
def options (config : Config) : List (String × OptionValue) :=
  optionNames.zip
    [.text config.parameter, .text config.datetimeFormat, .text config.alwaysTrue,
      .text config.alwaysFalse, .flag config.quoteIdentifiers]

/-- An option's value in JSON. -/
def OptionValue.toJson : OptionValue → Json
  | text value => .ofText value
  | flag value => .bool value

/-- Reads an option's value. -/
def OptionValue.ofJson? : Json → Option OptionValue
  | .string content => content.map .text
  | .bool value => some (.flag value)
  | _ => none

/-- The JSON object of a configuration. -/
def toJson (config : Config) : Json :=
  .ofMembers (config.options.map fun (name, value) => (name, value.toJson))

/-- Reads a configuration without validating it. -/
def ofJson? : Json → Option Config
  | .object members => do
    let named ← Json.members? (.object members)
    ofOptions? (← named.mapM fun (name, value) => (OptionValue.ofJson? value).map (name, ·))
  | .array items => do
    if optionNames.length < items.length then none
    else ofOptions? (optionNames.zip (← items.mapM OptionValue.ofJson?))
  | _ => none

/-- Reads a configuration from JSON text without validating it. -/
def ofJsonText? (text : String) : Option Config :=
  (Json.parse? text).bind ofJson?

end RecordFilter.Sql.Config
