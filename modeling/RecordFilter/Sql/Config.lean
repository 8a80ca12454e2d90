import RecordFilter.Error
import RecordFilter.Text.CaseMap
import RecordFilter.Time.Pattern

/-!
# Configuration of the SQL backend

A configuration names the default parameter, the pattern of date-time literals,
the conditions that always and never hold, and whether identifiers are quoted.
`Config.validate` checks that every literal can be used.
-/

namespace RecordFilter.Sql

/-- Options of the SQL backend. -/
structure Config where
  /-- The parameter used when none is named; blank means bare column names. -/
  parameter : String
  datetimeFormat : String
  /-- The condition of a tree without criteria. -/
  alwaysTrue : String
  /-- The condition of a comparison with an empty list. -/
  alwaysFalse : String
  quoteIdentifiers : Bool
  deriving DecidableEq, Repr

namespace Config

/-- The options in force when nothing is configured. -/
def default : Config := ⟨"", "%Y.%m.%d %H:%M:%S", "1 = 1", "1 = 0", false⟩

/-- Whether a pattern can write a date-time, judged by one sample. -/
def isUsableFormat (pattern : String) : Bool :=
  !pattern.isEmpty && (Pattern.format? pattern DateTime.epoch).isSome

/-- Refuses blank conditions and patterns that cannot write a date-time. -/
def validate (config : Config) : Except FilterError Unit :=
  if Text.isBlankText config.alwaysTrue then
    .error (.invalidConfiguration "always_true must not be empty")
  else if Text.isBlankText config.alwaysFalse then
    .error (.invalidConfiguration "always_false must not be empty")
  else if isUsableFormat config.datetimeFormat then .ok ()
  else .error <|
    FilterError.invalidConfiguration ("'" ++ config.datetimeFormat ++ "' is not a valid date-time format")
      |>.withHelp "Use chrono strftime syntax, e.g. %Y-%m-%d %H:%M:%S"

/-- The configuration, when it is valid. -/
def build (config : Config) : Except FilterError Config :=
  config.validate.map fun _ => config

/-- The names of the variables that override options. -/
def parameterVariable : String := "QOF_SQL_PARAMETER"
def datetimeFormatVariable : String := "QOF_SQL_DATETIME_FORMAT"
def alwaysTrueVariable : String := "QOF_SQL_ALWAYS_TRUE"
def alwaysFalseVariable : String := "QOF_SQL_ALWAYS_FALSE"
def quoteIdentifiersVariable : String := "QOF_SQL_QUOTE_IDENTIFIERS"

/-- Reads a truth value from a variable's text, in any letter case. -/
def readFlag (text : String) : Except FilterError Bool :=
  let word := String.ofList (Text.lowercase text.toList)
  if ["true", "1", "yes"].contains word then .ok true
  else if ["false", "0", "no"].contains word then .ok false
  else .error (.invalidConfiguration
    (quoteIdentifiersVariable ++ " must be a boolean, got '" ++ text ++ "'"))

/-- The default options, overridden by the variables that are set. -/
def fromVariables (lookup : String → Option String) : Except FilterError Config := do
  let quoteIdentifiers ← match lookup quoteIdentifiersVariable with
    | some text => readFlag text
    | none => .ok default.quoteIdentifiers
  build {
    parameter := (lookup parameterVariable).getD default.parameter
    datetimeFormat := (lookup datetimeFormatVariable).getD default.datetimeFormat
    alwaysTrue := (lookup alwaysTrueVariable).getD default.alwaysTrue
    alwaysFalse := (lookup alwaysFalseVariable).getD default.alwaysFalse
    quoteIdentifiers := quoteIdentifiers }

end Config

end RecordFilter.Sql
