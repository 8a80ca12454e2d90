import RecordFilter.Text.CaseMap

/-!
# Log settings

What the variables `QOF_DEBUG`, `QOF_LOG_LEVEL` and `QOF_LOG_FORMAT` ask for.
Words count in any letter case, and a word that is not known asks for nothing.
-/

namespace RecordFilter.LogSettings

/-- A lookup of variables by name. -/
abbrev Environment := String → Option String

def debugVariable : String := "QOF_DEBUG"
def levelVariable : String := "QOF_LOG_LEVEL"
def formatVariable : String := "QOF_LOG_FORMAT"

/-- The text of a variable in lower case. -/
def word? (environment : Environment) (name : String) : Option String :=
  (environment name).map fun text => String.ofList (Text.lowercase text.toList)

/-- The text of a variable, when it is one of the known words. -/
def oneOf? (words : List String) (environment : Environment) (name : String) : Option String :=
  (word? environment name).filter words.contains

/-- Whether debugging is on. -/
def isDebugging (environment : Environment) : Bool :=
  (oneOf? ["true", "1", "yes"] environment debugVariable).isSome

/-- The log level; without one it follows from whether debugging is on. -/
def level (environment : Environment) : String :=
  (oneOf? ["trace", "debug", "info", "warn", "error"] environment levelVariable).getD
    (if isDebugging environment then "debug" else "warn")

/-- The log format. -/
def format (environment : Environment) : String :=
  (oneOf? ["pretty", "compact"] environment formatVariable).getD "json"

end RecordFilter.LogSettings
