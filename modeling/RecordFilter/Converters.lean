import RecordFilter.Predicate
import RecordFilter.Sql.Backend
import RecordFilter.Sql.Config.Document

/-!
# Converters

Both backends behind one configuration, which is validated once.
-/

namespace RecordFilter

/-- A valid configuration shared by the backends. -/
structure Converters where
  config : Sql.Config

namespace Converters

/-- Converters with the default configuration. -/
def standard : Converters := ⟨.default⟩

/-- Validates a configuration. -/
def build (config : Sql.Config) : Except FilterError Converters :=
  config.build.map Converters.mk

/-- The events that building reports. -/
def buildEvents (config : Sql.Config) : List Event :=
  match build config with
  | .ok _ => [.convertersConfigured config.parameter config.quoteIdentifiers]
  | .error _ => []

/-- Converters configured by variables. -/
def fromVariables (lookup : String → Option String) : Except FilterError Converters :=
  (Sql.Config.fromVariables lookup).bind build

/-- Compiles a tree to an SQL condition; without a name the configured parameter is
    used. -/
def toSql (converters : Converters) (tree : Tree) (source : String) (name : Option String) :
    Except FilterError String :=
  converters.config.backend.compile tree source (name.getD converters.config.parameter)

/-- The events that compiling to SQL reports. -/
def toSqlEvents (converters : Converters) (tree : Tree) (source : String) (name : Option String) :
    List Event :=
  converters.config.backend.compileEvents tree source (name.getD converters.config.parameter)

/-- Compiles a tree to a predicate. -/
def toPredicate (_ : Converters) (tree : Tree) (source name : String) :
    Except FilterError Predicate :=
  Predicate.backend.compile tree source name

end Converters

end RecordFilter
