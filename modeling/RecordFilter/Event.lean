import RecordFilter.Error

/-!
# Log events

What building, compiling and configuring report.  An event is data; its level, its
message and its fields are read off it.  Some events are reported only when
debugging is on.
-/

namespace RecordFilter

/-- Something worth reporting. -/
inductive Event where
  | criterionAdded (group : Nat) (property : String) (operator : Operator)
  | elementCriterionAdded (group : Nat) (collection property : String) (operator : Operator)
  | criterionSkipped (property : String)
  | elementCriterionSkipped (collection property : String)
  | groupOpened (group parent : Nat) (operator : GroupOperator)
  | groupClosed (group parent : Nat)
  | wiringRefused (property : String) (operator : Operator) (error : FilterError)
  | wired (group : Nat) (source filter : String) (added : Nat)
  | compiling (source : String) (groups criteria : Nat) (parameter : String)
  | compiled (identity : Bool)
  | predicateBuilt (parameter : String) (always : Bool)
  | convertersConfigured (parameter : String) (quoteIdentifiers : Bool)
  | loadingConfiguration
  deriving DecidableEq, Repr

/-- How much attention an event deserves. -/
inductive Level where
  | trace
  | debug
  | info
  deriving DecidableEq, Repr

/-- The name of a level. -/
def Level.name : Level → String
  | trace => "TRACE"
  | debug => "DEBUG"
  | info => "INFO"

/-- The name of a group. -/
def groupName (id : Nat) : String := "#" ++ toString id

/-- A truth value in words. -/
def truthName (value : Bool) : String := if value then "true" else "false"

namespace Event

/-- The level of an event. -/
def level : Event → Level
  | criterionSkipped .. | elementCriterionSkipped .. => .trace
  | convertersConfigured .. | loadingConfiguration => .info
  | _ => .debug

/-- Whether the event is reported only when debugging is on. -/
def isGated : Event → Bool
  | criterionSkipped .. | elementCriterionSkipped .. | compiled .. => true
  | _ => false

/-- The message of an event. -/
def message : Event → String
  | criterionAdded .. => "criterion added"
  | elementCriterionAdded .. => "collection criterion added"
  | criterionSkipped .. => "skipping criterion with absent value"
  | elementCriterionSkipped .. => "skipping collection criterion with absent value"
  | groupOpened .. => "group opened"
  | groupClosed .. => "group closed"
  | wiringRefused .. => "skipping property that cannot be wired"
  | wired .. => "criteria wired from properties"
  | compiling .. => "compiling criteria"
  | compiled .. => "criteria compiled"
  | predicateBuilt .. => "predicate built"
  | convertersConfigured .. => "filter converters configured"
  | loadingConfiguration => "Loading SQL configuration from QOF_SQL_* variables"

/-- The fields of an event with their texts. -/
def fields : Event → List (String × String)
  | criterionAdded group property operator =>
    [("group", groupName group), ("property", property), ("operator", operator.code)]
  | elementCriterionAdded group collection property operator =>
    [("group", groupName group), ("collection", collection), ("property", property),
      ("operator", operator.code)]
  | criterionSkipped property => [("property", property)]
  | elementCriterionSkipped collection property =>
    [("collection", collection), ("property", property)]
  | groupOpened group parent operator =>
    [("group", groupName group), ("parent", groupName parent), ("operator", operator.code)]
  | groupClosed group parent => [("group", groupName group), ("parent", groupName parent)]
  | wiringRefused property operator error =>
    [("property", property), ("operator", operator.code), ("error", error.toText)]
  | wired group source filter added =>
    [("group", groupName group), ("source", source), ("filter", filter),
      ("added", toString added)]
  | compiling source groups criteria parameter =>
    [("source", source), ("groups", toString groups), ("criteria", toString criteria),
      ("parameter", parameter)]
  | compiled identity => [("identity", truthName identity)]
  | predicateBuilt parameter always => [("parameter", parameter), ("always", truthName always)]
  | convertersConfigured parameter quoteIdentifiers =>
    [("parameter", parameter), ("quote_identifiers", truthName quoteIdentifiers)]
  | loadingConfiguration => []

/-- The events that are reported, with debugging on or off. -/
def reported (debugging : Bool) (events : List Event) : List Event :=
  events.filter fun event => debugging || !event.isGated

end Event

end RecordFilter
