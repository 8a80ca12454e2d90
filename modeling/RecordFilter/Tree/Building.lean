import RecordFilter.Event
import RecordFilter.Tree

/-!
# Building trees

A tree is built by a cursor: it stands on a group, adds to it, opens and closes
groups.  Each operation is a `Step`; `Step.apply` carries one out on a `Building`,
the tree with its cursor, and reports events.  A step that fails changes nothing.

Values come from a filter record as well as from the caller.  An absent value adds
no criterion, so one filter record can drive any combination of criteria.
-/

namespace RecordFilter

/-- What a tree is built over: the source type, and the filter record with its
    type. -/
structure Setting where
  source : Schema
  filterType : Schema
  filter : Record

/-- A choice of property: a name to look up or a descriptor. -/
inductive PropertyChoice where
  | named (name : String)
  | descriptor (property : Property)

/-- Finds the property of a type; a name that the type does not declare fails. -/
def PropertyChoice.resolve (schema : Schema) : PropertyChoice → Except FilterError Property
  | named name =>
    match schema.property? name with
    | some property => .ok property
    | none => .error (.invalidProperty schema.name name)
  | descriptor property => .ok property

/-- Where the value of a criterion comes from. -/
inductive ValueChoice where
  | given (value : Value)
  | selected (select : Record → Value)

/-- The value, read from the filter record where it has to be. -/
def ValueChoice.value (filter : Record) : ValueChoice → Value
  | given value => value
  | selected select => select filter

/-- A tree and the group the cursor stands on. -/
structure Building where
  tree : Tree
  cursor : Nat

namespace Building

/-- An empty tree with the cursor on its root. -/
def start : Building := ⟨.empty, 0⟩

/-- The group the cursor stands on. -/
def current? (b : Building) : Option Group := b.tree.group? b.cursor

/-- Changes the group the cursor stands on. -/
def change (b : Building) (f : Group → Group) : Building :=
  { b with tree := b.tree.modify b.cursor f }

/-- Opens a child of the cursor's group and moves into it. -/
def openGroup (b : Building) (operator : GroupOperator) : Building × List Event :=
  let id := b.tree.groups.length
  (⟨b.tree.addGroup b.cursor operator, id⟩, [.groupOpened id b.cursor operator])

/-- Moves to the parent of the cursor's group; the root is its own parent here. -/
def closeGroup (b : Building) : Building × List Event :=
  let parent := (b.current?.bind Group.parent).getD b.cursor
  ({ b with cursor := parent }, [.groupClosed b.cursor parent])

/-- Adds a criterion to the cursor's group unless its value is absent. -/
def addCriterion (b : Building) (property : Property) (value : Value) (operator : Operator) :
    Except FilterError (Building × List Event) :=
  (Criterion.make property value operator).map fun
    | some criterion =>
      (b.change (Group.addCriterion criterion), [.criterionAdded b.cursor property.name operator])
    | none => (b, [.criterionSkipped property.name])

/-- Adds a criterion on the elements of a collection unless its value is absent. -/
def addElementCriterion (b : Building) (collection : Collection) (property : Property)
    (value : Value) (operator : Operator) : Except FilterError (Building × List Event) :=
  (Criterion.make property value operator).map fun
    | some criterion =>
      (b.change (Group.addElementCriterion collection criterion),
        [.elementCriterionAdded b.cursor collection.name property.name operator])
    | none => (b, [.elementCriterionSkipped collection.name property.name])

end Building

namespace Setting

/-- The operator a property is wired with: a list is compared with its items,
    otherwise the default for the property's kind is used. -/
def wiringOperator (property : Property) (value : Value) : Operator :=
  if value.isList then .among else .defaultFor property.kind

/-- What wiring does with one property: a criterion, a refusal that is reported, or
    nothing when the filter type has no such property or its value is absent. -/
def wireOne (setting : Setting) (property : Property) : Option (Except Event Criterion) :=
  match setting.filterType.property? property.name with
  | none => none
  | some source =>
    let value := source.get setting.filter
    let operator := wiringOperator property value
    match Criterion.make property value operator with
    | .ok criterion => criterion.map .ok
    | .error error => some (.error (.wiringRefused property.name operator error))

/-- Adds a criterion for each listed property whose name the filter type also
    declares, where the filter's value is present and can be compared. -/
def wire (setting : Setting) (b : Building) (properties : List Property) :
    Building × List Event :=
  let outcomes := properties.filterMap setting.wireOne
  let criteria := outcomes.filterMap fun
    | .ok criterion => some criterion
    | .error _ => none
  let refusals := outcomes.filterMap fun
    | .ok _ => none
    | .error event => some event
  (b.change fun group => criteria.foldl (fun group c => group.addCriterion c) group,
    refusals ++ [.wired b.cursor setting.source.name setting.filterType.name criteria.length])

/-- The source properties that no criterion on the source compares yet. -/
def unused (setting : Setting) (tree : Tree) : List Property :=
  setting.source.properties.filter fun property => !tree.referenced.contains property.name

end Setting

/-- One building operation. -/
inductive Step where
  /-- Compare a property with a value. -/
  | add (property : PropertyChoice) (value : ValueChoice) (operator : Operator)
  /-- Compare a property of the elements of a collection with a value. -/
  | addElement (collection : Collection) (element : Schema) (property : PropertyChoice)
      (value : ValueChoice) (operator : Operator)
  /-- Open a child of the cursor's group and move into it. -/
  | openGroup (operator : GroupOperator)
  /-- Move to the parent. -/
  | closeGroup
  /-- Move to the root. -/
  | toRoot
  /-- Move to a group by its position. -/
  | goTo (id : Nat)
  /-- Open a child of the root and move into it. -/
  | openAtRoot (operator : GroupOperator)
  /-- Wire the listed properties. -/
  | wire (properties : List Property)
  /-- Wire every property of the source. -/
  | wireAll
  /-- Wire the properties of the source that are not compared yet. -/
  | wireUnused
  /-- Wire the named properties; every name is looked up before anything is added. -/
  | wireNames (names : List String)

namespace Step

/-- Carries out a step. -/
def apply (setting : Setting) (step : Step) (b : Building) :
    Except FilterError (Building × List Event) :=
  match step with
  | add property value operator =>
    (property.resolve setting.source).bind fun property =>
      b.addCriterion property (value.value setting.filter) operator
  | addElement collection element property value operator =>
    (property.resolve element).bind fun property =>
      b.addElementCriterion collection property (value.value setting.filter) operator
  | openGroup operator => .ok (b.openGroup operator)
  | closeGroup => .ok b.closeGroup
  | toRoot => .ok ({ b with cursor := 0 }, [])
  | goTo id => .ok (if id < b.tree.groups.length then { b with cursor := id } else b, [])
  | openAtRoot operator => .ok (Building.openGroup { b with cursor := 0 } operator)
  | wire properties => .ok (setting.wire b properties)
  | wireAll => .ok (setting.wire b setting.source.properties)
  | wireUnused => .ok (setting.wire b (setting.unused b.tree))
  | wireNames names =>
    (names.mapM fun name => (PropertyChoice.named name).resolve setting.source).map fun
      properties => setting.wire b properties

/-- The building after a step, unchanged when the step fails. -/
def after (setting : Setting) (step : Step) (b : Building) : Building :=
  match step.apply setting b with
  | .ok (b', _) => b'
  | .error _ => b

/-- The events of a step; one that fails has none. -/
def events (setting : Setting) (step : Step) (b : Building) : List Event :=
  match step.apply setting b with
  | .ok (_, events) => events
  | .error _ => []

/-- Carries out steps one after the other. -/
def run (setting : Setting) (steps : List Step) (b : Building) : Building :=
  steps.foldl (fun b step => step.after setting b) b

/-- The events of steps carried out one after the other. -/
def log (setting : Setting) : List Step → Building → List Event
  | [], _ => []
  | step :: rest, b => step.events setting b ++ log setting rest (step.after setting b)

end Step

end RecordFilter
