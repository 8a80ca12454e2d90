import RecordFilter.Error
import RecordFilter.Record

/-!
# Criteria trees

A `Criterion` is one comparison of a property with a value.  A `Group` combines
criteria, child groups and criteria on the elements of collections under one
operator.  A `Tree` keeps its groups in creation order; a group is named by its
position, and the root stands at position 0.

`Tree.node` unfolds the groups into a `Node`, the form in which a tree is walked.
-/

namespace RecordFilter

/-- One comparison: property, operator and value. -/
structure Criterion where
  property : Property
  value : Value
  operator : Operator

namespace Criterion

/-- A criterion that was checked.  An absent value gives no criterion, and a value
    that the operator cannot compare with the property is refused. -/
def make (property : Property) (value : Value) (operator : Operator) :
    Except FilterError (Option Criterion) :=
  if value.isNull then .ok none
  else match operator.accepts property.kind value with
    | .ok () => .ok (some ⟨property, value, operator⟩)
    | .error reason => .error (.invalidCriterion property.name operator reason.message)

/-- Whether two criteria compare the same property in the same way with identical
    values. -/
def same (left right : Criterion) : Bool :=
  left.property.same right.property && left.value.identical right.value &&
    left.operator == right.operator

/-- Whether the criterion holds for a record. -/
def holds (criterion : Criterion) (record : Record) : Bool :=
  criterion.operator.holds (criterion.property.get record) criterion.value

end Criterion

/-- The criteria on the elements of one collection: some element must satisfy
    them together. -/
structure CollectionCriteria where
  collection : Collection
  criteria : List Criterion

/-- Adds a criterion to the entry of its collection, which is found by name; a
    collection without an entry gets one at the end. -/
def CollectionCriteria.insert (collection : Collection) (criterion : Criterion) :
    List CollectionCriteria → List CollectionCriteria
  | [] => [⟨collection, [criterion]⟩]
  | entry :: rest =>
    if entry.collection.name = collection.name then
      { entry with criteria := entry.criteria ++ [criterion] } :: rest
    else entry :: CollectionCriteria.insert collection criterion rest

/-- A set of members combined under one operator. -/
structure Group where
  id : Nat
  operator : GroupOperator
  /-- Own criteria, in insertion order. -/
  criteria : List Criterion
  /-- Child groups, in creation order. -/
  children : List Nat
  /-- One entry for each collection, in the order of first use. -/
  collections : List CollectionCriteria
  /-- The group this one was opened in; none for the root. -/
  parent : Option Nat

namespace Group

/-- A group without members. -/
def empty (id : Nat) (operator : GroupOperator) (parent : Option Nat) : Group :=
  ⟨id, operator, [], [], [], parent⟩

/-- Whether this is the root. -/
def isRoot (group : Group) : Bool := group.parent.isNone

/-- Whether the group has no members at all. -/
def isEmpty (group : Group) : Bool :=
  group.criteria.isEmpty && group.children.isEmpty && group.collections.isEmpty

/-- Criteria on elements, over all collections. -/
def elementCount (group : Group) : Nat :=
  (group.collections.flatMap (·.criteria)).length

/-- Members of the group, each criterion on elements counting as one. -/
def termCount (group : Group) : Nat :=
  group.criteria.length + group.children.length + group.elementCount

/-- The criteria on the elements of the collection with a name. -/
def collection? (group : Group) (name : String) : Option CollectionCriteria :=
  group.collections.find? (·.collection.name == name)

/-- Adds a criterion at the end. -/
def addCriterion (criterion : Criterion) (group : Group) : Group :=
  { group with criteria := group.criteria ++ [criterion] }

/-- Adds a child group at the end. -/
def addChild (child : Nat) (group : Group) : Group :=
  { group with children := group.children ++ [child] }

/-- Adds a criterion on the elements of a collection. -/
def addElementCriterion (collection : Collection) (criterion : Criterion) (group : Group) :
    Group :=
  { group with collections := CollectionCriteria.insert collection criterion group.collections }

end Group

/-- A tree of groups, in creation order. -/
structure Tree where
  groups : List Group

namespace Tree

/-- A tree with an empty root that combines with `and`. -/
def empty : Tree := ⟨[.empty 0 .and none]⟩

/-- The group at a position. -/
def group? (tree : Tree) (id : Nat) : Option Group := tree.groups[id]?

/-- Changes the group at a position. -/
def modify (tree : Tree) (id : Nat) (change : Group → Group) : Tree :=
  ⟨tree.groups.modify id change⟩

/-- Opens a child group of `parent` at the end. -/
def addGroup (tree : Tree) (parent : Nat) (operator : GroupOperator) : Tree :=
  let id := tree.groups.length
  ⟨tree.groups.modify parent (Group.addChild id) ++ [.empty id operator (some parent)]⟩

/-- Number of criteria in the whole tree, those on elements included. -/
def criterionCount (tree : Tree) : Nat :=
  tree.groups.foldr (fun group total => group.criteria.length + group.elementCount + total) 0

/-- Whether no criterion was recorded anywhere. -/
def isEmpty (tree : Tree) : Bool := tree.criterionCount = 0

end Tree

/-- A group together with its child groups. -/
inductive Node where
  | mk (group : Group) (children : List Node)

namespace Node

/-- The group of a node. -/
def group : Node → Group
  | mk group _ => group

mutual

/-- The groups of a node: its own first, then those of each child. -/
def groups : Node → List Group
  | mk group children => group :: groupsOf children

/-- The groups of several nodes. -/
def groupsOf : List Node → List Group
  | [] => []
  | node :: rest => groups node ++ groupsOf rest

end

end Node

namespace Tree

/-- The nodes of groups that stand from position `first` on.  A child stands after
    its parent, so its node is among those of the later groups. -/
def nodesFrom (first : Nat) : List Group → List Node
  | [] => []
  | group :: rest =>
    let later := nodesFrom (first + 1) rest
    .mk group (group.children.filterMap fun child =>
      if first < child then later[child - (first + 1)]? else none) :: later

/-- The tree unfolded from its root. -/
def node? (tree : Tree) : Option Node := (nodesFrom 0 tree.groups).head?

/-- Names of the properties that criteria compare, in all groups reached from the
    root; criteria on elements do not count. -/
def referenced (tree : Tree) : List String :=
  match tree.node? with
  | some node => (node.groups.flatMap Group.criteria).map (·.property.name)
  | none => []

end Tree

end RecordFilter
