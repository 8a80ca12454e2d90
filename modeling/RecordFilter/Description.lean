import RecordFilter.Tree
import RecordFilter.Value.Display

/-!
# Descriptions

One-line texts that show descriptors and whole trees with everything in them.
-/

namespace RecordFilter

/-- Items in brackets. -/
def bracketed (items : List String) : String :=
  "[" ++ ", ".intercalate items ++ "]"

/-- A name with named parts in braces. -/
def braced (name : String) (parts : List (String × String)) : String :=
  name ++ " \x7b " ++ ", ".intercalate (parts.map fun (part, text) => part ++ ": " ++ text) ++ " \x7d"

/-- The name of a group's position. -/
def describeId (id : Nat) : String := "GroupId(" ++ toString id ++ ")"

/-- A property without its owner. -/
def Property.describe (property : Property) : String :=
  braced "Property" [("name", Text.quoted property.name), ("kind", property.kind.name)]

/-- A property with its owner. -/
def Property.describeOwned (property : Property) : String :=
  braced "PropertyRef"
    [("name", Text.quoted property.name), ("kind", property.kind.name),
      ("owner", Text.quoted property.owner)]

/-- A collection without its element type. -/
def Collection.describe (collection : Collection) : String :=
  braced "CollectionProperty" [("name", Text.quoted collection.name)]

/-- A collection with its element type. -/
def Collection.describeOwned (collection : Collection) : String :=
  braced "CollectionRef"
    [("name", Text.quoted collection.name), ("element", Text.quoted collection.element)]

/-- A criterion. -/
def Criterion.describe (criterion : Criterion) : String :=
  braced "Criterion"
    [("property", criterion.property.describeOwned), ("value", criterion.value.described),
      ("operator", criterion.operator.code)]

/-- The criteria on the elements of a collection. -/
def CollectionCriteria.describe (entry : CollectionCriteria) : String :=
  braced "CollectionCriteria"
    [("collection", entry.collection.describeOwned),
      ("criteria", bracketed (entry.criteria.map Criterion.describe))]

/-- A group. -/
def Group.describe (group : Group) : String :=
  let collections := group.collections.map fun entry =>
    Text.quoted entry.collection.name ++ ": " ++ entry.describe
  braced "CriteriaGroup"
    [("id", describeId group.id), ("operator", group.operator.code),
      ("criteria", bracketed (group.criteria.map Criterion.describe)),
      ("children", bracketed (group.children.map describeId)),
      ("collections", "\x7b" ++ ", ".intercalate collections ++ "\x7d"),
      ("parent", match group.parent with
        | some parent => "Some(" ++ describeId parent ++ ")"
        | none => "None")]

/-- A tree with the names of its source and filter types. -/
def Tree.describe (tree : Tree) (source filter : String) : String :=
  braced "FilterCriteria"
    [("source", Text.quoted source), ("filter", Text.quoted filter),
      ("groups", bracketed (tree.groups.map Group.describe))]

end RecordFilter
