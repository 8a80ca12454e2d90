import RecordFilter.Value.Compare

/-!
# Records and their descriptors

A `Record` is a value of some record type: named values, and named collections of
further records.  A `Property` describes one value of a type and a `Collection` one
collection; both read a record of their owner type and see nothing in a record of
another type.  A `Schema` lists the descriptors of a type.
-/

namespace RecordFilter

/-- A record with its type's name. -/
structure Record where
  type : String
  values : List (String × Value)
  collections : List (String × List Record)

namespace Record

/-- The value under a name; none there reads as absent. -/
def value (name : String) (record : Record) : Value :=
  (record.values.lookup name).getD .null

/-- The elements of the collection with a name. -/
def elements (name : String) (record : Record) : List Record :=
  (record.collections.lookup name).getD []

end Record

/-- A scalar property of a record type. -/
structure Property where
  owner : String
  name : String
  kind : Kind
  read : Record → Value

namespace Property

/-- Reads the property from a record; a record of another type reads as absent. -/
def get (property : Property) (record : Record) : Value :=
  if record.type = property.owner then property.read record else .null

/-- Two properties are the same when owner and name are. -/
def same (left right : Property) : Bool :=
  left.owner == right.owner && left.name == right.name

end Property

/-- A collection of a record type. -/
structure Collection where
  owner : String
  name : String
  element : String
  read : Record → List Record

namespace Collection

/-- The elements of the collection; a record of another type has none. -/
def items (collection : Collection) (record : Record) : List Record :=
  if record.type = collection.owner then collection.read record else []

end Collection

/-- The descriptors of a record type, in declaration order. -/
structure Schema where
  name : String
  properties : List Property
  collections : List Collection

namespace Schema

/-- The first property with a name. -/
def property? (schema : Schema) (name : String) : Option Property :=
  schema.properties.find? (·.name == name)

/-- The first collection with a name. -/
def collection? (schema : Schema) (name : String) : Option Collection :=
  schema.collections.find? (·.name == name)

/-- Reads a property by name; an unknown name reads as absent. -/
def valueOf (schema : Schema) (name : String) (record : Record) : Value :=
  match schema.property? name with
  | some property => property.get record
  | none => .null

end Schema

end RecordFilter
