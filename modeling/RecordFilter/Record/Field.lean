import RecordFilter.Record

/-!
# Typed fields

A `FieldType` is what a field of a record holds: it fixes the kind of the field's
property and how a value is read from the field.  A field refuses a value of another
type and an integer beyond its width.  A `RecordType` lists the fields and
collections of a type and gives its schema.
-/

namespace RecordFilter

/-- The integers of a field: how many bits it has, and whether one is a sign. -/
inductive IntegerType where
  | int8
  | int16
  | int32
  | int64
  | uint8
  | uint16
  | uint32
  deriving DecidableEq, Repr

namespace IntegerType

/-- The least integer of the type. -/
def least : IntegerType → Int
  | int8 => -2 ^ 7
  | int16 => -2 ^ 15
  | int32 => -2 ^ 31
  | int64 => -2 ^ 63
  | uint8 | uint16 | uint32 => 0

/-- The greatest integer of the type. -/
def greatest : IntegerType → Int
  | int8 => 2 ^ 7 - 1
  | int16 => 2 ^ 15 - 1
  | int32 => 2 ^ 31 - 1
  | int64 => 2 ^ 63 - 1
  | uint8 => 2 ^ 8 - 1
  | uint16 => 2 ^ 16 - 1
  | uint32 => 2 ^ 32 - 1

/-- Whether an integer is one of the type. -/
def holds (type : IntegerType) (n : Int64) : Bool :=
  type.least ≤ n.toInt && n.toInt ≤ type.greatest

@[simp]
theorem holds_zero (type : IntegerType) : type.holds 0 = true := by
  cases type <;> decide

end IntegerType

/-- What a field holds. -/
inductive FieldType where
  | bool
  | integer (type : IntegerType)
  /-- A number of single precision, read as a double. -/
  | single
  | double
  | decimal
  | text
  | dateTime
  /-- A date, read as its midnight. -/
  | date
  | uuid
  /-- A filter value of any kind. -/
  | any
  | optional (content : FieldType)
  | list (item : FieldType)
  deriving DecidableEq, Repr

namespace FieldType

/-- The kind of the field's property; an optional field has that of its content. -/
def kind : FieldType → Kind
  | bool => .bool
  | integer _ => .int
  | single | double => .float
  | decimal => .decimal
  | text => .text
  | dateTime | date => .dateTime
  | uuid => .uuid
  | any => .any
  | optional content => content.kind
  | list _ => .list

/-- The value of a field that was given none. -/
def default : FieldType → Value
  | bool => .bool false
  | integer _ => .int 0
  | single | double => .float (Binary64.zero false)
  | decimal => .decimal Decimal.zero
  | text => .text ""
  | dateTime | date => .dateTime DateTime.epoch
  | uuid => .uuid Uuid.nil
  | any | optional _ => .null
  | list _ => .list []

/-- The value read from a field that was given one, if the field can hold it: a
    single is rounded, a date loses its time of day, and lists are read item by item. -/
def toValue? : FieldType → Value → Option Value
  | bool, .bool b => some (.bool b)
  | integer type, .int n => if type.holds n then some (.int n) else none
  | single, .float x => some (.float x.toSingle)
  | double, .float x => some (.float x)
  | decimal, .decimal d => some (.decimal d)
  | text, .text s => some (.text s)
  | dateTime, .dateTime d => some (.dateTime d)
  | date, .dateTime d => some (.dateTime d.startOfDay)
  | uuid, .uuid u => some (.uuid u)
  | any, value => some value
  | optional content, value => if value.isNull then some .null else content.toValue? value
  | list item, .list items => (items.mapM item.toValue?).map .list
  | _, _ => none

/-- A field can hold its default. -/
theorem toValue?_default (field : FieldType) :
    field.toValue? field.default = some field.default := by
  cases field with
  | integer type => simp [toValue?, default]
  | single =>
    have exact : (Binary64.zero false).toSingle = Binary64.zero false := by decide +kernel
    rw [default, toValue?, exact]
  | _ => rfl

/-- What is read from a field can be compared with its property. -/
theorem admits_of_toValue? {field : FieldType} {value read : Value}
    (held : field.toValue? value = some read) : field.kind.admits read = true := by
  induction field generalizing value with
  | any | list _ => simp [kind, Kind.admits]; split <;> rfl
  | optional content ih =>
    simp only [toValue?] at held
    split at held
    · cases held
      rfl
    · exact ih held
  | integer type =>
    cases value with
    | int n =>
      simp only [toValue?] at held
      split at held
      · cases held
        rfl
      · cases held
    | _ => cases held
  | _ =>
    cases value with
    | _ => cases held <;> rfl

end FieldType

/-- A value that its field cannot hold. -/
structure Misfit where
  field : String
  deriving DecidableEq, Repr

/-- The misfit in words. -/
def Misfit.message (misfit : Misfit) : String := misfit.field ++ ": out of range"

/-- The fields and collections of a record type; a collection is given with the
    name of its element type. -/
structure RecordType where
  name : String
  fields : List (String × FieldType)
  collections : List (String × String)
  deriving DecidableEq, Repr

namespace RecordType

/-- The descriptors of the type. -/
def schema (type : RecordType) : Schema where
  name := type.name
  properties := type.fields.map fun (name, field) =>
    ⟨type.name, name, field.kind, Record.value name⟩
  collections := type.collections.map fun (name, element) =>
    ⟨type.name, name, element, Record.elements name⟩

/-- What the fields read of the values they are given; the first field that cannot
    hold its value is named. -/
def read (type : RecordType) (given : List (String × Value)) :
    Except Misfit (List (String × Value)) :=
  type.fields.filterMapM fun ((name, field) : String × FieldType) =>
    match given.lookup name with
    | none => .ok none
    | some value =>
      match field.toValue? value with
      | some content => .ok (some (name, content))
      | none => .error ⟨name⟩

/-- A record of the type with what its fields hold; the others hold their default. -/
def record (type : RecordType) (values : List (String × Value))
    (collections : List (String × List Record)) : Record where
  type := type.name
  values := type.fields.map fun (name, field) => (name, (values.lookup name).getD field.default)
  collections := type.collections.map fun (name, _) =>
    (name, (collections.lookup name).getD [])

end RecordType

end RecordFilter
