import RecordFilter.Json.Reader
import RecordFilter.Operator

/-!
# Values as tagged JSON

A value is written as an object that names its variant beside its content, as in
`{"type":"int","value":1}`, so every variant reads back as itself; the absent
value has no content.  Reading takes the two members in either order, passes over
other members, refuses a member that occurs twice, and takes a pair of variant and
content in place of the object.  The variant is a name, or an object whose only key
is the name and that holds nothing.

When the content stands before its variant it is held back until the variant is
known.  Content that is held back has to be sound throughout, and an empty object
counts as nothing inside it.

Doubles are carried as numbers or as text.
-/

namespace RecordFilter

/-- How a double is carried. -/
inductive FloatForm where
  | number
  | text
  deriving DecidableEq, Repr

namespace Value

/-- The variants of a value. -/
inductive Tag where
  | null
  | bool
  | int
  | float
  | decimal
  | text
  | dateTime
  | uuid
  | list
  deriving DecidableEq, Repr

/-- Every variant, in declaration order. -/
def Tag.all : List Tag := [null, bool, int, float, decimal, text, dateTime, uuid, list]

/-- The name of a variant. -/
def Tag.name : Tag → String
  | null => "null"
  | bool => "bool"
  | int => "int"
  | float => "float"
  | decimal => "decimal"
  | text => "string"
  | dateTime => "date_time"
  | uuid => "uuid"
  | list => "list"

/-- The key of the variant. -/
def tagKey : String := "type"

/-- The key of the content. -/
def contentKey : String := "value"

/-! ## Writing -/

/-- An object with a variant and its content. -/
def tagged (tag : Tag) (content : Json) : Json :=
  .ofMembers [(tagKey, .ofText tag.name), (contentKey, content)]

mutual

/-- The tagged form of a value. -/
def toJson (form : FloatForm) : Value → Json
  | .null => .ofMembers [(tagKey, .ofText Tag.null.name)]
  | .bool b => tagged .bool (.bool b)
  | .int n => tagged .int (.ofInt n.toInt)
  | .float x => tagged .float <| match form with
    | .number => .ofBinary64 x
    | .text => .ofText (x.toText .plain)
  | .decimal d => tagged .decimal (.ofText d.toText)
  | .text s => tagged .text (.ofText s)
  | .dateTime d => tagged .dateTime (.ofText (d.toText 'T'))
  | .uuid u => tagged .uuid (.ofText u.toText)
  | .list items => tagged .list (.array (toJsonList form items))

/-- The tagged forms of values. -/
def toJsonList (form : FloatForm) : List Value → List Json
  | [] => []
  | item :: rest => toJson form item :: toJsonList form rest

end

/-! ## Reading -/

/-- A 64-bit integer. -/
def int64? (n : Int) : Option Int64 :=
  if -(2 ^ 63) ≤ n ∧ n < 2 ^ 63 then some (Int64.ofInt n) else none

/-- A number as it was read, when it fits. -/
def number? : Json → Option JsonNumber
  | .number literal => JsonNumber.ofLiteral? literal
  | _ => none

/-- Reads the content of a value that is not a list. -/
def ofContent? (form : FloatForm) : Tag → Json → Option Value
  | .null, .null => some .null
  | .bool, .bool b => some (.bool b)
  | .int, json =>
    match number? json with
    | some (.whole n) => (int64? n).map .int
    | _ => none
  | .float, json =>
    match form, json with
    | .text, .string content => (content.bind Binary64.ofText?).map .float
    | .text, _ => none
    | .number, json => (number? json).map fun
      | .whole n => .float (Binary64.ofInt n)
      | .float x => .float x
  | .decimal, .string content => (content.bind Decimal.ofText?).map .decimal
  | .decimal, json =>
    match number? json with
    | some (.whole n) => (Decimal.ofInt? n).map .decimal
    | some (.float x) => (Decimal.ofPlainText? (x.toText .plain).toList).map .decimal
    | none => none
  | .text, .string content => content.map .text
  | .dateTime, .string content => (content.bind DateTime.ofText?).map .dateTime
  | .uuid, .string content => (content.bind Uuid.ofText?).map .uuid
  | _, _ => none

/-- The variant with a name. -/
def Tag.ofName? (name : String) : Option Tag :=
  all.find? (·.name == name)

/-- Whether nothing is held; in content that is held back an empty object will do. -/
def isNothing (heldBack : Bool) : Json → Bool
  | .null => true
  | .object members => heldBack && members.isEmpty
  | _ => false

/-- Reads a variant: its name, or an object of that only key which holds nothing. -/
def ofTag? (heldBack : Bool) : Json → Option Tag
  | .string name => name.bind Tag.ofName?
  | .object [(name, nothing)] =>
    if isNothing heldBack nothing then name.bind Tag.ofName? else none
  | _ => none

mutual

/-- Whether every string of a value has text and every number fits. -/
def isSound : Json → Bool
  | .number literal => (JsonNumber.ofLiteral? literal).isSome
  | .string content => content.isSome
  | .array items => areSound items
  | .object members => membersAreSound members
  | _ => true

def areSound : List Json → Bool
  | [] => true
  | item :: rest => isSound item && areSound rest

def membersAreSound : List (Option String × Json) → Bool
  | [] => true
  | (key, value) :: rest => key.isSome && isSound value && membersAreSound rest

end

/-- How the members of an object name a variant and its content. -/
structure Shape where
  /-- The variant's JSON. -/
  tag : Json
  /-- Whether there is content. -/
  hasContent : Bool
  /-- Whether the content stands before the variant. -/
  heldBack : Bool

/-- Reads the shape of an object: one variant, at most one content, and keys that
    all have text. -/
def shape? (members : List (Option String × Json)) : Option Shape :=
  let named (key : String) := members.filter fun member => member.1 == some key
  match named tagKey, named contentKey with
  | [(_, tag)], contents =>
    if 1 < contents.length ∨ members.any (·.1.isNone) then none
    else
      let first := members.find? fun member =>
        member.1 == some tagKey || member.1 == some contentKey
      some ⟨tag, !contents.isEmpty, first.any fun member => member.1 == some contentKey⟩
  | _, _ => none

mutual

/-- Reads a tagged value. -/
def ofJson? (form : FloatForm) (heldBack : Bool) : Json → Option Value
  | .object members =>
    (shape? members).bind fun shape =>
      (ofTag? heldBack shape.tag).bind fun tag =>
        if shape.hasContent then contentOf? form heldBack shape.heldBack tag members
        else if tag = .null then some .null
        else none
  | .array [tag, content] =>
    (ofTag? heldBack tag).bind fun tag => contentAs? form heldBack tag content
  | _ => none

/-- Reads content as that of a variant. -/
def contentAs? (form : FloatForm) (heldBack : Bool) (tag : Tag) : Json → Option Value
  | .array items => if tag = .list then (ofJsonList? form heldBack items).map .list else none
  | json => ofContent? form tag json

/-- Reads the member that holds the content; `first` tells that it stands before the
    variant. -/
def contentOf? (form : FloatForm) (heldBack first : Bool) (tag : Tag) :
    List (Option String × Json) → Option Value
  | [] => none
  | (key, value) :: rest =>
    if key = some contentKey then
      if first && !isSound value then none else contentAs? form (heldBack || first) tag value
    else contentOf? form heldBack first tag rest

/-- Reads tagged values. -/
def ofJsonList? (form : FloatForm) (heldBack : Bool) : List Json → Option (List Value)
  | [] => some []
  | item :: rest =>
    (ofJson? form heldBack item).bind fun value =>
      (ofJsonList? form heldBack rest).map (value :: ·)

end

/-! ## Text -/

mutual

/-- Depth of the objects and arrays that reading a tagged value goes into.  Members
    that are passed over do not count unless they are part of content that is held
    back. -/
def depth (heldBack : Bool) : Json → Nat
  | .object members =>
    1 + depthOfMembers heldBack ((shape? members).any Shape.heldBack) members
  | .array items => 1 + depthOfItems heldBack items
  | _ => 0

def depthOfItems (heldBack : Bool) : List Json → Nat
  | [] => 0
  | item :: rest => max (depth heldBack item) (depthOfItems heldBack rest)

def depthOfMembers (heldBack first : Bool) : List (Option String × Json) → Nat
  | [] => 0
  | (key, value) :: rest =>
    let here :=
      if key == some contentKey then depth (heldBack || first) value
      else if heldBack || key == some tagKey then depth heldBack value
      else 0
    max here (depthOfMembers heldBack first rest)

end

/-- The greatest depth a text may have. -/
def depthLimit : Nat := 127

/-- Reads a value from JSON text that is not too deep. -/
def ofJsonText? (form : FloatForm) (text : String) : Option Value :=
  (Json.parse? text).bind fun json =>
    if depth false json ≤ depthLimit then ofJson? form false json else none

end Value

/-- Reads a JSON text that names one of several things, as a string or as the only
    key of an object without content. -/
def nameOfJsonText? (text : String) : Option String :=
  match Json.parse? text with
  | some (.string name) => name
  | some (.object [(name, .null)]) => name
  | _ => none

end RecordFilter
