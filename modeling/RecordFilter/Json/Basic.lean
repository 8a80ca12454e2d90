import RecordFilter.Number.Shortest

/-!
# JSON values

A number keeps its text, because how far it is read depends on where it is used.
A string whose escapes name no characters has no text; it is refused only where
its text is needed.  `Json.render` writes compact text.
-/

namespace RecordFilter

/-- A JSON value. -/
inductive Json where
  | null
  | bool (value : Bool)
  | number (literal : List Char)
  | string (text : Option String)
  | array (items : List Json)
  | object (members : List (Option String × Json))

namespace Json

/-- A string. -/
def ofText (text : String) : Json := .string (some text)

/-- A whole number. -/
def ofInt (n : Int) : Json := .number (toString n).toList

/-- A number, with a mark of its fraction; one that is not finite is absent. -/
def ofBinary64 (x : Binary64) : Json :=
  if x.isFinite then .number (x.toText .interchange).toList else .null

/-- An object with members in order. -/
def ofMembers (members : List (String × Json)) : Json :=
  .object (members.map fun (key, value) => (some key, value))

/-- The first member with a key. -/
def member? (key : String) : Json → Option Json
  | .object members => members.lookup (some key)
  | _ => none

/-- The text of a string. -/
def text? : Json → Option String
  | .string text => text
  | _ => none

/-- The items of an array. -/
def items? : Json → Option (List Json)
  | .array items => some items
  | _ => none

/-- A truth value. -/
def bool? : Json → Option Bool
  | .bool value => some value
  | _ => none

/-- The members of an object whose keys have text. -/
def members? : Json → Option (List (String × Json))
  | .object members => members.mapM fun (key, value) => key.map fun key => (key, value)
  | _ => none

/-! ## Writing -/

/-- A character as it stands between quotes. -/
def escape (c : Char) : List Char :=
  match c with
  | '"' => ['\\', '"']
  | '\\' => ['\\', '\\']
  | '\x08' => ['\\', 'b']
  | '\x0c' => ['\\', 'f']
  | '\n' => ['\\', 'n']
  | '\r' => ['\\', 'r']
  | '\t' => ['\\', 't']
  | c =>
    if c.toNat < 0x20 then
      '\\' :: 'u' :: '0' :: '0' :: Nat.digitChar (c.toNat / 16) :: [Nat.digitChar (c.toNat % 16)]
    else [c]

/-- A text between quotes. -/
def renderText (text : String) : List Char :=
  '"' :: text.toList.flatMap escape ++ ['"']

mutual

/-- Compact text of a value. -/
def render : Json → List Char
  | .null => "null".toList
  | .bool value => (if value then "true" else "false").toList
  | .number literal => literal
  | .string text => renderText (text.getD "")
  | .array items => '[' :: renderItems items ++ [']']
  | .object members => '\x7b' :: renderMembers members ++ ['\x7d']

/-- Items joined by commas. -/
def renderItems : List Json → List Char
  | [] => []
  | [item] => render item
  | item :: rest => render item ++ ',' :: renderItems rest

/-- Members joined by commas. -/
def renderMembers : List (Option String × Json) → List Char
  | [] => []
  | [(key, value)] => renderText (key.getD "") ++ ':' :: render value
  | (key, value) :: rest =>
    renderText (key.getD "") ++ ':' :: render value ++ ',' :: renderMembers rest

end

/-- Compact text of a value. -/
def toText (json : Json) : String :=
  String.ofList json.render

end Json

end RecordFilter
