import RecordFilter.Text.Quoted
import RecordFilter.Value

/-!
# Values as shown

`Value.shown` is the form in labels of conditions; `Value.described` is the form in
descriptions of trees, where every value names its variant.
-/

namespace RecordFilter.Value

mutual

/-- A value in a label: texts are quoted, lists stand in brackets. -/
def shown : Value → String
  | null => "null"
  | bool b => if b then "true" else "false"
  | int n => toString n.toInt
  | float x => x.toText .plain
  | decimal d => d.toText
  | text s => Text.quoted s
  | dateTime d => d.toText ' '
  | uuid u => u.toText
  | list items => "[" ++ ", ".intercalate (shownList items) ++ "]"

/-- Values in a label. -/
def shownList : List Value → List String
  | [] => []
  | item :: rest => shown item :: shownList rest

end

mutual

/-- A value in a description. -/
def described : Value → String
  | null => "Null"
  | bool b => "Bool(" ++ (if b then "true" else "false") ++ ")"
  | int n => "Int(" ++ toString n.toInt ++ ")"
  | float x => "Float(" ++ x.toText .descriptive ++ ")"
  | decimal d => "Decimal(" ++ d.toText ++ ")"
  | text s => "String(" ++ Text.quoted s ++ ")"
  | dateTime d => "DateTime(" ++ d.toText 'T' ++ ")"
  | uuid u => "Uuid(" ++ u.toText ++ ")"
  | list items => "List([" ++ ", ".intercalate (describedList items) ++ "])"

/-- Values in a description. -/
def describedList : List Value → List String
  | [] => []
  | item :: rest => described item :: describedList rest

end

end RecordFilter.Value
