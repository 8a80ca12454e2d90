import RecordFilter.Converters
import RecordFilter.Record.Field
import RecordFilter.Tree.Building

/-!
# Demonstration

Filters a short list of users with one tree, in memory and as query text.  Most
values of the filter are absent, so most criteria leave no trace.
-/

namespace RecordFilter.Demo

/-- A login of a user. -/
def login : RecordType where
  name := "Login"
  fields := [("LoginProviderName", .text), ("LoginValue", .text)]
  collections := []

/-- A user. -/
def user : RecordType where
  name := "User"
  fields :=
    [("Id", .integer .int64), ("Email", .text), ("LastName", .text), ("FirstName", .text),
      ("MiddleName", .text), ("ActiveDirectoryName", .text), ("Status", .integer .int32)]
  collections := [("Logins", "Login")]

/-- What users are searched by. -/
def query : RecordType where
  name := "UserQuery"
  fields :=
    [("Id", .optional (.integer .int64)), ("Email", .optional .text), ("Name", .optional .text),
      ("ActiveDirectoryName", .optional .text), ("Login", .optional .text),
      ("LoginProviderName", .optional .text), ("Statuses", .optional (.list (.integer .int32)))]
  collections := []

/-- A user named after its number, with one login. -/
def makeUser (id : Int64) (last first middle provider : String) (status : Int32) : Record :=
  let account := "u" ++ toString id.toInt
  user.record
    [("Id", .int id), ("Email", .text (account ++ "@user.com")), ("LastName", .text last),
      ("FirstName", .text first), ("MiddleName", .text middle),
      ("ActiveDirectoryName", .text account), ("Status", .int status.toInt64)]
    [("Logins",
      [login.record [("LoginProviderName", .text provider), ("LoginValue", .text account)] []])]

/-- The users that are searched. -/
def users : List Record :=
  [makeUser 1 "Ivanov" "Ivan" "Ivanovich" "IS1" 1,
    makeUser 2 "Petrov" "Petr" "Petrovich" "IS2" 1,
    makeUser 3 "Sidorov" "Sergey" "Sergeevich" "IS1" 2,
    makeUser 4 "Popov" "Nikolay" "Nikolaevich" "IS2" 1,
    makeUser 5 "Sokolov" "Ivan" "Ivanovich" "IS1" 3]

/-- The source is users, and the filter asks for an id, a login and some states. -/
def setting : Setting where
  source := user.schema
  filterType := query.schema
  filter := query.record
    [("Id", .int 1), ("Login", .text "u3"), ("LoginProviderName", .text "IS1"),
      ("Statuses", .list [.int 1, .int 2, .int 3])] []

/-- Compares a property of the user with a value of the filter. -/
def compare (property : String) (operator : Operator) (value : String) : Step :=
  .add (.named property) (.selected (query.schema.valueOf value)) operator

/-- Compares a property of the user's logins with a value of the filter. -/
def compareLogin (property : String) (operator : Operator) (value : String) : List Step :=
  (user.schema.collection? "Logins").toList.map fun logins =>
    .addElement logins login.schema (.named property) (.selected (query.schema.valueOf value))
      operator

/-- The search. -/
def steps : List Step :=
  [.openAtRoot .and,
    compare "Id" .greaterThan "Id",
    compare "Email" .equal "Email",
    .openGroup .or,
    compare "LastName" .startsWith "Name",
    compare "FirstName" .contains "Name",
    compare "MiddleName" .contains "Name",
    .closeGroup,
    compare "ActiveDirectoryName" .equal "ActiveDirectoryName",
    .openGroup .or] ++
  compareLogin "LoginValue" .equal "Login" ++
  compareLogin "LoginProviderName" .equal "LoginProviderName" ++
  [.closeGroup,
    compare "Status" .among "Statuses"]

/-- The text of a property of a record. -/
def textOf (name : String) (record : Record) : String :=
  ((record.value name).text?).getD (record.value name).shown

/-- The line for a user that was found. -/
def describe (record : Record) : String :=
  "  matched #" ++ textOf "Id" record ++ " " ++ textOf "FirstName" record ++ " " ++
    textOf "LastName" record ++ " (" ++ textOf "Email" record ++ ")"

/-- The lines of the demonstration. -/
def lines : Except FilterError (List String) := do
  let building ← steps.foldlM (fun b step => (step.apply setting b).map Prod.fst) .start
  let predicate ← Converters.standard.toPredicate building.tree user.name "x"
  let sql ← Converters.standard.toSql building.tree user.name (some "")
  return ("predicate: " ++ predicate.toText) :: (predicate.keep users).map describe ++
    ["WHERE " ++ sql]

end RecordFilter.Demo
