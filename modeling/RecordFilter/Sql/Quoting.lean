import RecordFilter.Text.CaseMap

/-!
# Quoting in SQL

String literals stand between single quotes and quoted identifiers between double
quotes; a quote inside is written twice.  `quoteIdentifier` leaves a plain word
bare unless it is reserved.
-/

namespace RecordFilter.Sql

/-- Writes every occurrence of a quote character twice. -/
def doubled (quote : Char) (text : List Char) : List Char :=
  text.flatMap fun c => if c = quote then [c, c] else [c]

@[simp]
theorem doubled_nil (quote : Char) : doubled quote [] = [] := rfl

@[simp]
theorem doubled_cons (quote c : Char) (text : List Char) :
    doubled quote (c :: text) = (if c = quote then [c, c] else [c]) ++ doubled quote text := by
  simp [doubled]

/-- A text between quotes. -/
def enclosed (quote : Char) (text : String) : String :=
  String.ofList (quote :: doubled quote text.toList ++ [quote])

/-- A string literal. -/
def quoteString (text : String) : String := enclosed '\'' text

/-- A quoted identifier. -/
def escapeIdentifier (name : String) : String := enclosed '"' name

/-- The words that cannot stand bare as identifiers. -/
def reserved : List String :=
  ["user", "order", "group", "select", "from", "where", "table", "index", "key", "default",
    "null", "not", "and", "or", "in", "is", "like", "between", "case", "when", "then", "else",
    "end", "as", "on", "join", "exists", "all", "any", "distinct", "having", "limit", "offset",
    "values", "set"]

/-- Whether a character may stand in a bare identifier. -/
def isWordChar (c : Char) : Bool := c.isAlphanum || c == '_'

/-- Whether a name is reserved, in any case. -/
def isReserved (name : String) : Bool :=
  reserved.contains (String.ofList (Text.lowercase name.toList))

/-- Whether a name has to be quoted. -/
def needsQuoting (name : String) : Bool :=
  isReserved name || name.isEmpty || name.toList.head?.any Char.isDigit ||
    !name.toList.all isWordChar

/-- A name, quoted where it has to be. -/
def quoteIdentifier (name : String) : String :=
  if needsQuoting name then escapeIdentifier name else name

end RecordFilter.Sql
