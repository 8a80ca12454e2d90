import RecordFilter.Derive.Token

/-!
# Attributes

An attribute of this library lists entries, each a name with or without a value.
Attributes of other tools have no entries here, and what cannot be read is an
entry of its own, so entries can be carried out one after the other.
-/

namespace RecordFilter.Derive

/-- The value of an entry. -/
inductive EntryValue where
  | text (content : String)
  /-- A quoted text with a name right after it. -/
  | suffixed (content : String)
  /-- Anything that is no quoted text. -/
  | other
  deriving DecidableEq, Repr

/-- The text of a value. -/
def EntryValue.content? : EntryValue → Option String
  | text content | suffixed content => some content
  | other => none

/-- One entry of an attribute. -/
inductive Entry where
  | named (name : String) (value : Option EntryValue)
  /-- Something that cannot be read. -/
  | broken
  deriving DecidableEq, Repr

/-- The name of the attributes that are read. -/
def attributeName : List Char := "qof".toList

/-- Reads names joined by separators. -/
def readNames : List Token → Option (List Token × List Token)
  | .word name :: .symbol [':', ':'] :: rest =>
    (readNames rest).map fun (names, rest) => (.word name :: .pathSeparator :: names, rest)
  | .word name :: rest => some ([.word name], rest)
  | _ => none

/-- Reads the name of an entry, which may start with a separator. -/
def readEntryName : List Token → Option (List Token × List Token)
  | .symbol [':', ':'] :: rest =>
    (readNames rest).map fun (names, rest) => (.pathSeparator :: names, rest)
  | tokens => readNames tokens

/-- Reads a value from its first token. -/
def EntryValue.ofToken : Token → EntryValue
  | .text _ content [] => .text (String.ofList content)
  | .text _ content _ => .suffixed (String.ofList content)
  | _ => .other

/-- Reads one entry; tokens after it cannot be read. -/
def entriesOf (piece : List Token) : List Entry :=
  match readEntryName piece with
  | none => [.broken]
  | some (name, []) => [.named (sourceOf name) none]
  | some (name, [.symbol ['='], value]) =>
    [.named (sourceOf name) (some (.ofToken value))]
  | some (name, .symbol ['='] :: value :: _) =>
    [.named (sourceOf name) (some (.ofToken value)), .broken]
  | some (name, _) => [.named (sourceOf name) none, .broken]

/-- Reads a list of entries; a comma may stand at the end. -/
def readEntries (tokens : List Token) : List Entry :=
  match (cut .comma 0 tokens).reverse with
  | [] :: pieces => pieces.reverse.flatMap entriesOf
  | pieces => pieces.reverse.flatMap entriesOf

/-- The entries of an attribute. -/
def attributeEntries (tokens : List Token) : List Entry :=
  match tokens with
  | .word name :: rest =>
    if name ≠ attributeName ∨ rest.head? = some .pathSeparator then []
    else match rest with
      | opening :: rest =>
        match if opening.opens then splitGroup? 0 rest else none with
        | some (content, []) => readEntries content
        | _ => [.broken]
      | [] => [.broken]
  | _ => []

end RecordFilter.Derive
