import RecordFilter.Sql.Config.Options

/-!
# Configuration documents

A configuration document is TOML: lines of `key = value` with comments.  Options
take texts and truth values only, so a line with any other value, a dotted key or a
table is refused like a line that cannot be read.
-/

namespace RecordFilter.Sql.Config.Document

/-- Blanks within a line. -/
def isSpace (c : Char) : Bool := c == ' ' || c == '\t'

/-- Drops the blanks at the start. -/
def skipSpace (text : List Char) : List Char := text.dropWhile isSpace

/-- Whether a character may stand in a comment, and in a text before the rules for
    quotes and escapes: no control character but the tab. -/
def isShown (c : Char) : Bool :=
  c == '\t' || (0x20 ≤ c.toNat && c.toNat ≠ 0x7F)

/-- Whether a character may stand in a bare key. -/
def isKeyChar (c : Char) : Bool := c.isAlphanum || c == '_' || c == '-'

/-- The character with a hexadecimal code. -/
def charOfCode? (digits : List Char) : Option Char :=
  (Json.Reader.hexCode? digits).bind fun code =>
    if code < 0xD800 ∨ (0xE000 ≤ code ∧ code < 0x110000) then some (Char.ofNat code) else none

/-- The character an escape of one letter stands for. -/
def escape? : Char → Option Char
  | 'b' => some '\x08'
  | 't' => some '\t'
  | 'n' => some '\n'
  | 'f' => some '\x0c'
  | 'r' => some '\r'
  | '"' => some '"'
  | '\\' => some '\\'
  | _ => none

/-- A text being read and what follows it. -/
abbrev Reading := Option (List Char × List Char)

/-- Puts a character in front of the text being read. -/
def cons (c : Char) (reading : Reading) : Reading :=
  reading.map fun (text, rest) => (c :: text, rest)

/-- Reads a text in double quotes after its opening quote. -/
def basic : List Char → Reading
  | '"' :: rest => some ([], rest)
  | '\\' :: 'u' :: a :: b :: c :: d :: rest =>
    (charOfCode? [a, b, c, d]).bind fun char => cons char (basic rest)
  | '\\' :: 'U' :: a :: b :: c :: d :: e :: f :: g :: h :: rest =>
    (charOfCode? [a, b, c, d, e, f, g, h]).bind fun char => cons char (basic rest)
  | '\\' :: c :: rest => (escape? c).bind fun char => cons char (basic rest)
  | c :: rest => if isShown c ∧ c ≠ '\\' then cons c (basic rest) else none
  | [] => none

/-- Reads a text in single quotes after its opening quote. -/
def literal : List Char → Reading
  | '\'' :: rest => some ([], rest)
  | c :: rest => if isShown c then cons c (literal rest) else none
  | [] => none

/-- Whether only blanks stand before the end of the line. -/
def endsLine (text : List Char) : Bool :=
  match skipSpace text with
  | '\n' :: _ => true
  | '\r' :: '\n' :: _ => true
  | _ => false

/-- Reads a text of several lines in double quotes.  A backslash at the end of a
    line joins the lines; while `joining`, blanks and line ends are passed over. -/
def basicLines (joining : Bool) : List Char → Reading
  | '"' :: '"' :: '"' :: '"' :: '"' :: rest => some (['"', '"'], rest)
  | '"' :: '"' :: '"' :: '"' :: rest => some (['"'], rest)
  | '"' :: '"' :: '"' :: rest => some ([], rest)
  | '\r' :: '\n' :: rest =>
    if joining then basicLines true rest else cons '\n' (basicLines false rest)
  | '\n' :: rest => if joining then basicLines true rest else cons '\n' (basicLines false rest)
  | '\\' :: 'u' :: a :: b :: c :: d :: rest =>
    (charOfCode? [a, b, c, d]).bind fun char => cons char (basicLines false rest)
  | '\\' :: 'U' :: a :: b :: c :: d :: e :: f :: g :: h :: rest =>
    (charOfCode? [a, b, c, d, e, f, g, h]).bind fun char => cons char (basicLines false rest)
  | '\\' :: c :: rest =>
    if endsLine (c :: rest) then basicLines true rest
    else (escape? c).bind fun char => cons char (basicLines false rest)
  | c :: rest =>
    if joining ∧ isSpace c then basicLines true rest
    else if isShown c ∧ c ≠ '\\' then cons c (basicLines false rest)
    else none
  | [] => none

/-- Reads a text of several lines in single quotes. -/
def literalLines : List Char → Reading
  | '\'' :: '\'' :: '\'' :: '\'' :: '\'' :: rest => some (['\'', '\''], rest)
  | '\'' :: '\'' :: '\'' :: '\'' :: rest => some (['\''], rest)
  | '\'' :: '\'' :: '\'' :: rest => some ([], rest)
  | '\r' :: '\n' :: rest => cons '\n' (literalLines rest)
  | '\n' :: rest => cons '\n' (literalLines rest)
  | c :: rest => if isShown c then cons c (literalLines rest) else none
  | [] => none

/-- Drops a line end at the start. -/
def skipLineEnd : List Char → List Char
  | '\n' :: rest => rest
  | '\r' :: '\n' :: rest => rest
  | rest => rest

/-- Reads a key: a bare word or a text on one line. -/
def key? : List Char → Reading
  | '"' :: rest => basic rest
  | '\'' :: rest => literal rest
  | text =>
    let word := text.takeWhile isKeyChar
    if word.isEmpty then none else some (word, text.drop word.length)

/-- A text as the value of an option. -/
def ofReading (reading : Reading) : Option (OptionValue × List Char) :=
  reading.map fun (text, rest) => (.text (String.ofList text), rest)

/-- Reads a text or a truth value. -/
def value? : List Char → Option (OptionValue × List Char)
  | '"' :: '"' :: '"' :: rest => ofReading (basicLines false (skipLineEnd rest))
  | '\'' :: '\'' :: '\'' :: rest => ofReading (literalLines (skipLineEnd rest))
  | '"' :: rest => ofReading (basic rest)
  | '\'' :: rest => ofReading (literal rest)
  | 't' :: 'r' :: 'u' :: 'e' :: rest => some (.flag true, rest)
  | 'f' :: 'a' :: 'l' :: 's' :: 'e' :: rest => some (.flag false, rest)
  | _ => none

/-- Passes blanks, a comment and the end of the line, or the end of the text. -/
def lineEnd? (text : List Char) : Option (List Char) :=
  let rest := match skipSpace text with
    | '#' :: comment => comment.dropWhile isShown
    | rest => rest
  match rest with
  | [] => some []
  | '\n' :: rest => some rest
  | '\r' :: '\n' :: rest => some rest
  | _ => none

/-- Reads one line with an option. -/
def option? (text : List Char) : Option ((String × OptionValue) × List Char) := do
  let (key, rest) ← key? text
  match skipSpace rest with
  | '=' :: rest =>
    let (value, rest) ← value? (skipSpace rest)
    some ((String.ofList key, value), ← lineEnd? rest)
  | _ => none

/-- Reads the lines of a document. -/
def lines? : Nat → List Char → Option (List (String × OptionValue))
  | 0, _ => none
  | fuel + 1, text =>
    if text.isEmpty then some []
    else match lineEnd? text with
      | some rest => lines? fuel rest
      | none =>
        (option? (skipSpace text)).bind fun (option, rest) =>
          (lines? fuel rest).map (option :: ·)

/-- Reads a document; a byte order mark may stand in front. -/
def options? (text : String) : Option (List (String × OptionValue)) :=
  let chars := match text.toList with
    | '\ufeff' :: rest => rest
    | rest => rest
  lines? (chars.length + 1) chars

end Document

/-- The message for a document that cannot be read. -/
def malformed : String := "malformed SQL configuration"

/-- Reads a document and validates the configuration. -/
def fromDocument (text : String) : Except FilterError Config :=
  match (Document.options? text).bind ofOptions? with
  | some config => config.build
  | none => .error (.invalidConfiguration malformed)

end RecordFilter.Sql.Config
