import RecordFilter.Json.Number

/-!
# Reading JSON text

`Json.parse?` reads exactly one value with blanks around it.  Each step of the
reader uses up fuel, and a text of `n` characters never needs more than `n` steps
down any branch.
-/

namespace RecordFilter.Json.Reader

/-- The characters that may stand between tokens. -/
def isGap (c : Char) : Bool :=
  c == ' ' || c == '\n' || c == '\t' || c == '\r'

/-- Drops the gap at the start. -/
def skipGap (text : List Char) : List Char :=
  text.dropWhile isGap

/-- Joins pairs of surrogates; a surrogate without its partner has no character. -/
def joinCodes : List Nat → Option (List Char)
  | [] => some []
  | high :: low :: rest =>
    if 0xD800 ≤ high ∧ high < 0xDC00 ∧ 0xDC00 ≤ low ∧ low < 0xE000 then
      (joinCodes rest).map (Char.ofNat (0x10000 + (high - 0xD800) * 0x400 + (low - 0xDC00)) :: ·)
    else if 0xD800 ≤ high ∧ high < 0xE000 then none
    else (joinCodes (low :: rest)).map (Char.ofNat high :: ·)
  | [code] => if 0xD800 ≤ code ∧ code < 0xE000 then none else some [Char.ofNat code]

/-- The value of four hexadecimal digits. -/
def hexCode? (digits : List Char) : Option Nat :=
  let value? (c : Char) : Option Nat :=
    if c.isDigit then some (c.toNat - '0'.toNat)
    else if 'a' ≤ c ∧ c ≤ 'f' then some (c.toNat - 'a'.toNat + 10)
    else if 'A' ≤ c ∧ c ≤ 'F' then some (c.toNat - 'A'.toNat + 10)
    else none
  (digits.mapM value?).map fun values => values.foldl (fun n v => n * 16 + v) 0

/-- The code an escape of one letter stands for. -/
def escapeCode? : Char → Option Nat
  | '"' => some '"'.toNat
  | '\\' => some '\\'.toNat
  | '/' => some '/'.toNat
  | 'b' => some 8
  | 'f' => some 12
  | 'n' => some 10
  | 'r' => some 13
  | 't' => some 9
  | _ => none

/-- Reads the rest of a string after its opening quote, as codes last one first. -/
def readString (codes : List Nat) : List Char → Option (List Nat × List Char)
  | '"' :: rest => some (codes, rest)
  | '\\' :: 'u' :: a :: b :: c :: d :: rest =>
    (hexCode? [a, b, c, d]).bind fun code => readString (code :: codes) rest
  | '\\' :: c :: rest => (escapeCode? c).bind fun code => readString (code :: codes) rest
  | c :: rest => if c.toNat < 0x20 ∨ c = '\\' then none else readString (c.toNat :: codes) rest
  | [] => none

/-- Reads a string after its opening quote. -/
def string? (text : List Char) : Option (Option String × List Char) :=
  (readString [] text).map fun (codes, rest) =>
    ((joinCodes codes.reverse).map String.ofList, rest)

/-- Reads digits, at least one. -/
def digits? (text : List Char) : Option (List Char × List Char) :=
  let digits := text.takeWhile Char.isDigit
  if digits.isEmpty then none else some (digits, text.drop digits.length)

/-- Reads an exponent, if there is one. -/
def exponent? : List Char → Option (List Char × List Char)
  | mark :: rest =>
    if mark = 'e' ∨ mark = 'E' then
      match rest with
      | '+' :: digits => (digits? digits).map fun (ds, rest) => (mark :: '+' :: ds, rest)
      | '-' :: digits => (digits? digits).map fun (ds, rest) => (mark :: '-' :: ds, rest)
      | digits => (digits? digits).map fun (ds, rest) => (mark :: ds, rest)
    else some ([], mark :: rest)
  | [] => some ([], [])

/-- Reads an unsigned number: no zero in front of another digit, and digits on
    both sides of a point. -/
def unsigned? (text : List Char) : Option (List Char × List Char) := do
  let (whole, rest) ← digits? text
  if whole.head? = some '0' ∧ 1 < whole.length then none
  else
    let (fraction, rest) ← match rest with
      | '.' :: rest => (digits? rest).map fun (ds, rest) => ('.' :: ds, rest)
      | rest => some ([], rest)
    let (exponent, rest) ← exponent? rest
    some (whole ++ fraction ++ exponent, rest)

/-- Reads the text of a number. -/
def number? : List Char → Option (List Char × List Char)
  | '-' :: rest => (unsigned? rest).map fun (literal, rest) => ('-' :: literal, rest)
  | rest => unsigned? rest

/-- Passes a word. -/
def word? (word : String) (value : Json) (text : List Char) : Option (Json × List Char) :=
  if word.toList.isPrefixOf text then some (value, text.drop word.length) else none

mutual

/-- Reads a value after a gap. -/
def value? : Nat → List Char → Option (Json × List Char)
  | 0, _ => none
  | fuel + 1, text =>
    match skipGap text with
    | '"' :: rest => (string? rest).map fun (text, rest) => (.string text, rest)
    | '[' :: rest =>
      match skipGap rest with
      | ']' :: rest => some (.array [], rest)
      | rest => (items? fuel rest).map fun (items, rest) => (.array items, rest)
    | '\x7b' :: rest =>
      match skipGap rest with
      | '\x7d' :: rest => some (.object [], rest)
      | rest => (members? fuel rest).map fun (members, rest) => (.object members, rest)
    | 'n' :: rest => word? "null" .null ('n' :: rest)
    | 't' :: rest => word? "true" (.bool true) ('t' :: rest)
    | 'f' :: rest => word? "false" (.bool false) ('f' :: rest)
    | rest => (number? rest).map fun (literal, rest) => (.number literal, rest)

/-- Reads items up to the closing bracket. -/
def items? : Nat → List Char → Option (List Json × List Char)
  | 0, _ => none
  | fuel + 1, text =>
    (value? fuel text).bind fun (item, rest) =>
      match skipGap rest with
      | ',' :: rest => (items? fuel rest).map fun (items, rest) => (item :: items, rest)
      | ']' :: rest => some ([item], rest)
      | _ => none

/-- Reads members up to the closing brace. -/
def members? : Nat → List Char → Option (List (Option String × Json) × List Char)
  | 0, _ => none
  | fuel + 1, text =>
    match skipGap text with
    | '"' :: rest =>
      (string? rest).bind fun (key, rest) =>
        match skipGap rest with
        | ':' :: rest =>
          (value? fuel rest).bind fun (value, rest) =>
            match skipGap rest with
            | ',' :: rest =>
              (members? fuel rest).map fun (members, rest) => ((key, value) :: members, rest)
            | '\x7d' :: rest => some ([(key, value)], rest)
            | _ => none
        | _ => none
    | _ => none

end

end RecordFilter.Json.Reader

namespace RecordFilter.Json

/-- Reads a text that holds one value. -/
def parse? (text : String) : Option Json :=
  let chars := text.toList
  (Reader.value? (chars.length + 1) chars).bind fun (value, rest) =>
    if (Reader.skipGap rest).isEmpty then some value else none

end RecordFilter.Json
