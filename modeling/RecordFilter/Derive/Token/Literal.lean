import RecordFilter.Derive.Token
import RecordFilter.Text.Identifier

/-!
# Literals

Quoted texts with escapes, raw texts between marks, single characters, texts of
bytes, and numbers.  Any of them may have a name right after it, its suffix.

Each function takes what follows the mark that tells the literal and returns it
together with the rest.
-/

namespace RecordFilter.Derive.Token

/-- The value of a hexadecimal digit. -/
def hexValue? (c : Char) : Option Nat :=
  if c.isDigit then some (c.toNat - '0'.toNat)
  else if 'a' ≤ c ∧ c ≤ 'f' then some (c.toNat - 'a'.toNat + 10)
  else if 'A' ≤ c ∧ c ≤ 'F' then some (c.toNat - 'A'.toNat + 10)
  else none

/-- The character with a code. -/
def character? (code : Nat) : Option Char :=
  if code.isValidChar then some (Char.ofNat code) else none

/-- Reads the code of a character up to the closing brace: one to six hexadecimal
    digits, with underscores after the first. -/
def readCode (code digits : Nat) : List Char → Option (Char × List Char)
  | [] => none
  | c :: rest =>
    if c = '\x7d' then
      if digits = 0 then none else (character? code).map fun char => (char, rest)
    else if c = '_' ∧ digits ≠ 0 then readCode code digits rest
    else if digits = 6 then none
    else (hexValue? c).bind fun value => readCode (code * 16 + value) (digits + 1) rest

/-- Reads an escape after its backslash.  Two hexadecimal digits name a character of
    the ASCII range, and any byte where the text is one of bytes. -/
def readEscape (bytes : Bool) : List Char → Option (Char × List Char)
  | 'n' :: rest => some ('\n', rest)
  | 'r' :: rest => some ('\r', rest)
  | 't' :: rest => some ('\t', rest)
  | '0' :: rest => some ('\x00', rest)
  | '\\' :: rest => some ('\\', rest)
  | '\'' :: rest => some ('\'', rest)
  | '"' :: rest => some ('"', rest)
  | 'x' :: high :: low :: rest => do
    let high ← hexValue? high
    let low ← hexValue? low
    if bytes || high < 8 then some (Char.ofNat (high * 16 + low), rest) else none
  | 'u' :: '\x7b' :: rest => readCode 0 0 rest
  | _ => none

/-- Reads a quoted text up to its closing quote.  A backslash at the end of a line
    takes the line end and the white space after it out of the text, and a line end
    of two characters counts as one. -/
def readQuoted (bytes : Bool) : Nat → List Char → Option (List Char × List Char)
  | 0, _ => none
  | fuel + 1, chars =>
    match chars with
    | '"' :: rest => some ([], rest)
    | '\\' :: '\n' :: rest | '\\' :: '\r' :: '\n' :: rest =>
      readQuoted bytes fuel (Text.skipBlank rest)
    | '\\' :: rest => do
      let (char, rest) ← readEscape bytes rest
      let (content, rest) ← readQuoted bytes fuel rest
      some (char :: content, rest)
    | '\r' :: '\n' :: rest =>
      (readQuoted bytes fuel rest).map fun (content, rest) => ('\n' :: content, rest)
    | '\r' :: _ => none
    | c :: rest => (readQuoted bytes fuel rest).map fun (content, rest) => (c :: content, rest)
    | [] => none

/-- Reads a raw text up to a quote with the given marks after it. -/
def readRaw (marks : List Char) : List Char → Option (List Char × List Char)
  | [] => none
  | c :: rest =>
    if c = '"' ∧ marks.isPrefixOf rest then some ([], rest.drop marks.length)
    else if c = '\r' ∧ rest.head? ≠ some '\n' then none
    else (readRaw marks rest).map fun (content, rest) => (c :: content, rest)

/-- Reads a raw text from the marks in front of its opening quote. -/
def readMarked (chars : List Char) : Option (List Char × List Char) :=
  let marks := chars.takeWhile (· == '#')
  match chars.drop marks.length with
  | '"' :: rest => readRaw marks rest
  | _ => none

/-- Reads a character up to its closing quote. -/
def readCharacter (bytes : Bool) (chars : List Char) : Option (List Char) :=
  match chars with
  | '\\' :: rest =>
    match readEscape bytes rest with
    | some (_, '\'' :: rest) => some rest
    | _ => none
  | _ :: '\'' :: rest => some rest
  | _ => none

/-- Reads a name that is not raw, if there is one. -/
def readName (chars : List Char) : List Char × List Char :=
  if chars.head?.any Text.isIdentifierStart then chars.span Text.isIdentifierChar
  else ([], chars)

/-- What was written before the rest. -/
def writtenBefore (chars rest : List Char) : List Char :=
  chars.take (chars.length - rest.length)

/-- Reads an exponent with at least one digit, if there is one. -/
def readExponent (chars : List Char) : List Char × List Char :=
  let digits (chars : List Char) : Option (List Char) :=
    let rest := chars.dropWhile fun c => c.isDigit || c == '_'
    if (writtenBefore chars rest).any Char.isDigit then some rest else none
  let rest? := match chars with
    | mark :: sign :: rest =>
      if mark = 'e' ∨ mark = 'E' then digits (if sign = '+' ∨ sign = '-' then rest else sign :: rest)
      else none
    | _ => none
  match rest? with
  | some rest => (writtenBefore chars rest, rest)
  | none => ([], chars)

/-- Reads a fraction: a point that neither a second point nor a name follows. -/
def readFraction (chars : List Char) : List Char × List Char :=
  match chars with
  | '.' :: rest =>
    if rest.head?.any fun c => c == '.' || Text.isIdentifierStart c then ([], chars)
    else
      let (digits, rest) := rest.span fun c => c.isDigit || c == '_'
      ('.' :: digits, rest)
  | _ => ([], chars)

/-- Reads a number with its suffix. -/
def readNumber (chars : List Char) : List Char × List Char :=
  let (whole, rest) := chars.span fun c => c.isDigit || c == '_'
  let (fraction, rest) := readFraction rest
  let (exponent, rest) := readExponent rest
  let (suffix, rest) := readName rest
  (whole ++ fraction ++ exponent ++ suffix, rest)

/-- Reads a text, of characters or bytes, from its first character. -/
def readText (chars : List Char) : Option (Token × List Char) :=
  let quoted (read : Option (List Char × List Char)) : Option (Token × List Char) :=
    read.map fun (content, rest) =>
      let (suffix, after) := readName rest
      (.text (writtenBefore chars rest) content suffix, after)
  let other (rest : Option (List Char)) : Option (Token × List Char) :=
    rest.map fun rest =>
      let (_, rest) := readName rest
      (.literal (writtenBefore chars rest), rest)
  match chars with
  | '"' :: rest => quoted (readQuoted false chars.length rest)
  | 'r' :: '"' :: rest => quoted (readMarked ('"' :: rest))
  | 'r' :: '#' :: '"' :: rest => quoted (readMarked ('#' :: '"' :: rest))
  | 'r' :: '#' :: '#' :: rest => quoted (readMarked ('#' :: '#' :: rest))
  | 'b' :: '"' :: rest | 'c' :: '"' :: rest =>
    other ((readQuoted true chars.length rest).map Prod.snd)
  | 'b' :: 'r' :: '"' :: rest | 'c' :: 'r' :: '"' :: rest =>
    other ((readMarked ('"' :: rest)).map Prod.snd)
  | 'b' :: 'r' :: '#' :: rest | 'c' :: 'r' :: '#' :: rest =>
    other ((readMarked ('#' :: rest)).map Prod.snd)
  | 'b' :: '\'' :: rest => other (readCharacter true rest)
  | '\'' :: rest => other (readCharacter false rest)
  | _ => none

end RecordFilter.Derive.Token
