import RecordFilter.Derive.Token.Literal

/-!
# Reading tokens

Tokens may stand apart, with white space and comments between them.  Comments
between stars nest.  A comment that documents what follows it is no gap: it stands
for the attribute that holds its text.
-/

namespace RecordFilter.Derive.Token

/-! ## Gaps -/

/-- Whether a character may stand between tokens: white space and the two marks of
    direction. -/
def isGap (c : Char) : Bool :=
  Text.isBlank c || c == '\u200e' || c == '\u200f'

/-- The rest of a text after the line that starts it. -/
def afterLine (chars : List Char) : List Char :=
  chars.dropWhile (· != '\n')

/-- The rest of a text after the comment that was opened `depth` times. -/
def afterComment? : Nat → List Char → Option (List Char)
  | 0, chars => some chars
  | depth + 1, '*' :: '/' :: rest => afterComment? depth rest
  | depth + 1, '/' :: '*' :: rest => afterComment? (depth + 2) rest
  | depth + 1, _ :: rest => afterComment? (depth + 1) rest
  | _ + 1, [] => none

/-- Whether a comment documents what stands next to it, given what follows its two
    opening characters. -/
def documents (mark : Char) : List Char → Bool
  | '!' :: _ => true
  | c :: d :: _ => c == mark && d != mark && !(mark == '*' && d == '/')
  | [c] => c == mark
  | [] => false

/-- Drops white space and comments; a comment that is not closed stays. -/
def skipGap : Nat → List Char → List Char
  | 0, chars => chars
  | fuel + 1, chars =>
    match chars.dropWhile isGap with
    | '/' :: '/' :: rest =>
      if documents '/' rest then '/' :: '/' :: rest else skipGap fuel (afterLine rest)
    | '/' :: '*' :: rest =>
      if documents '*' rest then '/' :: '*' :: rest
      else match afterComment? 1 rest with
        | some after => skipGap fuel after
        | none => '/' :: '*' :: rest
    | rest => rest

/-- The attribute that holds a documenting text. -/
def documentation (inner : Bool) (content : List Char) : List Token :=
  .symbol ['#'] :: ((if inner then [.symbol ['!']] else []) ++
    [.symbol ['['], .word "doc".toList, .equals,
      .text ('"' :: content ++ ['"']) content [], .symbol [']']])

/-- Reads a comment that documents what stands next to it. -/
def readDocumentation : List Char → Option (List Token × List Char)
  | '/' :: '/' :: mark :: rest =>
    let after := afterLine rest
    some (documentation (mark == '!') (writtenBefore rest after), after)
  | '/' :: '*' :: mark :: rest =>
    (afterComment? 1 rest).map fun after =>
      let content := writtenBefore rest after
      (documentation (mark == '!') (content.take (content.length - 2)), after)
  | _ => none

/-! ## Tokens -/

/-- The names that cannot be written raw. -/
def neverRaw : List (List Char) :=
  ["crate", "self", "super", "Self", "_"].map String.toList

/-- Reads a name; a raw one carries its mark. -/
def readWord (chars : List Char) : Option (Token × List Char) :=
  match chars with
  | 'r' :: '#' :: rest =>
    let (name, rest) := readName rest
    if name.isEmpty ∨ neverRaw.contains name then none
    else some (.word ('r' :: '#' :: name), rest)
  | chars =>
    let (name, rest) := readName chars
    if name.isEmpty then none else some (.word name, rest)

/-- Reads a lifetime after its quote; no second quote may follow. -/
def readLifetime (chars : List Char) : Option (Token × List Char) :=
  (readWord chars).bind fun (token, rest) =>
    if rest.head? = some '\'' then none else some (.lifetime token.source, rest)

/-- The characters that stand for themselves. -/
def symbols : List Char :=
  "~!@#$%^&*-=+|;:,<.>/?()[]".toList ++ ['\x7b', '\x7d']

/-- Reads one token; there is no gap in front of it. -/
def read (chars : List Char) : Option (Token × List Char) :=
  (readText chars).orElse fun _ =>
    match chars with
    | ':' :: ':' :: rest => some (pathSeparator, rest)
    | '-' :: '>' :: rest => some (arrow, rest)
    | '/' :: '/' :: _ | '/' :: '*' :: _ => none
    | '\'' :: rest => readLifetime rest
    | c :: rest =>
      if c.isDigit then
        let (number, rest) := readNumber (c :: rest)
        some (.literal number, rest)
      else if symbols.contains c then some (.symbol [c], rest)
      else readWord (c :: rest)
    | [] => none

/-- Reads tokens; a text of `n` characters holds at most `n`. -/
def scan : Nat → List Char → Option (List Token)
  | 0, _ => none
  | fuel + 1, chars =>
    match skipGap chars.length chars with
    | [] => some []
    | rest =>
      match readDocumentation rest with
      | some (tokens, rest) => (scan fuel rest).map (tokens ++ ·)
      | none => do
        let (token, rest) ← read rest
        some (token :: (← scan fuel rest))

/-- The tokens of a text whose groups are closed. -/
def ofText? (source : String) : Option (List Token) :=
  (scan (source.length + 1) source.toList).bind fun tokens =>
    if areBalanced [] tokens then some tokens else none

end RecordFilter.Derive.Token
