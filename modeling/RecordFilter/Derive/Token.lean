import RecordFilter.Text.Blank

/-!
# Tokens of a declaration

Types, paths and attributes of a record declaration are read as tokens.  Two
symbols are told apart from their parts: the separator of a path and the arrow.
A group is what stands between an opening bracket and the bracket that closes it;
angle brackets make no group, because they also compare and shift.
-/

namespace RecordFilter.Derive

/-- A token. -/
inductive Token where
  /-- A name or a keyword. -/
  | word (name : List Char)
  /-- A name after a single quote. -/
  | lifetime (name : List Char)
  /-- A number, a character, or a text of bytes. -/
  | literal (source : List Char)
  /-- A quoted text, as written and as read, and the name written right after it. -/
  | text (source content suffix : List Char)
  | symbol (source : List Char)
  deriving DecidableEq, Repr

namespace Token

/-- The token as it was written. -/
def source : Token → List Char
  | word name => name
  | lifetime name => '\'' :: name
  | literal source => source
  | text source _ suffix => source ++ suffix
  | symbol source => source

/-- The separator of a path. -/
def pathSeparator : Token := .symbol [':', ':']

/-- The sign in front of the result of a function. -/
def arrow : Token := .symbol ['-', '>']

def comma : Token := .symbol [',']
def colon : Token := .symbol [':']
def semicolon : Token := .symbol [';']
def equals : Token := .symbol ['=']
def plus : Token := .symbol ['+']
def minus : Token := .symbol ['-']
def less : Token := .symbol ['<']
def greater : Token := .symbol ['>']

/-- The pairs of brackets that make a group. -/
def brackets : List (Token × Token) :=
  [(.symbol ['('], .symbol [')']), (.symbol ['['], .symbol [']']),
    (.symbol ['\x7b'], .symbol ['\x7d'])]

/-- The bracket that closes a group. -/
def closing? (opening : Token) : Option Token :=
  brackets.lookup opening

/-- Whether the token opens a group. -/
def opens (token : Token) : Bool :=
  token.closing?.isSome

/-- Whether the token closes a group. -/
def closes (token : Token) : Bool :=
  brackets.any (·.2 == token)

/-- The number of open groups after the token. -/
def depthAfter (depth : Nat) (token : Token) : Nat :=
  if token.opens then depth + 1 else if token.closes then depth - 1 else depth

end Token

/-- The tokens as written, without white space between or inside them. -/
def sourceOf (tokens : List Token) : String :=
  String.ofList ((tokens.flatMap Token.source).filter (!Text.isBlank ·))

/-- Whether every group is closed by its own bracket; the brackets that are expected
    are given, the next one first. -/
def areBalanced (expected : List Token) : List Token → Bool
  | [] => expected.isEmpty
  | token :: rest =>
    match token.closing? with
    | some closing => areBalanced (closing :: expected) rest
    | none =>
      if token.closes then
        match expected with
        | closing :: expected => token == closing && areBalanced expected rest
        | [] => false
      else areBalanced expected rest

/-- What stands before the bracket that closes a group, and what stands after it. -/
def splitGroup? : Nat → List Token → Option (List Token × List Token)
  | _, [] => none
  | depth, token :: rest =>
    if depth = 0 ∧ token.closes then some ([], rest)
    else (splitGroup? (token.depthAfter depth) rest).map fun (content, rest) =>
      (token :: content, rest)

/-- Puts a token in front of the first of several pieces. -/
def consPiece (token : Token) : List (List Token) → List (List Token)
  | [] => [[token]]
  | piece :: pieces => (token :: piece) :: pieces

/-- Cuts tokens at every separator that stands outside of groups. -/
def cut (separator : Token) : Nat → List Token → List (List Token)
  | _, [] => [[]]
  | depth, token :: rest =>
    if depth = 0 ∧ token = separator then [] :: cut separator 0 rest
    else consPiece token (cut separator (token.depthAfter depth) rest)

end RecordFilter.Derive
