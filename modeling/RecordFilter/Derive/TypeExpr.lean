import RecordFilter.Derive.Token

/-!
# Types

`TypeExpr.ofTokens?` reads the text of a type: paths with arguments in angle
brackets, references and pointers, tuples, arrays and slices, functions, and bounds
with or without a keyword in front.  The length of an array and a block among the
arguments are expressions; their tokens are kept as they are.

What is kept of a type is the path it is, if it is one, and its tokens in the order
in which they are written out: among the arguments of a name the lifetimes stand
first.
-/

namespace RecordFilter.Derive

/-- What an argument in angle brackets is. -/
inductive ArgumentKind where
  | lifetime
  | type
  | constant
  /-- A type, a constant or bounds for a name of the trait. -/
  | binding
  deriving DecidableEq, Repr

/-- An argument in angle brackets; a comma may follow it. -/
structure Argument where
  kind : ArgumentKind
  tokens : List Token
  comma : Bool
  deriving DecidableEq, Repr

/-- A name of a path with its arguments in angle brackets, if it takes any. -/
structure Segment where
  name : List Char
  arguments : Option (List Argument)
  deriving DecidableEq, Repr

/-- A path with its tokens.  It is plain when every name stands without arguments,
    and single when it is one name with no more than arguments in angle brackets. -/
structure PathExpr where
  segments : List Segment
  plain : Bool
  single : Bool
  tokens : List Token
  deriving DecidableEq, Repr

/-- A type with its tokens. -/
structure TypeExpr where
  /-- The path, when the type is one. -/
  path : Option PathExpr
  tokens : List Token
  deriving DecidableEq, Repr

/-- The words that are no names of their own. -/
def keywords : List (List Char) :=
  ["_", "abstract", "as", "async", "await", "become", "box", "break", "const", "continue",
    "crate", "do", "dyn", "else", "enum", "extern", "false", "final", "fn", "for", "if", "impl",
    "in", "let", "loop", "macro", "match", "mod", "move", "mut", "override", "priv", "pub", "ref",
    "return", "Self", "self", "static", "struct", "super", "trait", "true", "try", "type",
    "typeof", "unsafe", "unsized", "use", "virtual", "where", "while", "yield"].map String.toList

/-- The keywords that stand in a path without arguments. -/
def bareSegments : List (List Char) :=
  ["super", "self", "crate", "try"].map String.toList

/-- A token of a keyword. -/
def keyword (name : String) : Token := .word name.toList

/-- Whether a word is a name. -/
def isName : Token → Bool
  | .word name => !keywords.contains name
  | _ => false

/-! ## Steps -/

/-- Reading of tokens: a result and the tokens that are left, or failure. -/
abbrev Reading := StateT (List Token) Option

namespace Reading

/-- Whether the next tokens are the given ones. -/
def startsWith (tokens : List Token) : Reading Bool :=
  return tokens.isPrefixOf (← get)

/-- Takes one token of which a condition holds. -/
def takeIf (condition : Token → Bool) : Reading Token := do
  match ← get with
  | token :: rest => if condition token then do set rest; return token else failure
  | [] => failure

/-- Takes the given token. -/
def take (token : Token) : Reading (List Token) :=
  return [← takeIf (· == token)]

/-- Takes the given token, if it is next. -/
def optional (token : Token) : Reading (List Token) := do
  if ← startsWith [token] then take token else return []

/-- Takes a group: its brackets and its content. -/
def group : Reading (Token × List Token × Token) := do
  let opening ← takeIf Token.opens
  match opening.closing?, splitGroup? 0 (← get) with
  | some closing, some (content, rest) => do set rest; return (opening, content, closing)
  | _, _ => failure

/-- Takes a group as it is. -/
def plainGroup : Reading (List Token) := do
  let (opening, content, closing) ← group
  return opening :: content ++ [closing]

/-- Reads all of the given tokens. -/
def whole {α : Type} (reading : Reading α) (tokens : List Token) : Option α :=
  match reading.run tokens with
  | some (result, []) => some result
  | _ => none

/-- Whether a group in round brackets is next. -/
def atRound : Reading Bool :=
  startsWith [.symbol ['(']]

/-- Takes a group in round brackets and reads all of its content. -/
def inRound (reading : Reading (List Token)) : Reading (List Token) := do
  if ← atRound then
    let (opening, content, closing) ← group
    return opening :: (← whole reading content) ++ [closing]
  else failure

/-- Takes the tokens up to the angle bracket that closes those opened. -/
def untilGreater (depth : Nat) : List Token → Option (List Token × List Token)
  | [] => none
  | token :: rest =>
    let depth := if token = .less then depth + 1 else if token = .greater then depth - 1 else depth
    if depth = 0 then some ([token], rest)
    else (untilGreater depth rest).map fun (taken, rest) => (token :: taken, rest)

/-- Takes lifetimes that are bound in angle brackets after their keyword. -/
def binder : Reading (List Token) := do
  if ← startsWith [keyword "for", .less] then do
    match untilGreater 0 (← get).tail with
    | some (taken, rest) => do set rest; return keyword "for" :: taken
    | none => failure
  else return []

/-- Whether a lifetime is next. -/
def atLifetime : Reading Bool := do
  match ← get with
  | .lifetime _ :: _ => return true
  | _ => return false

/-- Whether a literal is next: a text, a number with or without a sign, or a truth
    value. -/
def atLiteral : Reading Bool := do
  match ← get with
  | .literal _ :: _ | .text .. :: _ => return true
  | .symbol ['-'] :: .literal (digit :: _) :: _ => return digit.isDigit
  | token :: _ => return token == keyword "true" || token == keyword "false"
  | [] => return false

/-- Takes the next token. -/
def next : Reading Token :=
  takeIf fun _ => true

/-- Takes a literal. -/
def literal : Reading (List Token) := do
  return (← optional .minus) ++ [← next]

/-- Whether a constant is next: a literal or a block. -/
def atConstant : Reading Bool := do
  return (← atLiteral) || (← startsWith [.symbol ['\x7b']])

/-- Takes a constant; a block is taken as it is. -/
def constant : Reading (List Token) := do
  if ← atLiteral then literal else plainGroup

/-- Takes a lifetime, if one is next. -/
def optionalLifetime : Reading (List Token) := do
  if ← atLifetime then return [← next] else return []

/-- Whether another bound may follow a plus sign. -/
def atBound : Reading Bool := do
  match ← get with
  | .word _ :: _ | .lifetime _ :: _ => return true
  | token :: _ => return token == .pathSeparator || token == .symbol ['?'] || token == .symbol ['(']
  | [] => return false

/-- Takes the name of a parameter with its colon, if there is one. -/
def parameterName : Reading (List Token) := do
  match ← get with
  | .word _ :: .symbol [':'] :: _ => return [← next, ← next]
  | _ => return []

/-- Whether arguments in round brackets are next. -/
def atInputs : Reading Bool := do
  return (← atRound) || (← startsWith [.pathSeparator, .symbol ['(']])

end Reading

/-- Arguments in the order in which they are written out: lifetimes first, and a
    comma wherever another argument follows. -/
def Argument.ordered (arguments : List Argument) : List Token :=
  let write (state : List Token × Bool) (argument : Argument) : List Token × Bool :=
    let tokens := if state.2 then state.1 else state.1 ++ [.comma]
    (tokens ++ argument.tokens ++ (if argument.comma then [.comma] else []), argument.comma)
  let lifetimes := arguments.filter (·.kind = .lifetime)
  let others := arguments.filter (·.kind ≠ .lifetime)
  let written := lifetimes.flatMap fun argument =>
    argument.tokens ++ (if argument.comma then [.comma] else [])
  (others.foldl write (written, lifetimes.getLast?.all Argument.comma)).1

open Reading

mutual

/-- Reads a type; `plus` tells whether bounds may be joined to it. -/
def readType (plus : Bool) : Nat → Reading TypeExpr
  | 0 => failure
  | fuel + 1 => do
    let lifetimes ← binder
    match ← get with
    | .symbol ['('] :: _ => readParenthesized plus fuel
    | .symbol ['['] :: _ => do
      let (opening, content, closing) ← group
      return ⟨none, opening :: (← whole (readArray fuel) content) ++ [closing]⟩
    | .symbol ['&'] :: _ => do
      let sign ← next
      let lifetime ← optionalLifetime
      let mutable ← optional (keyword "mut")
      return ⟨none, sign :: lifetime ++ mutable ++ (← readType false fuel).tokens⟩
    | .symbol ['*'] :: _ => do
      let sign ← next
      let access ← takeIf fun token => token == keyword "const" || token == keyword "mut"
      return ⟨none, sign :: access :: (← readType false fuel).tokens⟩
    | .symbol ['!'] :: _ => return ⟨none, [← next]⟩
    | .lifetime _ :: _ => return ⟨none, ← readBounds plus fuel⟩
    | token :: _ =>
      if token == keyword "_" then return ⟨none, [← next]⟩
      else if token == keyword "dyn" || token == keyword "impl" then do
        let word ← next
        return ⟨none, word :: (← readBounds plus fuel)⟩
      else if token == keyword "fn" || token == keyword "unsafe" || token == keyword "extern" then
        return ⟨none, lifetimes ++ (← readFunction fuel)⟩
      else readNamed plus lifetimes fuel
    | [] => failure

/-- Reads a type that starts with a path. -/
def readNamed (plus : Bool) (lifetimes : List Token) : Nat → Reading TypeExpr
  | 0 => failure
  | fuel + 1 => do
    if ← startsWith [.less] then
      let path ← readQualified fuel
      return ⟨some path, path.tokens⟩
    else
      let path ← readInputs true (← readPath fuel) fuel
      if path.plain && (← startsWith [.symbol ['!']]) then
        let mark ← next
        return ⟨none, path.tokens ++ mark :: (← plainGroup)⟩
      else if !lifetimes.isEmpty || (plus && (← startsWith [.plus])) then
        let rest ← if plus then readMoreBounds fuel else pure []
        return ⟨none, lifetimes ++ path.tokens ++ rest⟩
      else return ⟨some path, path.tokens⟩

/-- Reads a type in round brackets: a tuple, a type of its own, or the first of
    several bounds. -/
def readParenthesized (plus : Bool) : Nat → Reading TypeExpr
  | 0 => failure
  | fuel + 1 => do
    let (opening, content, closing) ← group
    let inner ← if content.head? = some (.symbol ['?']) then whole (readBounds true fuel) content
      else whole (readTypes fuel) content
    let rest ← if plus then readMoreBounds fuel else pure []
    return ⟨none, opening :: inner ++ closing :: rest⟩

/-- Reads types between commas; a comma may stand at the end. -/
def readTypes : Nat → Reading (List Token)
  | 0 => failure
  | fuel + 1 => do
    if (← get).isEmpty then return []
    else
      let type ← readType true fuel
      if (← get).isEmpty then return type.tokens
      else
        let comma ← take .comma
        return type.tokens ++ comma ++ (← readTypes fuel)

/-- Reads the inside of an array or a slice. -/
def readArray : Nat → Reading (List Token)
  | 0 => failure
  | fuel + 1 => do
    let element ← readType true fuel
    if (← get).isEmpty then return element.tokens
    else
      let sign ← take .semicolon
      let length ← get
      set ([] : List Token)
      if length.isEmpty then failure else return element.tokens ++ sign ++ length

/-- Reads a function: what stands in front of the keyword, the inputs, the result. -/
def readFunction : Nat → Reading (List Token)
  | 0 => failure
  | fuel + 1 => do
    let guarded ← optional (keyword "unsafe")
    let foreign ← optional (keyword "extern")
    let language ← if !foreign.isEmpty && (← atLiteral) then literal else pure []
    let word ← take (keyword "fn")
    let inputs ← inRound (readParameters fuel)
    return guarded ++ foreign ++ language ++ word ++ inputs ++ (← readResult fuel)

/-- Reads parameters, each with or without a name; three points may stand last. -/
def readParameters : Nat → Reading (List Token)
  | 0 => failure
  | fuel + 1 => do
    let points : List Token := List.replicate 3 (.symbol ['.'])
    if (← get).isEmpty then return []
    else
      let name ← parameterName
      if (← get) = points then
        set ([] : List Token)
        return name ++ points
      else
        let type ← readType true fuel
        if (← get).isEmpty then return name ++ type.tokens
        else
          let comma ← take .comma
          return name ++ type.tokens ++ comma ++ (← readParameters fuel)

/-- Reads the result of a function, if one is given. -/
def readResult : Nat → Reading (List Token)
  | 0 => failure
  | fuel + 1 => do
    if ← startsWith [.arrow] then
      let sign ← take .arrow
      return sign ++ (← readType false fuel).tokens
    else return []

/-- Reads bounds joined by plus signs, of which one at least is no lifetime. -/
def readBounds (plus : Bool) : Nat → Reading (List Token)
  | 0 => failure
  | fuel + 1 => do
    let bound ← readBound fuel
    let rest ← if plus then readMoreBounds fuel else pure []
    let isBound : Token → Bool
      | .lifetime _ | .symbol ['+'] => false
      | _ => true
    if (bound ++ rest).any isBound then return bound ++ rest else failure

/-- Reads the bounds that follow a first one; a plus sign may stand at the end. -/
def readMoreBounds : Nat → Reading (List Token)
  | 0 => failure
  | fuel + 1 => do
    if ← startsWith [.plus] then
      let sign ← take .plus
      if ← atBound then
        let bound ← readBound fuel
        return sign ++ bound ++ (← readMoreBounds fuel)
      else return sign
    else return []

/-- Reads a bound: a lifetime, or the path of a trait. -/
def readBound : Nat → Reading (List Token)
  | 0 => failure
  | fuel + 1 => do
    if ← atLifetime then return [← next]
    else if ← atRound then inRound (readBound fuel)
    else
      let lifetimes ← binder
      let question ← optional (.symbol ['?'])
      let later ← if lifetimes.isEmpty then binder else pure []
      let path ← readInputs false (← readPath fuel) fuel
      return lifetimes ++ question ++ later ++ path.tokens

/-- Reads the inputs and the result that may follow the last name of a path.  After
    inputs without a result the path of a type may go on. -/
def readInputs (goesOn : Bool) (path : PathExpr) : Nat → Reading PathExpr
  | 0 => failure
  | fuel + 1 => do
    if path.segments.getLast?.any (·.arguments.isNone) && (← atInputs) then
      let _ ← optional .pathSeparator
      let inputs ← inRound (readTypes fuel)
      let result ← readResult fuel
      let path : PathExpr := ⟨path.segments, false, false, path.tokens ++ inputs ++ result⟩
      if goesOn && result.isEmpty && (← startsWith [.pathSeparator]) then
        let more ← readSegments fuel
        readInputs true ⟨more.segments, false, false, path.tokens ++ more.tokens⟩ fuel
      else
        let closed := path.segments.dropLast ++ path.segments.getLast?.toList.map fun segment =>
          { segment with arguments := some [] }
        return { path with segments := closed }
    else return path

/-- Reads a path that starts with a qualification in angle brackets. -/
def readQualified : Nat → Reading PathExpr
  | 0 => failure
  | fuel + 1 => do
    let first ← take .less
    let subject ← readType true fuel
    let trait ← if ← startsWith [keyword "as"] then do
        let word ← next
        pure (word :: (← readPath fuel).tokens)
      else pure []
    let last ← take .greater
    let rest ← readSegments fuel
    if rest.segments.isEmpty then failure
    else
      return ⟨rest.segments, false, false, first ++ subject.tokens ++ trait ++ last ++ rest.tokens⟩

/-- Reads a path, which may start with a separator. -/
def readPath : Nat → Reading PathExpr
  | 0 => failure
  | fuel + 1 => do
    let start ← optional .pathSeparator
    let (segment, tokens) ← readSegment fuel
    let more ← readSegments fuel
    return {
      segments := segment :: more.segments
      plain := segment.arguments.isNone && more.plain
      single := start.isEmpty && more.segments.isEmpty
      tokens := start ++ tokens ++ more.tokens }

/-- Reads further names of a path, each after a separator. -/
def readSegments : Nat → Reading PathExpr
  | 0 => failure
  | fuel + 1 => do
    if (← startsWith [.pathSeparator]) && !(← startsWith [.pathSeparator, .symbol ['(']]) then
      let separator ← take .pathSeparator
      let (segment, tokens) ← readSegment fuel
      let more ← readSegments fuel
      return {
        segments := segment :: more.segments
        plain := segment.arguments.isNone && more.plain
        single := false
        tokens := separator ++ tokens ++ more.tokens }
    else return ⟨[], true, false, []⟩

/-- Reads a name of a path with its arguments in angle brackets. -/
def readSegment : Nat → Reading (Segment × List Token)
  | 0 => failure
  | fuel + 1 => do
    let token ← takeIf fun token =>
      isName token || token == keyword "Self" || bareSegments.contains token.source
    let takesArguments := !bareSegments.contains token.source &&
      ((← startsWith [.less]) || (← startsWith [.pathSeparator, .less]))
    if takesArguments then
      let separator ← optional .pathSeparator
      let first ← take .less
      let arguments ← readArguments fuel
      let last ← take .greater
      return (⟨token.source, some arguments⟩,
        token :: separator ++ first ++ Argument.ordered arguments ++ last)
    else return (⟨token.source, none⟩, [token])

/-- Reads arguments between commas up to the closing angle bracket. -/
def readArguments : Nat → Reading (List Argument)
  | 0 => failure
  | fuel + 1 => do
    if ← startsWith [.greater] then return []
    else
      let (kind, tokens) ← readArgument fuel
      if ← startsWith [.greater] then return [⟨kind, tokens, false⟩]
      else
        let _ ← take .comma
        return ⟨kind, tokens, true⟩ :: (← readArguments fuel)

/-- Reads one argument. -/
def readArgument : Nat → Reading (ArgumentKind × List Token)
  | 0 => failure
  | fuel + 1 => do
    let isLone : List Token → Bool
      | .lifetime _ :: next :: _ => next != .plus
      | .lifetime _ :: [] => true
      | _ => false
    if isLone (← get) then return (.lifetime, [← next])
    else if ← atConstant then return (.constant, ← constant)
    else
      let type ← readType true fuel
      if type.path.any PathExpr.single && (← startsWith [.equals]) then
        let sign ← take .equals
        let value ← if ← atConstant then constant else TypeExpr.tokens <$> readType true fuel
        return (.binding, type.tokens ++ sign ++ value)
      else if type.path.any PathExpr.single && (← startsWith [.colon]) then
        let sign ← take .colon
        if (← startsWith [.comma]) || (← startsWith [.greater]) then
          return (.binding, type.tokens ++ sign)
        else
          let bound ← readBound fuel
          return (.binding, type.tokens ++ sign ++ bound ++ (← readMoreBounds fuel))
      else return (.type, type.tokens)

end

/-- A bound on the depth of reading: no step goes deeper than eight steps for each
    token. -/
def depthLimit (tokens : List Token) : Nat :=
  8 * (tokens.length + 1)

/-- The type that tokens write. -/
def TypeExpr.ofTokens? (tokens : List Token) : Option TypeExpr :=
  whole (readType true (depthLimit tokens)) tokens

/-- The path that tokens write. -/
def PathExpr.ofTokens? (tokens : List Token) : Option PathExpr :=
  whole (readPath (depthLimit tokens)) tokens

/-- The name of the list type. -/
def vectorName : List Char := "Vec".toList

/-- The type of the elements, when a type is a path that ends in the list type with
    a type as its first argument. -/
def TypeExpr.vectorElement? (type : TypeExpr) : Option (List Token) :=
  match type.path.bind (·.segments.getLast?) with
  | some ⟨name, some (⟨.type, element, _⟩ :: _)⟩ => if name = vectorName then some element else none
  | _ => none

end RecordFilter.Derive
