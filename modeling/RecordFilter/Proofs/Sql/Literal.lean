import RecordFilter.Proofs.Number.Numeral
import RecordFilter.Proofs.Outcome
import RecordFilter.Proofs.Sql.Token
import RecordFilter.Proofs.Time.Pattern
import RecordFilter.Sql.Backend

/-!
# Tokens of names and literals

Every name that SQL conditions are written with is one token, and so is every literal:
a word, a signed number, or a string.  `lex_identifier` and `isToken_literal` say which.
-/

namespace RecordFilter.Sql

/-! ## Single tokens -/

/-- Whether a name reads as a word: word characters, the first of them no digit. -/
def isPlain (name : String) : Bool :=
  !name.isEmpty && !name.toList.head?.any Char.isDigit && name.toList.all isWordChar

theorem isBlank_of_isWordChar {c : Char} (word : isWordChar c = true) :
    Text.isBlank c = false := by
  rw [Bool.eq_false_iff]
  intro blank
  have code := isWordChar_toNat word
  have blankCode := isBlank_toNat blank
  omega

theorem ne_of_isWordChar {c other : Char} (word : isWordChar c = true)
    (noWord : isWordChar other = false) : c ≠ other := by
  rintro rfl
  rw [word] at noWord
  cases noWord

/-- A plain name is a word in front of what cannot be part of it. -/
theorem token?_word {name : String} (plain : isPlain name = true) {tail : List Char}
    (stop : ∀ c ∈ tail.head?, isWordChar c = false) :
    token? (name.toList ++ tail) = some (.word name, tail) := by
  simp only [isPlain, Bool.and_eq_true, Bool.not_eq_true', String.isEmpty_eq_false_iff] at plain
  obtain ⟨⟨nonempty, noDigit⟩, word⟩ := plain
  cases chars : name.toList with
  | nil => exact absurd (String.toList_eq_nil_iff.mp chars) nonempty
  | cons c rest =>
    have whole : String.ofList (c :: rest) = name := by rw [← chars, String.ofList_toList]
    rw [chars] at noDigit word
    have digit : c.isDigit = false := by simpa using noDigit
    have first := List.all_eq_true.mp word c List.mem_cons_self
    have others : ∀ a ∈ rest, isWordChar a = true := fun a member =>
      List.all_eq_true.mp word a (List.mem_cons_of_mem _ member)
    have sign : c ≠ '-' := ne_of_isWordChar first (by decide)
    rw [List.cons_append, token?_cons (isBlank_of_isWordChar first), readToken,
      if_neg (ne_of_isWordChar first (by decide)), if_neg (ne_of_isWordChar first (by decide)),
      if_neg (by simp [digit, sign]), if_pos first, takeWhile_append_of_stop stop,
      dropWhile_append_of_stop stop, List.takeWhile_eq_self_iff.mpr others,
      List.dropWhile_eq_nil_iff.mpr others, whole]
    rfl

theorem lex_word {name : String} (plain : isPlain name = true) {tail : List Char}
    (stop : ∀ c ∈ tail.head?, isWordChar c = false) :
    lex (name.toList ++ tail) = (lex tail).map (.word name :: ·) :=
  lex_of_token? (token?_word plain stop)

theorem lex_plain {name : String} (plain : isPlain name = true) :
    lex name.toList = some [.word name] := by
  have read := @lex_word name plain [] (by simp)
  rwa [List.append_nil, lex_nil] at read

theorem doubled_of_notMem {quote : Char} {text : List Char} (quoteFree : quote ∉ text) :
    doubled quote text = text := by
  induction text with
  | nil => rfl
  | cons c rest ih =>
    rw [List.mem_cons, not_or] at quoteFree
    rw [doubled_cons, if_neg (Ne.symm quoteFree.1), ih quoteFree.2]
    rfl

/-- A text between quotes is one token in front of anything but a quote. -/
theorem token?_quoteString (content : String) {tail : List Char}
    (alone : tail.head? ≠ some '\'') :
    token? ((quoteString content).toList ++ tail) = some (.text content, tail) := by
  have read := readQuoted_doubled alone content.toList
  rw [quoteString, enclosed, String.toList_ofList, List.cons_append, List.cons_append,
    List.append_assoc, token?_cons (by decide)]
  simp [readToken, read]

theorem lex_quoteString (content : String) {tail : List Char} (alone : tail.head? ≠ some '\'') :
    lex ((quoteString content).toList ++ tail) = (lex tail).map (.text content :: ·) :=
  lex_of_token? (token?_quoteString content alone)

theorem lex_quoted (content : String) :
    lex (quoteString content).toList = some [.text content] := by
  have read := @lex_quoteString content [] (by simp)
  rwa [List.append_nil, lex_nil] at read

theorem lex_escapeIdentifier (name : String) {tail : List Char} (alone : tail.head? ≠ some '"') :
    lex ((escapeIdentifier name).toList ++ tail) = (lex tail).map (.quoted name :: ·) := by
  have read := readQuoted_doubled alone name.toList
  rw [escapeIdentifier, enclosed, String.toList_ofList, List.cons_append, List.cons_append,
    List.append_assoc]
  refine lex_token (by decide) ?_
  simp [readToken, read]

theorem readNumber_digits {digits : List Char} (allDigits : ∀ c ∈ digits, c.isDigit = true) :
    readNumber digits = (digits, []) := by
  rw [readNumber, List.takeWhile_eq_self_iff.mpr allDigits, List.dropWhile_eq_nil_iff.mpr allDigits]

theorem readNumber_fraction {whole fraction : List Char}
    (wholeDigits : ∀ c ∈ whole, c.isDigit = true) (digits : IsDigits fraction) :
    readNumber (whole ++ '.' :: fraction) = (whole ++ '.' :: fraction, []) := by
  have point : ∀ c ∈ ('.' :: fraction).head?, c.isDigit = false := by simp
  obtain ⟨nonempty, all⟩ := digits
  cases fraction with
  | nil => exact absurd rfl nonempty
  | cons c rest =>
    have first := all c List.mem_cons_self
    rw [readNumber, takeWhile_append_of_stop point, dropWhile_append_of_stop point,
      List.takeWhile_eq_self_iff.mpr wholeDigits,
      List.dropWhile_eq_nil_iff.mpr wholeDigits, List.nil_append]
    simp only [first, if_true]
    rw [List.takeWhile_eq_self_iff.mpr all, List.dropWhile_eq_nil_iff.mpr all]

/-- A numeral starts with a digit, and is read to its end with or without that. -/
theorem readNumber_numeral {text : List Char} (numeral : IsNumeral text) :
    readNumber text = (text, []) ∧
      ∃ c rest, text = c :: rest ∧ c.isDigit = true ∧ readNumber rest = (rest, []) := by
  rcases numeral with digits | ⟨whole, fraction, digits, fractionDigits, rfl⟩
  · refine ⟨readNumber_digits digits.2, ?_⟩
    obtain ⟨c, rest, rfl⟩ := List.exists_cons_of_ne_nil digits.1
    exact ⟨c, rest, rfl, digits.2 c List.mem_cons_self,
      readNumber_digits fun a member => digits.2 a (List.mem_cons_of_mem _ member)⟩
  · refine ⟨readNumber_fraction digits.2 fractionDigits, ?_⟩
    obtain ⟨c, rest, rfl⟩ := List.exists_cons_of_ne_nil digits.1
    exact ⟨c, rest ++ '.' :: fraction, rfl, digits.2 c List.mem_cons_self,
      readNumber_fraction (fun a member => digits.2 a (List.mem_cons_of_mem _ member))
        fractionDigits⟩

/-- A signed numeral is one number in front of anything but a digit or a point. -/
theorem token?_number {text : String} (signed : IsSigned text.toList) {tail : List Char}
    (noDigit : ∀ c ∈ tail.head?, c.isDigit = false) (noPoint : tail.head? ≠ some '.') :
    token? (text.toList ++ tail) = some (.number text, tail) := by
  have further := @readNumber_append tail noDigit noPoint
  rcases signed with numeral | ⟨magnitude, numeral, negative⟩
  · obtain ⟨-, c, rest, chars, digit, read⟩ := readNumber_numeral numeral
    have word := isWordChar_of_isDigit digit
    rw [chars, List.cons_append, token?_cons (isBlank_of_isWordChar word), readToken,
      if_neg (ne_of_isWordChar word (by decide)), if_neg (ne_of_isWordChar word (by decide)),
      if_pos (.inl digit), further, read, ← chars, String.ofList_toList]
    rfl
  · obtain ⟨read, c, rest, rfl, digit, -⟩ := readNumber_numeral numeral
    rw [negative, List.cons_append, token?_cons (by decide), readToken, if_neg (by decide),
      if_neg (by decide), if_pos (.inr ⟨rfl, by simpa using digit⟩), further, read, ← negative,
      String.ofList_toList]
    rfl

/-! ## Texts of one token -/

/-- A text that no literal goes on with: it begins with no quote, point, letter or digit.  A
    word would go on with an underscore too. -/
def Token.EndsBefore (token : Token) (tail : List Char) : Prop :=
  ∀ c ∈ tail.head?, c ≠ '\'' ∧ c ≠ '.' ∧ c.isAlphanum = false ∧
    (c = '_' → ∀ name, token ≠ .word name)

/-- A text is one token, from its first character to its last. -/
def IsToken (text : String) (token : Token) : Prop :=
  ∀ tail, token.EndsBefore tail → token? (text.toList ++ tail) = some (token, tail)

namespace Token.EndsBefore

variable {token : Token} {tail : List Char}

theorem nil (token : Token) : token.EndsBefore [] := by
  simp [EndsBefore]

theorem alone (ends : token.EndsBefore tail) : tail.head? ≠ some '\'' :=
  fun head => (ends '\'' head).1 rfl

theorem noPoint (ends : token.EndsBefore tail) : tail.head? ≠ some '.' :=
  fun head => (ends '.' head).2.1 rfl

theorem noDigit (ends : token.EndsBefore tail) : ∀ c ∈ tail.head?, c.isDigit = false := by
  intro c head
  have other := (ends c head).2.2.1
  rw [Char.isAlphanum, Bool.or_eq_false_iff] at other
  exact other.2

theorem noWordChar {name : String} (ends : (Token.word name).EndsBefore tail) :
    ∀ c ∈ tail.head?, isWordChar c = false := by
  intro c head
  obtain ⟨-, -, other, underscore⟩ := ends c head
  rw [isWordChar, other, Bool.false_or, beq_eq_false_iff_ne]
  exact fun same => underscore same name rfl

end Token.EndsBefore

theorem isToken_word {name : String} (plain : isPlain name = true) : IsToken name (.word name) :=
  fun _ ends => token?_word plain ends.noWordChar

theorem isToken_number {text : String} (signed : IsSigned text.toList) :
    IsToken text (.number text) :=
  fun _ ends => token?_number signed ends.noDigit ends.noPoint

theorem isToken_quoteString (content : String) : IsToken (quoteString content) (.text content) :=
  fun _ ends => token?_quoteString content ends.alone

theorem IsToken.token?_eq {text : String} {token : Token} (whole : IsToken text token) :
    token? text.toList = some (token, []) := by
  have read := whole [] (Token.EndsBefore.nil token)
  rwa [List.append_nil] at read

theorem IsToken.lex_eq {text : String} {token : Token} (whole : IsToken text token) :
    lex text.toList = some [token] := by
  rw [lex_of_token? whole.token?_eq, lex_nil]
  rfl

/-- A text set between quotes as it is. -/
def betweenQuotes (text : List Char) : String := String.ofList ('\'' :: text ++ ['\''])

theorem betweenQuotes_doubled (content : List Char) :
    betweenQuotes (doubled '\'' content) = quoteString (String.ofList content) := by
  rw [betweenQuotes, quoteString, enclosed, String.toList_ofList]

theorem isToken_betweenQuotes {text : List Char} (quoteFree : '\'' ∉ text) :
    IsToken (betweenQuotes text) (.text (String.ofList text)) := by
  have whole := isToken_quoteString (String.ofList text)
  rwa [← betweenQuotes_doubled, doubled_of_notMem quoteFree] at whole

/-! ## Names -/

/-- Quoting spares exactly the plain names that are not reserved. -/
theorem needsQuoting_eq (name : String) :
    needsQuoting name = (isReserved name || !isPlain name) := by
  rw [needsQuoting, isPlain]
  cases isReserved name <;> cases name.isEmpty <;>
    cases name.toList.head?.any Char.isDigit <;> simp

namespace Config

variable (config : Config)

/-- Whether a name can be told apart from the text around it: names are quoted where
    that is needed, or the name is plain. -/
def Names (name : String) : Prop := config.quoteIdentifiers = true ∨ isPlain name = true

/-- The token of a name. -/
def nameToken (name : String) : Token :=
  if config.quoteIdentifiers && needsQuoting name then .quoted name else .word name

/-- The tokens of a column, with those of its parameter in front unless that is blank. -/
def columnTokens (parameter property : String) : List Token :=
  if Text.isBlankText parameter then [config.nameToken property]
  else [config.nameToken parameter, .symbol ".", config.nameToken property]

variable {config}

/-- A name reads as one token in front of what cannot be part of it. -/
theorem lex_identifier {name : String} (names : config.Names name) {tail : List Char}
    (stop : ∀ c ∈ tail.head?, isWordChar c = false) (alone : tail.head? ≠ some '"') :
    lex ((config.identifier name).toList ++ tail) =
      (lex tail).map (config.nameToken name :: ·) := by
  unfold identifier nameToken quoteIdentifier
  by_cases quoted : (config.quoteIdentifiers && needsQuoting name) = true
  · obtain ⟨quoting, needed⟩ := Bool.and_eq_true_iff.mp quoted
    rw [if_pos quoting, if_pos needed, if_pos quoted]
    exact lex_escapeIdentifier name alone
  · have plain : isPlain name = true := by
      rcases names with quoting | plain
      · rw [quoting, Bool.true_and, needsQuoting_eq] at quoted
        simp only [Bool.or_eq_true, Bool.not_eq_true', not_or, Bool.not_eq_false] at quoted
        exact quoted.2
      · exact plain
    have bare : (if config.quoteIdentifiers then
        (if needsQuoting name then escapeIdentifier name else name) else name) = name := by
      cases quoting : config.quoteIdentifiers with
      | true =>
        rw [quoting, Bool.true_and] at quoted
        rw [if_pos rfl, if_neg quoted]
      | false => rfl
    rw [bare, if_neg quoted]
    exact lex_word plain stop

theorem lex_punctuation {c : Char} (member : c ∈ ['.', ',', '(', ')']) (rest : List Char) :
    lex (c :: rest) = (lex rest).map (.symbol (String.ofList [c]) :: ·) := by
  simp only [List.mem_cons, List.not_mem_nil, or_false] at member
  rcases member with rfl | rfl | rfl | rfl <;>
    exact lex_token (by decide) (by simp [readToken, pairs, isWordChar, Char.isAlphanum])

/-- A column reads as its tokens. -/
theorem lex_column {parameter property : String}
    (outer : Text.isBlankText parameter = true ∨ config.Names parameter)
    (inner : config.Names property) :
    lex (config.column parameter property).toList =
      some (config.columnTokens parameter property) := by
  have own := @lex_identifier config property inner [] (by simp) (by simp)
  rw [List.append_nil, lex_nil] at own
  unfold column columnTokens
  split
  · exact own
  · rename_i present
    rw [String.toList_append, String.toList_append, List.append_assoc]
    have point : ".".toList = ['.'] := by decide
    have stop : ∀ c ∈ ('.' :: (config.identifier property).toList).head?,
        isWordChar c = false := by
      simp [isWordChar, Char.isAlphanum]
    rw [point, List.cons_append, List.nil_append,
      lex_identifier (outer.resolve_left present) stop (by simp),
      lex_punctuation (by simp), own]
    rfl

end Config

/-! ## Literals -/

/-- The tokens that are literals. -/
inductive Token.IsLiteral : Token → Prop
  | null : IsLiteral (.word "NULL")
  | truth (b : Bool) : IsLiteral (.word (if b then "TRUE" else "FALSE"))
  | number {text : String} (signed : IsSigned text.toList) : IsLiteral (.number text)
  | text (content : String) : IsLiteral (.text content)

/-- A part of a token stream: a token that is fixed, or a string whose content a value
    supplies. -/
inductive Part where
  | fixed (token : Token)
  | content (text : String)
  deriving DecidableEq, Repr

namespace Part

/-- The token of a part; a content is one string. -/
def toToken : Part → Token
  | fixed token => token
  | content text => .text text

/-- The part without its content. -/
def blank : Part → Part
  | fixed token => fixed token
  | content _ => content ""

end Part

namespace Config

/-- The part that a single value is written as; none for a value without a literal. -/
def literalParts (config : Config) : Value → List Part
  | .null => [.fixed (.word "NULL")]
  | .bool b => [.fixed (.word (if b then "TRUE" else "FALSE"))]
  | .int n => [.fixed (.number (toString n.toInt))]
  | .float x => if x.isFinite then [.fixed (.number (x.toText .plain))] else []
  | .decimal d => [.fixed (.number d.toText)]
  | .text s => [.content s]
  | .dateTime d =>
    match Pattern.format? config.datetimeFormat d with
    | some text => [.fixed (.text (String.ofList text))]
    | none => []
  | .uuid u => [.fixed (.text u.toText)]
  | .list _ => []

/-- The date-times of a configuration are written without quotes. -/
def QuoteFree (config : Config) : Prop :=
  ∀ d text, Pattern.format? config.datetimeFormat d = some text → '\'' ∉ text

theorem quoteFree_of_notMem {config : Config}
    (quoteFree : '\'' ∉ config.datetimeFormat.toList) : config.QuoteFree :=
  fun _ _ written => Pattern.quote_notMem_format? quoteFree written

variable {config : Config}

theorem quote_notMem_uuid (u : Uuid) : '\'' ∉ u.toText.toList := by
  have digits := Pattern.quote_notMem_toDigits 16 u.bits.val
  have padded : '\'' ∉ List.replicate (32 - (Nat.toDigits 16 u.bits.val).length) '0' ++
      Nat.toDigits 16 u.bits.val := by
    simp [digits]
  have groups : ∀ start length, '\'' ∉ ((List.replicate
      (32 - (Nat.toDigits 16 u.bits.val).length) '0' ++ Nat.toDigits 16 u.bits.val).drop
        start).take length :=
    fun _ _ member => padded (List.mem_of_mem_drop (List.mem_of_mem_take member))
  rw [Uuid.toText, String.toList_ofList]
  simp only [List.mem_append, List.mem_cons, groups, or_false, false_or]
  decide

/-- A date-time stands between quotes as the pattern writes it. -/
theorem literal_dateTime_eq_ok {d : DateTime} {text : String} :
    config.literal (.dateTime d) = .ok text ↔
      ∃ moment, Pattern.format? config.datetimeFormat d = some moment ∧
        text = betweenQuotes moment := by
  rw [literal]
  cases Pattern.format? config.datetimeFormat d with
  | none => simp
  | some moment =>
    simp only [Except.ok.injEq, Option.some.injEq, exists_eq_left', eq_comm]
    rfl

/-- A literal is the one token of its part. -/
theorem isToken_literal (quoteFree : config.QuoteFree) {value : Value} {text : String}
    (written : config.literal value = .ok text) :
    ∃ token, (config.literalParts value).map Part.toToken = [token] ∧ token.IsLiteral ∧
      IsToken text token := by
  cases value with
  | null =>
    cases written
    exact ⟨_, rfl, .null, isToken_word (by decide)⟩
  | bool b =>
    cases written
    refine ⟨_, rfl, .truth b, isToken_word ?_⟩
    cases b <;> decide
  | int n =>
    cases written
    have signed := isSigned_toString n.toInt
    exact ⟨_, rfl, .number signed, isToken_number signed⟩
  | float x =>
    simp only [literal] at written
    split at written
    · rename_i finite
      cases written
      have signed := isSigned_float finite
      rw [literalParts, if_pos finite]
      exact ⟨_, rfl, .number signed, isToken_number signed⟩
    · cases written
  | decimal d =>
    cases written
    have signed := isSigned_decimal d
    exact ⟨_, rfl, .number signed, isToken_number signed⟩
  | text s =>
    cases written
    exact ⟨_, rfl, .text s, isToken_quoteString s⟩
  | dateTime d =>
    obtain ⟨moment, formatted, rfl⟩ := literal_dateTime_eq_ok.mp written
    rw [literalParts, formatted]
    exact ⟨_, rfl, .text _, isToken_betweenQuotes (quoteFree d moment formatted)⟩
  | uuid u =>
    cases written
    have whole := isToken_betweenQuotes (quote_notMem_uuid u)
    have chars : betweenQuotes u.toText.toList = "'" ++ u.toText ++ "'" := by
      rw [← String.toList_inj]
      simp [betweenQuotes]
    rw [chars, String.ofList_toList] at whole
    exact ⟨_, rfl, .text _, whole⟩
  | list items => cases written

/-- The literal of a value reads as its part. -/
theorem lex_literal (quoteFree : config.QuoteFree) {value : Value} {text : String}
    (written : config.literal value = .ok text) :
    lex text.toList = some ((config.literalParts value).map Part.toToken) := by
  obtain ⟨token, parts, -, whole⟩ := isToken_literal quoteFree written
  rw [parts]
  exact whole.lex_eq

end Config

end RecordFilter.Sql
