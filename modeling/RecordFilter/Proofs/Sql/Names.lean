import RecordFilter.Proofs.Sql.Literal
import RecordFilter.Proofs.Text.Words

/-!
# How names are read

A reader takes a name between double quotes for that name, and a bare word for a name too
unless it is one of the words that conditions are written with, in any case.  Quoting keeps
names apart from these words but for `TRUE` and `FALSE`, which are not reserved
(`readings_column`).  All the same, no two names and no two columns are written alike.
-/

namespace RecordFilter.Sql

/-! ## Words in any case -/

/-- A text with the letters of ASCII in lower case. -/
def lowered (text : String) : String := String.ofList (text.toList.map Char.toLower)

/-- The words of the literals of truth values, in lower case. -/
def truthWords : List String := ["true", "false"]

/-- The words that conditions are written with, in lower case. -/
def conditionWords : List String := ["and", "or", "like", "in", "null"] ++ truthWords

/-- Whether a name is spelled like a truth value, in any case. -/
def spellsTruth (name : String) : Bool := truthWords.contains (lowered name)

/-- What a reader takes a token for. -/
inductive Reading where
  /-- A name of a column or of what it belongs to. -/
  | name (text : String)
  /-- A word of the condition itself. -/
  | keyword (word : String)
  | other (token : Token)
  deriving DecidableEq, Repr

/-- A name between quotes is always a name, a bare word unless conditions are written with
    it. -/
def Token.reading : Token → Reading
  | .quoted name => .name name
  | .word name => if conditionWords.contains (lowered name) then .keyword name else .name name
  | token => .other token

/-- Reads a text. -/
def readings (text : String) : Option (List Reading) :=
  (lex text.toList).map fun tokens => tokens.map Token.reading

/-- What a name that is quoted where it has to be is taken for. -/
def nameReading (name : String) : Reading :=
  if spellsTruth name then .keyword name else .name name

/-- The words of literals are among those of conditions. -/
theorem Token.IsLiteral.reading_word {word : String} (literal : (Token.word word).IsLiteral) :
    (Token.word word).reading = .keyword word := by
  cases literal with
  | null => decide
  | truth b => cases b <;> decide

/-! ## Which names stay bare -/

/-- A character that is a letter in lower case is a letter. -/
theorem isAlpha_of_isAlpha_toLower {c : Char} (letter : c.toLower.isAlpha = true) :
    c.isAlpha = true := by
  by_cases capital : c.isUpper
  · rw [Char.isAlpha, capital, Bool.true_or]
  · rwa [Char.toLower_eq_of_not_isUpper capital] at letter

theorem isWordChar_of_isAlpha {c : Char} (letter : c.isAlpha = true) : isWordChar c = true := by
  rw [isWordChar, Char.isAlphanum, letter, Bool.true_or, Bool.true_or]

theorem isDigit_of_isAlpha {c : Char} (letter : c.isAlpha = true) : c.isDigit = false := by
  rw [Bool.eq_false_iff]
  intro digit
  simp only [Char.isAlpha, Char.isUpper, Char.isLower, Char.isDigit, Bool.or_eq_true,
    Bool.and_eq_true, decide_eq_true_eq, UInt32.le_iff_toNat_le, ge_iff_le] at letter digit
  rcases letter with ⟨least, -⟩ | ⟨least, -⟩
  · exact absurd (Nat.le_trans least digit.2) (by decide)
  · exact absurd (Nat.le_trans least digit.2) (by decide)

theorem isPlain_of_letters {name : String} (filled : name ≠ "")
    (letters : ∀ c ∈ name.toList, c.isAlpha = true) : isPlain name = true := by
  have words : name.toList.all isWordChar = true :=
    List.all_eq_true.mpr fun c member => isWordChar_of_isAlpha (letters c member)
  have noDigit : name.toList.head?.any Char.isDigit = false := by
    cases chars : name.toList with
    | nil => rfl
    | cons c rest => exact isDigit_of_isAlpha (letters c (by simp [chars]))
  simp [isPlain, filled, noDigit, words]

theorem ascii_of_isPlain {name : String} (plain : isPlain name = true) :
    Text.Ascii name.toList := by
  intro c member
  simp only [isPlain, Bool.and_eq_true] at plain
  have most := (isWordChar_toNat (List.all_eq_true.mp plain.2 c member)).2
  omega

/-- In plain names reserved words are those of ASCII letters in any case. -/
theorem isReserved_of_isPlain {name : String} (plain : isPlain name = true) :
    isReserved name = reserved.contains (lowered name) := by
  rw [isReserved, (ascii_of_isPlain plain).lowercase_eq, lowered]

theorem isPlain_of_spellsTruth {name : String} (truth : spellsTruth name = true) :
    isPlain name = true := by
  have lower : lowered name = "true" ∨ lowered name = "false" := by
    simpa [spellsTruth, truthWords] using truth
  have chars : (lowered name).toList = name.toList.map Char.toLower := String.toList_ofList
  have letters : (lowered name).toList.all Char.isAlpha = true := by
    rcases lower with same | same <;> rw [same] <;> decide
  refine isPlain_of_letters ?_ fun c member => isAlpha_of_isAlpha_toLower
    (List.all_eq_true.mp letters c.toLower (chars ▸ List.mem_map_of_mem member))
  rintro rfl
  rcases lower with same | same <;> exact absurd same (by decide)

/-- Names that are spelled like truth values are not quoted. -/
theorem needsQuoting_of_spellsTruth {name : String} (truth : spellsTruth name = true) :
    needsQuoting name = false := by
  have plain := isPlain_of_spellsTruth truth
  have lower : lowered name = "true" ∨ lowered name = "false" := by
    simpa [spellsTruth, truthWords] using truth
  rw [needsQuoting_eq, plain, isReserved_of_isPlain plain]
  rcases lower with same | same <;> rw [same] <;> decide

/-- Of the words of conditions only those of truth values are not reserved. -/
theorem conditionWords_of_not_needsQuoting {name : String} (bare : needsQuoting name = false) :
    conditionWords.contains (lowered name) = spellsTruth name := by
  rw [needsQuoting_eq, Bool.or_eq_false_iff, Bool.not_eq_false'] at bare
  rw [isReserved_of_isPlain bare.2] at bare
  have others : ∀ word ∈ ["and", "or", "like", "in", "null"], reserved.contains word = true := by
    decide
  have apart : lowered name ∉ ["and", "or", "like", "in", "null"] := by
    intro member
    rw [others _ member] at bare
    cases bare.1
  rw [conditionWords, spellsTruth, Bool.eq_iff_iff, List.contains_iff_mem, List.contains_iff_mem,
    List.mem_append]
  exact or_iff_right apart

/-! ## Reading names and columns -/

namespace Config

variable {config : Config}

theorem reading_nameToken (quoting : config.quoteIdentifiers = true) (name : String) :
    (config.nameToken name).reading = nameReading name := by
  rw [nameToken, quoting, Bool.true_and, nameReading]
  cases needed : needsQuoting name with
  | true =>
    have apart : spellsTruth name = false := by
      rw [Bool.eq_false_iff]
      intro truth
      exact absurd (needsQuoting_of_spellsTruth truth) (by simp [needed])
    simp [Token.reading, apart]
  | false => simp only [Bool.false_eq_true, if_false, Token.reading,
      conditionWords_of_not_needsQuoting needed]

theorem nameToken_injective : Function.Injective config.nameToken := by
  intro first second same
  unfold nameToken at same
  split at same <;> split at same
  · exact Token.quoted.inj same
  · cases same
  · cases same
  · exact Token.word.inj same

theorem lex_quoteIdentifier (quoting : config.quoteIdentifiers = true) (name : String) :
    lex (quoteIdentifier name).toList = some [config.nameToken name] := by
  have read := @lex_identifier config name (.inl quoting) [] (by simp) (by simp)
  rwa [List.append_nil, lex_nil, identifier, if_pos quoting] at read

theorem lex_column_of_quoting (quoting : config.quoteIdentifiers = true) {parameter : String}
    (visible : Text.isBlankText parameter = false) (property : String) :
    lex (config.column parameter property).toList =
      some [config.nameToken parameter, .symbol ".", config.nameToken property] := by
  rw [lex_column (.inr (.inl quoting)) (.inl quoting), columnTokens, if_neg (by simp [visible])]

/-- A name that is quoted where it has to be is read as one token, the name that it spells, but
    for `TRUE` and `FALSE` in any case, which are taken for truth values; and no two names are
    written alike.  Where a configuration asks for quotes, a column with a parameter is read as
    the two names with a point between them, with the same exception, and no two such columns
    are written alike. -/
theorem readings_column (config : Config) (quoting : config.quoteIdentifiers = true) :
    (∀ name, readings (quoteIdentifier name) =
      some [if spellsTruth name then .keyword name else .name name]) ∧
    Function.Injective quoteIdentifier ∧
    ∀ parameter property, Text.isBlankText parameter = false →
      readings (config.column parameter property) =
        some [nameReading parameter, .other (.symbol "."), nameReading property] ∧
      ∀ parameter' property', Text.isBlankText parameter' = false →
        config.column parameter property = config.column parameter' property' →
          parameter = parameter' ∧ property = property' := by
  refine ⟨fun name => ?_, fun first second same => ?_, fun parameter property visible => ⟨?_, ?_⟩⟩
  · rw [readings, lex_quoteIdentifier quoting, Option.map_some, List.map_singleton,
      reading_nameToken quoting, nameReading]
  · have read := lex_quoteIdentifier quoting first
    rw [same, lex_quoteIdentifier quoting, Option.some.injEq, List.cons.injEq] at read
    exact (nameToken_injective read.1).symm
  · rw [readings, lex_column_of_quoting quoting visible, Option.map_some]
    simp only [List.map_cons, List.map_nil, reading_nameToken quoting]
    rfl
  · intro parameter' property' visible' same
    have read := lex_column_of_quoting quoting visible property
    rw [same, lex_column_of_quoting quoting visible', Option.some.injEq] at read
    simp only [List.cons.injEq, and_true, true_and] at read
    exact ⟨(nameToken_injective read.1).symm, (nameToken_injective read.2).symm⟩

/-- A parameter with a quote and a property that is reserved. -/
theorem readings_column_reserved :
    let config := { Config.default with quoteIdentifiers := true }
    config.column "a\"b" "Order" = "\"a\"\"b\".\"Order\"" ∧
      readings "\"a\"\"b\".\"Order\"" = some [.name "a\"b", .other (.symbol "."), .name "Order"] := by
  intro config
  have written : config.column "a\"b" "Order" = "\"a\"\"b\".\"Order\"" := by decide +kernel
  have read := ((readings_column config rfl).2.2 "a\"b" "Order" (by decide)).1
  rw [written] at read
  exact ⟨written, read⟩

/-- A name that is written as the literal of a truth value. -/
theorem readings_truth :
    quoteIdentifier "TRUE" = "TRUE" ∧ Config.default.literal (.bool true) = .ok "TRUE" ∧
      readings (quoteIdentifier "TRUE") = some [.keyword "TRUE"] := by
  have bare : quoteIdentifier "TRUE" = "TRUE" := by decide +kernel
  have read := @lex_plain "TRUE" (by decide)
  have literal : (Token.word "TRUE").IsLiteral := .truth true
  refine ⟨bare, rfl, ?_⟩
  rw [bare, readings, read, Option.map_some, List.map_singleton, literal.reading_word]

end Config

end RecordFilter.Sql
