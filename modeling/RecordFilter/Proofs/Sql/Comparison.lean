import Mathlib.Data.List.Forall2
import RecordFilter.Proofs.Acceptance
import RecordFilter.Proofs.Sql.Literal

/-!
# Tokens of comparisons

A comparison that is written reads as the tokens of its column, its operator and its
values (`readsAs_comparison`).  A string value is one token wherever it stands, and
what it holds is what the token holds.
-/

namespace RecordFilter.Sql

/-- A text reads as a list of parts. -/
def ReadsAs (text : List Char) (parts : List Part) : Prop :=
  lex text = some (parts.map Part.toToken)

/-- Texts with a separator between them read one after the other. -/
def Separates (separator : List Char) (between : List Part) : Prop :=
  ∀ {text : List Char} {parts : List Part}, ReadsAs text parts →
    ∀ {rest : List Char} {later : List Part}, ReadsAs rest later →
      ReadsAs (text ++ separator ++ rest) (parts ++ between ++ later)

theorem readsAs_intercalate {separator : List Char} {between : List Part}
    (separates : Separates separator between) {texts : List (List Char)}
    {parts : List (List Part)} (each : List.Forall₂ ReadsAs texts parts) :
    ReadsAs (separator.intercalate texts) (between.intercalate parts) := by
  induction each with
  | nil => exact lex_nil
  | cons first others ih =>
    cases others with
    | nil => simpa using first
    | cons second others =>
      rw [List.intercalate_cons_cons, List.intercalate_cons_cons]
      exact separates first ih

theorem separates_comma : Separates ", ".toList [.fixed (.symbol ",")] := by
  intro text parts first rest later second
  have chars : text ++ ", ".toList ++ rest = text ++ ',' :: ' ' :: rest := by simp
  have breaks : Breaks (',' :: ' ' :: rest) := by simp [Breaks, isBreak]
  rw [ReadsAs, chars, lex_append first breaks, Config.lex_punctuation (by simp),
    lex_blank (by decide), second]
  simp [Part.toToken]

/-- A token between blanks separates. -/
theorem separates_token {word : String} {token : Token} (reads : lex word.toList = some [token]) :
    Separates (' ' :: (word.toList ++ [' '])) [.fixed token] := by
  intro text parts first rest later second
  have chars : text ++ ' ' :: (word.toList ++ [' ']) ++ rest =
      text ++ ' ' :: (word.toList ++ ' ' :: rest) := by simp
  have breaks : ∀ others : List Char, Breaks (' ' :: others) := by
    intro others
    simp [Breaks, isBreak, Text.isBlank]
  rw [ReadsAs, chars, lex_append first (breaks _), lex_blank (by decide),
    lex_append reads (breaks _), lex_blank (by decide), second]
  simp [Part.toToken]

/-- Parentheses around a text. -/
def parenthesized (parts : List Part) : List Part :=
  .fixed (.symbol "(") :: parts ++ [.fixed (.symbol ")")]

theorem readsAs_parenthesized {text : List Char} {parts : List Part}
    (reads : ReadsAs text parts) : ReadsAs ('(' :: text ++ [')']) (parenthesized parts) := by
  have breaks : Breaks [')'] := by simp [Breaks, isBreak]
  rw [ReadsAs, List.cons_append, Config.lex_punctuation (by simp), lex_append reads breaks,
    Config.lex_punctuation (by simp), lex_nil]
  simp [parenthesized, Part.toToken]

namespace Config

/-- The parts of a column. -/
def columnParts (config : Config) (parameter : String) (criterion : Criterion) : List Part :=
  (config.columnTokens parameter criterion.property.name).map .fixed

/-- The parts of a comparison.  A comparison with an empty list is the condition that
    never holds, whose tokens are given. -/
def comparisonParts (config : Config) (whenFalse : List Token) (criterion : Criterion)
    (parameter : String) : List Part :=
  let column := config.columnParts parameter criterion
  let signed (sign : String) : List Part :=
    column ++ [.fixed (.symbol sign)] ++ config.literalParts criterion.value
  match criterion.operator with
  | .equal => signed "="
  | .lessThan => signed "<"
  | .greaterThan => signed ">"
  | .lessThanOrEqual => signed "<="
  | .greaterThanOrEqual => signed ">="
  | .contains =>
    match criterion.value.text? with
    | some text => column ++ [.fixed (.word "LIKE")] ++ [.content ("%" ++ text ++ "%")]
    | none => []
  | .startsWith =>
    match criterion.value.text? with
    | some text => column ++ [.fixed (.word "LIKE")] ++ [.content (text ++ "%")]
    | none => []
  | .among =>
    match criterion.value.items? with
    | some [] => whenFalse.map .fixed
    | some items => column ++ [.fixed (.word "IN")] ++
        parenthesized ([.fixed (.symbol ",")].intercalate (items.map config.literalParts))
    | none => []

variable {config : Config}

theorem readsAs_fixed {text : String} {tokens : List Token} (read : lex text.toList = some tokens) :
    ReadsAs text.toList (tokens.map Part.fixed) := by
  rw [ReadsAs, read]
  simp [Function.comp_def, Part.toToken]

theorem readsAs_column {parameter : String} {criterion : Criterion}
    (outer : Text.isBlankText parameter = true ∨ config.Names parameter)
    (inner : config.Names criterion.property.name) :
    ReadsAs (config.column parameter criterion.property.name).toList
      (config.columnParts parameter criterion) :=
  readsAs_fixed (lex_column outer inner)

theorem readsAs_content (text : String) : ReadsAs (quoteString text).toList [.content text] :=
  lex_quoted text

theorem readsAs_literals (quoteFree : config.QuoteFree) {items : List Value} {text : String}
    (written : config.literals items = .ok text) :
    ReadsAs text.toList
      ([.fixed (.symbol ",")].intercalate (items.map config.literalParts)) := by
  obtain ⟨texts, each, rfl⟩ := Except.map_eq_ok.mp written
  rw [String.toList_intercalate]
  refine readsAs_intercalate separates_comma ?_
  rw [List.forall₂_map_left_iff, List.forall₂_map_right_iff]
  refine List.Forall₂.imp ?_ (forall₂_of_mapM each).flip
  intro literal value valueWritten
  exact lex_literal quoteFree valueWritten

/-- Every comparison sign is one symbol. -/
theorem lex_symbol (operator : Operator) :
    lex (symbol operator).toList = some [.symbol (symbol operator)] := by
  cases operator <;> decide +kernel

/-- A column compared with a pattern reads as its parts. -/
theorem readsAs_like {column : String} {parts : List Part} (read : ReadsAs column.toList parts)
    (content : String) :
    ReadsAs (column ++ " LIKE " ++ quoteString content).toList
      (parts ++ [.fixed (.word "LIKE")] ++ [.content content]) := by
  have word := @lex_plain "LIKE" (by decide)
  have compared := separates_token word read (readsAs_content content)
  simpa using compared

/-- A comparison that is written reads as its parts. -/
theorem readsAs_comparison (quoteFree : config.QuoteFree) {whenFalse : List Token}
    (never : lex config.alwaysFalse.toList = some whenFalse) {criterion : Criterion}
    {parameter : String} (outer : Text.isBlankText parameter = true ∨ config.Names parameter)
    (inner : config.Names criterion.property.name) {text : String}
    (written : config.comparison criterion parameter = .ok text) :
    ReadsAs text.toList (config.comparisonParts whenFalse criterion parameter) := by
  have column := readsAs_column outer inner
  cases operator : criterion.operator with
  | contains | startsWith =>
    cases value : criterion.value.text? with
    | some searched =>
      simp only [comparison, comparisonParts, operator, value] at written ⊢
      cases written
      exact readsAs_like column _
    | none =>
      simp only [comparison, operator, value] at written
      cases written
  | among =>
    cases value : criterion.value.items? with
    | some items =>
      simp only [comparison, comparisonParts, operator, value] at written ⊢
      cases items with
      | nil =>
        cases written
        exact readsAs_fixed never
      | cons first rest =>
        obtain ⟨texts, located, rfl⟩ := Except.map_eq_ok.mp written
        have listed := readsAs_literals quoteFree (Except.mapError_eq_ok.mp located)
        have word := @lex_plain "IN" (by decide)
        have read := separates_token word column (readsAs_parenthesized listed)
        simpa using read
    | none =>
      simp only [comparison, operator, value] at written
      cases written
  | _ =>
    simp only [comparison, comparisonParts, operator] at written ⊢
    obtain ⟨literal, located, rfl⟩ := Except.map_eq_ok.mp written
    have sign := lex_symbol criterion.operator
    rw [operator] at sign
    have read := separates_token sign column
      (lex_literal quoteFree (Except.mapError_eq_ok.mp located))
    simpa [symbol] using read

end Config

end RecordFilter.Sql
