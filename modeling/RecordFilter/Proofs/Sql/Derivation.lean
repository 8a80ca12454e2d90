import RecordFilter.Proofs.Sql.Grammar
import RecordFilter.Proofs.Sql.Stream

/-!
# Derivations of compiled text

Comparisons that were written are comparisons for the grammar, and members that are laid
out under an operator stand for their joined clauses, with a pair of parentheses around
two members or more below the root (`parses_groupParts`).
-/

namespace RecordFilter.Sql

namespace Clause

/-- Clauses joined from left to right.  There is at least one. -/
def join (operator : GroupOperator) : List Clause → Clause
  | [] => comparison []
  | first :: rest => rest.foldl (joined operator) first

/-- The clause of a group below its members. -/
def ofGroup (group : Group) (members : List Clause) : Clause :=
  if group.isRoot || members.length ≤ 1 then join group.operator members
  else grouped (join group.operator members)

end Clause

/-! ## Laid out members -/

theorem joins_connective (operator : GroupOperator) :
    (Token.word (connective operator)).joins operator = true := by
  cases operator <;> decide +kernel

/-- The level of members joined under an operator. -/
def levelOf : GroupOperator → Level
  | .and => .conjunction
  | .or => .disjunction

/-- One more member is joined at the level of the operator. -/
theorem parses_joined {operator : GroupOperator} {left right : List Token} {first second : Clause}
    (earlier : Parses (levelOf operator) left first) (member : Parses .atom right second) :
    Parses (levelOf operator) (left ++ [.word (connective operator)] ++ right)
      (.joined operator first second) := by
  -- `AND` takes the member as an atom, `OR` as a conjunction of one
  rw [List.append_assoc]
  cases operator with
  | and => exact .both earlier (joins_connective .and) member
  | or => exact .either earlier (joins_connective .or) (.atom member)

theorem Parses.disjunction_of_levelOf {operator : GroupOperator} {tokens : List Token}
    {clause : Clause} (parses : Parses (levelOf operator) tokens clause) :
    Parses .disjunction tokens clause := by
  cases operator with
  | and => exact .conjunction parses
  | or => exact parses

theorem parses_foldl {operator : GroupOperator} {members : List (List Token)}
    {clauses : List Clause} (each : List.Forall₂ (Parses .atom) members clauses) :
    ∀ {left : List Token} {first : Clause}, Parses (levelOf operator) left first →
      Parses (levelOf operator) ([.word (connective operator)].intercalate (left :: members))
        (clauses.foldl (.joined operator) first) := by
  -- what was joined so far moves to the left, one member at a time
  induction each with
  | nil =>
    intro left first parses
    simpa using parses
  | cons member _ ih =>
    intro left first parses
    rw [← intercalate_cons_append]
    exact ih (parses_joined parses member)

/-- Atoms with the word of an operator between them stand for the joined clauses. -/
theorem parses_join (operator : GroupOperator) {members : List (List Token)}
    {clauses : List Clause} (nonempty : members ≠ [])
    (each : List.Forall₂ (Parses .atom) members clauses) :
    Parses .disjunction ([.word (connective operator)].intercalate members)
      (Clause.join operator clauses) := by
  cases each with
  | nil => contradiction
  | cons member others =>
    refine Parses.disjunction_of_levelOf (parses_foldl others ?_)
    cases operator with
    | and => exact .atom member
    | or => exact .conjunction (.atom member)

/-- Parts stand for a clause. -/
def StandsFor (parts : List Part) (clause : Clause) : Prop :=
  Parses .atom (parts.map Part.toToken) clause

section Members

variable {group : Group} {members : List (List Part)} {clauses : List Clause}
  (nonempty : members ≠ []) (each : List.Forall₂ StandsFor members clauses)

include nonempty each

/-- Without parentheses members stand for their joined clauses. -/
theorem parses_members : Parses .disjunction
    (((connectiveParts group.operator).intercalate members).map Part.toToken)
    (Clause.join group.operator clauses) := by
  have tokens : List.Forall₂ (Parses .atom) (members.map (List.map Part.toToken)) clauses := by
    rw [List.forall₂_map_left_iff]
    exact each
  rw [map_intercalate]
  exact parses_join group.operator (by simpa using nonempty) tokens

/-- Below the root a group is an atom: it has parentheses or a single member. -/
theorem standsFor_groupParts (below : group.isRoot = false) :
    StandsFor (groupParts group members) (Clause.ofGroup group clauses) := by
  have content := @parses_members group members clauses nonempty each
  rw [groupParts, laidOut, Clause.ofGroup, each.length_eq, below, Bool.false_or]
  by_cases short : clauses.length ≤ 1
  · cases each with
    | nil => contradiction
    | cons member others =>
      cases others with
      | nil => simpa [Clause.join] using member
      | cons => simp at short
  · rw [if_neg (by simpa using short), if_neg (by simpa using short), StandsFor,
      List.map_append, List.map_append]
    exact .grouped content

theorem parses_groupParts : Parses .disjunction ((groupParts group members).map Part.toToken)
    (Clause.ofGroup group clauses) := by
  cases root : group.isRoot with
  | false => exact .conjunction (.atom (standsFor_groupParts nonempty each root))
  | true =>
    rw [groupParts, laidOut, Clause.ofGroup, if_pos (by simp [root]), if_pos (by simp [root])]
    exact parses_members nonempty each

end Members

/-! ## Written comparisons -/

namespace Config

variable (config : Config)

/-- Whether a name can be told apart from the text around it and from the keywords. -/
def NamesApart (name : String) : Prop :=
  config.quoteIdentifiers = true ∨ (isPlain name = true ∧ folded name ∉ keywords)

instance (name : String) : Decidable (config.NamesApart name) :=
  inferInstanceAs (Decidable (_ ∨ _))

/-- The tokens of a comparison. -/
def comparisonTokens (whenFalse : List Token) (criterion : Criterion)
    (parameter : String) : List Token :=
  (config.comparisonParts whenFalse criterion parameter).map Part.toToken

variable {config}

theorem NamesApart.names {name : String} (apart : config.NamesApart name) : config.Names name :=
  apart.imp_right And.left

/-- The token of a name is part of an operand: keywords are among the words that are
    quoted. -/
theorem isSimple_nameToken {name : String} (apart : config.NamesApart name) :
    (config.nameToken name).isSimple = true := by
  have reservedWords : ∀ word ∈ keywords, word ∈ reserved := by decide
  unfold nameToken
  split
  · rfl
  · rename_i bare
    have noKeyword : folded name ∉ keywords := by
      rcases apart with quoting | ⟨-, noKeyword⟩
      · intro keyword
        have known : isReserved name = true :=
          List.contains_iff_mem.mpr (reservedWords (folded name) keyword)
        simp [quoting, needsQuoting_eq, known] at bare
      · exact noKeyword
    simpa [Token.isSimple] using noKeyword

theorem isOperand_columnTokens {parameter property : String}
    (outer : Text.isBlankText parameter = true ∨ config.NamesApart parameter)
    (inner : config.NamesApart property) :
    IsOperand (config.columnTokens parameter property) := by
  unfold columnTokens
  split
  · exact ⟨by simp, by simp [isSimple_nameToken inner]⟩
  · rename_i present
    have point : (Token.symbol ".").isSimple = true := by decide
    exact ⟨by simp, by simp [isSimple_nameToken inner,
      isSimple_nameToken (outer.resolve_left present), point]⟩

/-- The part of a value that was written is an operand. -/
theorem isOperand_literalParts {value : Value} {text : String}
    (written : config.literal value = .ok text) :
    IsOperand ((config.literalParts value).map Part.toToken) := by
  have single : ∀ {token : Token}, token.isSimple = true → IsOperand [token] := by
    intro token simple
    exact ⟨by simp, by simp [simple]⟩
  cases value with
  | null => exact single (by decide +kernel)
  | bool b => cases b <;> exact single (by decide +kernel)
  | float x =>
    simp only [literal] at written
    split at written
    · rename_i finite
      rw [literalParts, if_pos finite]
      exact single rfl
    · cases written
  | dateTime d =>
    simp only [literal] at written
    split at written
    · rename_i moment formatted
      rw [literalParts, formatted]
      exact single rfl
    · cases written
  | list items => cases written
  | _ => exact single rfl

theorem compares_symbol (operator : Operator) :
    (Token.symbol (symbol operator)).compares = true := by
  cases operator <;> decide

/-- A list that was written is a list for the grammar. -/
theorem isComparison_among {column : List Token} (operand : IsOperand column) {first : Value}
    {rest : List Value} {texts : String} (written : config.literals (first :: rest) = .ok texts) :
    IsComparison (column ++ .word "IN" :: .symbol "(" ::
      ([.symbol ","].intercalate
        ((first :: rest).map fun value => (config.literalParts value).map Part.toToken) ++
          [.symbol ")"])) := by
  obtain ⟨literals, each, -⟩ := Except.map_eq_ok.mp written
  have operands : ∀ item ∈ (first :: rest).map fun value =>
      (config.literalParts value).map Part.toToken, IsOperand item := by
    intro item member
    obtain ⟨value, present, rfl⟩ := List.mem_map.mp member
    obtain ⟨literal, valueWritten⟩ := exists_of_mapM each value present
    exact isOperand_literalParts valueWritten
  have isIn : (Token.word "IN").isKeyword "in" = true := by decide +kernel
  exact .among operand isIn (by simp) operands

/-- A comparison that was written is one for the grammar. -/
theorem isComparison_of_written {whenFalse : List Token} (never : IsComparison whenFalse)
    {criterion : Criterion} {parameter : String}
    (outer : Text.isBlankText parameter = true ∨ config.NamesApart parameter)
    (inner : config.NamesApart criterion.property.name) {text : String}
    (written : config.comparison criterion parameter = .ok text) :
    IsComparison ((config.comparisonParts whenFalse criterion parameter).map Part.toToken) := by
  have column := isOperand_columnTokens outer inner
  have columnTokens : (config.columnParts parameter criterion).map Part.toToken =
      config.columnTokens parameter criterion.property.name := by
    simp [columnParts, Function.comp_def, Part.toToken]
  have pattern : ∀ content : String, IsComparison
      ((config.columnParts parameter criterion ++ [Part.fixed (.word "LIKE")] ++
        [Part.content content]).map Part.toToken) := by
    intro content
    have like : (Token.word "LIKE").compares = true := by decide +kernel
    have operand : IsOperand [.text content] := ⟨by simp, by simp [Token.isSimple]⟩
    have compared := IsComparison.compare column like operand
    simpa [columnTokens, Part.toToken] using compared
  cases operator : criterion.operator with
  | contains | startsWith =>
    cases value : criterion.value.text? with
    | some searched =>
      simp only [comparisonParts, operator, value]
      exact pattern _
    | none =>
      simp only [comparison, operator, value] at written
      cases written
  | among =>
    cases value : criterion.value.items? with
    | some items =>
      simp only [comparison, comparisonParts, operator, value] at written ⊢
      cases items with
      | nil => simpa [Function.comp_def, Part.toToken] using never
      | cons first rest =>
        obtain ⟨texts, located, -⟩ := Except.map_eq_ok.mp written
        have listed := isComparison_among column (Except.mapError_eq_ok.mp located)
        simpa [columnTokens, parenthesized, Part.toToken, map_intercalate, Function.comp_def]
          using listed
    | none =>
      simp only [comparison, operator, value] at written
      cases written
  | _ =>
    simp only [comparison, comparisonParts, operator] at written ⊢
    obtain ⟨text, located, -⟩ := Except.map_eq_ok.mp written
    have operand := isOperand_literalParts (Except.mapError_eq_ok.mp located)
    have compared := IsComparison.compare column (compares_symbol criterion.operator) operand
    rw [operator] at compared
    simpa [columnTokens, symbol, Part.toToken] using compared

end Config

end RecordFilter.Sql
