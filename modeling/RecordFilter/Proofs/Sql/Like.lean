import Mathlib.Data.List.Infix
import RecordFilter.Proofs.Sql.Literal
import RecordFilter.Value.Compare

/-!
# What LIKE selects

`like` says which texts a pattern matches.  A pattern operator is written with its needle
as it stands, so `%` and `_` in a needle are read as wildcards.  No text that the operator
accepts is lost by this, and none is added exactly when the needle has no wildcard
(`like_comparison`).
-/

namespace RecordFilter

/-! ## Where operators look for a needle -/

theorem textContains_iff {needle text : List Char} :
    textContains needle text = true ↔ needle <:+: text := by
  induction text with
  | nil => simp [textContains]
  | cons c rest ih =>
    rw [textContains, Bool.or_eq_true, List.isPrefixOf_iff_prefix, ih, List.infix_cons_iff]

namespace Operator

/-- Whether a piece stands in a text where the operator looks for it: at the start, or
    anywhere. -/
def Finds (operator : Operator) (piece text : List Char) : Prop :=
  if operator = startsWith then piece <+: text else piece <:+: text

theorem isPattern_iff {operator : Operator} :
    operator.isPattern = true ↔ operator = contains ∨ operator = startsWith := by
  simp [isPattern]

theorem finds_self (operator : Operator) (text : List Char) : operator.Finds text text := by
  unfold Finds
  split
  · exact List.prefix_rfl
  · exact List.infix_rfl

theorem Finds.subset {operator : Operator} {piece text : List Char}
    (finds : operator.Finds piece text) : piece ⊆ text := by
  unfold Finds at finds
  split at finds
  · exact finds.subset
  · exact finds.subset

/-- A pattern operator accepts the texts in which it finds the needle. -/
theorem holds_iff_finds {operator : Operator} (pattern : operator.isPattern = true)
    {needle text : String} :
    operator.holds (.text text) (.text needle) = true ↔
      operator.Finds needle.toList text.toList := by
  rcases isPattern_iff.mp pattern with rfl | rfl
  · exact textContains_iff
  · exact List.isPrefixOf_iff_prefix

end Operator

namespace Sql

/-! ## Patterns -/

/-- Whether a text matches a pattern: `%` stands for any sequence of characters, `_` for
    any single character, and every other character for itself. -/
def like : List Char → List Char → Bool
  | [], text => text.isEmpty
  | '%' :: pattern, text => text.tails.any (like pattern)
  | '_' :: pattern, _ :: text => like pattern text
  | c :: pattern, first :: text => c == first && like pattern text
  | _ :: _, [] => false

/-- Whether a character of a pattern stands for something else than itself. -/
def isWildcard (c : Char) : Bool := c == '%' || c == '_'

theorem like_nil {text : List Char} : like [] text = true ↔ text = [] := by
  simp [like]

/-- A sequence of any length is passed over. -/
theorem like_sequence {pattern text : List Char} :
    like ('%' :: pattern) text = true ↔
      ∃ skipped later, text = skipped ++ later ∧ like pattern later = true := by
  simp only [like, List.any_eq_true, List.mem_tails]
  constructor
  · rintro ⟨later, ⟨skipped, split⟩, matched⟩
    exact ⟨skipped, later, split.symm, matched⟩
  · rintro ⟨skipped, later, split, matched⟩
    exact ⟨later, ⟨skipped, split.symm⟩, matched⟩

theorem like_single {c : Char} (single : c ≠ '%') {pattern text : List Char} :
    like (c :: pattern) text = true ↔
      ∃ first later, text = first :: later ∧ (c = '_' ∨ c = first) ∧ like pattern later = true := by
  cases text with
  | nil => simp [like]
  | cons first later =>
    by_cases any : c = '_'
    · subst any
      simp [like]
    · simp [like, any]

/-- A text matches patterns that follow each other piece by piece. -/
theorem like_append {left right text : List Char} :
    like (left ++ right) text = true ↔
      ∃ first later, text = first ++ later ∧ like left first = true ∧ like right later = true := by
  induction left generalizing text with
  | nil => simp [like_nil]
  | cons c rest ih =>
    rw [List.cons_append]
    by_cases sequence : c = '%'
    · subst sequence
      simp only [like_sequence, ih]
      constructor
      · rintro ⟨skipped, _, rfl, first, later, rfl, matched, others⟩
        exact ⟨skipped ++ first, later, by simp, ⟨skipped, first, rfl, matched⟩, others⟩
      · rintro ⟨_, later, rfl, ⟨skipped, first, rfl, matched⟩, others⟩
        exact ⟨skipped, first ++ later, by simp, first, later, rfl, matched, others⟩
    · simp only [like_single sequence, ih]
      constructor
      · rintro ⟨a, _, rfl, same, first, later, rfl, matched, others⟩
        exact ⟨a :: first, later, rfl, ⟨a, first, rfl, same, matched⟩, others⟩
      · rintro ⟨_, later, rfl, ⟨a, first, rfl, same, matched⟩, others⟩
        exact ⟨a, first ++ later, rfl, same, first, later, rfl, matched, others⟩

/-- `%` matches every text. -/
theorem like_any (text : List Char) : like ['%'] text = true :=
  like_sequence.mpr ⟨text, [], by simp, rfl⟩

/-- A pattern without wildcards matches itself only. -/
theorem like_plain {pattern : List Char} (plain : ∀ c ∈ pattern, isWildcard c = false)
    {text : List Char} : like pattern text = true ↔ text = pattern := by
  induction pattern generalizing text with
  | nil => exact like_nil
  | cons c rest ih =>
    have here := plain c List.mem_cons_self
    have later := @ih fun a member => plain a (List.mem_cons_of_mem _ member)
    simp only [isWildcard, Bool.or_eq_false_iff, beq_eq_false_iff_ne] at here
    simp only [like_single here.1, later, here.2, false_or]
    constructor
    · rintro ⟨_, _, rfl, rfl, rfl⟩
      rfl
    · rintro rfl
      exact ⟨c, rest, rfl, rfl, rfl⟩

/-- A pattern matches what comes of it when each wildcard is some single character. -/
theorem like_map {pattern : List Char} {change : Char → Char}
    (keeps : ∀ c ∈ pattern, isWildcard c = false → change c = c) :
    like pattern (pattern.map change) = true := by
  induction pattern with
  | nil => rfl
  | cons c rest ih =>
    have later := ih fun a member => keeps a (List.mem_cons_of_mem _ member)
    rw [List.map_cons]
    by_cases sequence : c = '%'
    · subst sequence
      exact like_sequence.mpr ⟨[_], _, rfl, later⟩
    · refine (like_single sequence).mpr ⟨_, _, rfl, ?_, later⟩
      by_cases any : c = '_'
      · exact .inl any
      · exact .inr (keeps c List.mem_cons_self (by simp [isWildcard, sequence, any])).symm

/-- Every pattern matches itself. -/
theorem like_self (pattern : List Char) : like pattern pattern = true := by
  have mapped := @like_map pattern id fun _ _ _ => rfl
  rwa [List.map_id] at mapped

/-- Every pattern matches some text without wildcards. -/
theorem exists_like_plain (pattern : List Char) :
    ∃ text, like pattern text = true ∧ ∀ c ∈ text, isWildcard c = false := by
  refine ⟨pattern.map fun c => if isWildcard c then 'a' else c, like_map ?_, ?_⟩
  · intro c _ plain
    simp [plain]
  · intro c member
    obtain ⟨source, -, rfl⟩ := List.mem_map.mp member
    cases wild : isWildcard source with
    | true => rfl
    | false => exact wild

/-! ## Patterns of needles -/

/-- The pattern that a pattern operator writes for a needle. -/
def searchPattern (operator : Operator) (needle : String) : String :=
  if operator = .startsWith then needle ++ "%" else "%" ++ needle ++ "%"

/-- The pattern matches a text when the operator finds a piece in it that the needle
    matches. -/
theorem like_searchPattern (operator : Operator) (needle : String) {text : List Char} :
    like (searchPattern operator needle).toList text = true ↔
      ∃ piece, operator.Finds piece text ∧ like needle.toList piece = true := by
  unfold searchPattern Operator.Finds
  split
  · have chars : (needle ++ "%").toList = needle.toList ++ ['%'] := by simp
    rw [chars, like_append]
    constructor
    · rintro ⟨piece, after, rfl, matched, -⟩
      exact ⟨piece, List.prefix_append _ _, matched⟩
    · rintro ⟨piece, ⟨after, rfl⟩, matched⟩
      exact ⟨piece, after, rfl, matched, like_any after⟩
  · have chars : ("%" ++ needle ++ "%").toList = '%' :: (needle.toList ++ ['%']) := by simp
    rw [chars, like_sequence]
    constructor
    · rintro ⟨before, _, rfl, rest⟩
      obtain ⟨piece, after, rfl, matched, -⟩ := like_append.mp rest
      exact ⟨piece, ⟨before, after, by simp⟩, matched⟩
    · rintro ⟨piece, ⟨before, after, rfl⟩, matched⟩
      exact ⟨before, piece ++ after, by simp,
        like_append.mpr ⟨piece, after, rfl, matched, like_any after⟩⟩

/-- The pattern matches just what the operator accepts when the needle has no wildcard, and
    only then. -/
theorem like_searchPattern_eq_holds {operator : Operator} (pattern : operator.isPattern = true)
    {needle : String} :
    (∀ text : String, like (searchPattern operator needle).toList text.toList = true ↔
        operator.holds (.text text) (.text needle) = true) ↔
      ∀ c ∈ needle.toList, isWildcard c = false := by
  simp only [like_searchPattern, Operator.holds_iff_finds pattern]
  constructor
  · intro agree c member
    -- a text without wildcards that the needle matches has to contain the needle itself
    obtain ⟨text, matched, plain⟩ := exists_like_plain needle.toList
    have found := (agree (String.ofList text)).mp
      ⟨text, by rw [String.toList_ofList]; exact operator.finds_self text, matched⟩
    rw [String.toList_ofList] at found
    exact plain c (found.subset member)
  · intro plain text
    simp [like_plain plain]

/-- A pattern operator is written as a `LIKE` with one string literal.  Its pattern selects
    the texts in which the operator finds what the needle matches as a pattern.  These include
    every text that the operator accepts, and no other one exactly when the needle has no
    wildcard. -/
theorem like_comparison (config : Config) (property : Property) (parameter needle : String)
    {operator : Operator} (pattern : operator.isPattern = true) :
    ∃ literal searched,
      config.comparison ⟨property, .text needle, operator⟩ parameter =
        .ok (config.column parameter property.name ++ " LIKE " ++ literal) ∧
      lex literal.toList = some [.text searched] ∧
      (∀ text : String, like searched.toList text.toList = true ↔
        ∃ piece, operator.Finds piece text.toList ∧ like needle.toList piece = true) ∧
      (∀ text : String, operator.holds (.text text) (.text needle) = true →
        like searched.toList text.toList = true) ∧
      ((∀ text : String, like searched.toList text.toList = true ↔
          operator.holds (.text text) (.text needle) = true) ↔
        ∀ c ∈ needle.toList, isWildcard c = false) := by
  refine ⟨quoteString (searchPattern operator needle), searchPattern operator needle,
    ?written, lex_quoted _, fun _ => like_searchPattern operator needle, ?accepted,
    like_searchPattern_eq_holds pattern⟩
  case written =>
    rcases Operator.isPattern_iff.mp pattern with rfl | rfl <;> rfl
  case accepted =>
    intro text holds
    have found := (Operator.holds_iff_finds pattern).mp holds
    exact (like_searchPattern operator needle).mpr ⟨_, found, like_self _⟩

/-- A needle with an apostrophe and no wildcard. -/
theorem like_comparison_apostrophe :
    Operator.startsWith.isPattern = true ∧
      ∃ literal searched,
        Config.default.comparison
            ⟨⟨"User", "LastName", .text, Record.value "LastName"⟩, .text "O'Br", .startsWith⟩ "u" =
          .ok ("u.LastName LIKE " ++ literal) ∧
        lex literal.toList = some [.text searched] ∧
        ∀ text : String, like searched.toList text.toList = true ↔
          Operator.startsWith.holds (.text text) (.text "O'Br") = true := by
  obtain ⟨literal, searched, written, read, -, -, agree⟩ := @like_comparison Config.default
    ⟨"User", "LastName", .text, Record.value "LastName"⟩ "u" "O'Br" .startsWith rfl
  exact ⟨rfl, literal, searched, written, read, agree.mpr (by simp [isWildcard])⟩

/-- The pattern for an underscore matches a text without one, which the operator does not
    accept. -/
theorem like_underscore :
    let title : Property := ⟨"Record", "Title", .text, Record.value "Title"⟩
    Criterion.make title (.text "_") .contains = .ok (some ⟨title, .text "_", .contains⟩) ∧
      Config.default.comparison ⟨title, .text "_", .contains⟩ "" = .ok "Title LIKE '%_%'" ∧
      lex "'%_%'".toList = some [.text "%_%"] ∧
      like "%_%".toList "ab".toList = true ∧
      Operator.contains.holds (.text "ab") (.text "_") = false := by
  intro title
  refine ⟨rfl, by decide +kernel, ?_, by decide, by decide⟩
  have quoted : quoteString "%_%" = "'%_%'" := by decide
  rw [← quoted, lex_quoted]

end Sql

end RecordFilter
