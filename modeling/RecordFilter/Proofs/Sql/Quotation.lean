import RecordFilter.Proofs.Sql.Literal

/-!
# Texts between quotes

A string stands between single quotes and an escaped name between double quotes, with
every quote inside written twice.  A reader stops at the closing quote exactly when no
further quote follows it, and then it has read what was written (`write_invertible`).
So the written texts are the texts between quotes whose own quotes come in pairs, each
of them the text of one content.
-/

namespace RecordFilter.Sql

/-! ## Quotes in pairs -/

/-- A text in which one character occurs in pairs only. -/
inductive Paired (quote : Char) : List Char → Prop
  | nil : Paired quote []
  | pair {rest : List Char} (paired : Paired quote rest) : Paired quote (quote :: quote :: rest)
  | other {c : Char} {rest : List Char} (other : c ≠ quote) (paired : Paired quote rest) :
      Paired quote (c :: rest)

/-- Doubling a quote writes exactly the texts in which it occurs in pairs. -/
theorem paired_iff {quote : Char} {text : List Char} :
    Paired quote text ↔ ∃ content, doubled quote content = text := by
  constructor
  · intro paired
    induction paired with
    | nil => exact ⟨[], rfl⟩
    | pair _ ih =>
      obtain ⟨content, rfl⟩ := ih
      exact ⟨quote :: content, by simp⟩
    | other other _ ih =>
      obtain ⟨content, rfl⟩ := ih
      exact ⟨_ :: content, by rw [doubled_cons, if_neg other]; rfl⟩
  · rintro ⟨content, rfl⟩
    induction content with
    | nil => exact .nil
    | cons c rest ih =>
      by_cases same : c = quote
      · subst same
        rw [doubled_cons, if_pos rfl]
        exact .pair ih
      · rw [doubled_cons, if_neg same]
        exact .other same ih

/-! ## Strings and escaped names -/

/-- What stands between quotes. -/
inductive Quotation where
  | string
  | name
  deriving DecidableEq, Repr

namespace Quotation

/-- The quote on either side. -/
def mark : Quotation → Char
  | string => '\''
  | name => '"'

/-- Writes a content between quotes. -/
def write : Quotation → String → String
  | string => quoteString
  | name => escapeIdentifier

/-- The token with a content. -/
def token : Quotation → String → Token
  | string => .text
  | name => .quoted

/-- A text from its opening to its closing quote, with the quotes between them in pairs. -/
def IsWritten (quotation : Quotation) (text : List Char) : Prop :=
  ∃ inner, Paired quotation.mark inner ∧ text = quotation.mark :: inner ++ [quotation.mark]

variable (quotation : Quotation)

theorem toList_write (content : String) :
    (quotation.write content).toList =
      quotation.mark :: doubled quotation.mark content.toList ++ [quotation.mark] := by
  cases quotation <;> exact String.toList_ofList

theorem token_injective : Function.Injective quotation.token := by
  intro first second same
  cases quotation with
  | string => exact Token.text.inj same
  | name => exact Token.quoted.inj same

/-- An opening quote begins a token that ends with the closing one. -/
theorem token?_mark (rest : List Char) :
    token? (quotation.mark :: rest) = (readQuoted quotation.mark rest).map fun read =>
      (quotation.token (String.ofList read.1), read.2) := by
  cases quotation with
  | string =>
    rw [mark, token?_cons (by decide), readToken, if_pos rfl]
    rfl
  | name =>
    rw [mark, token?_cons (by decide), readToken, if_neg (by decide), if_pos rfl]
    rfl

variable {quotation}

/-- A token between quotes begins with a quote. -/
theorem eq_mark_of_token? {text later : List Char} {content : String}
    (read : token? text = some (quotation.token content, later)) :
    ∃ rest, text = quotation.mark :: rest := by
  cases text with
  | nil => cases read
  | cons c rest =>
    refine ⟨rest, congrArg (· :: rest) ?_⟩
    cases blank : Text.isBlank c with
    | true => simp [token?, blank] at read
    | false =>
      rw [token?_cons blank, readToken] at read
      split at read
      case isTrue isMark =>
        obtain ⟨found, -, same⟩ := Option.map_eq_some_iff.mp read
        cases quotation with
        | string => exact isMark
        | name => cases same
      split at read
      case isTrue isMark =>
        obtain ⟨found, -, same⟩ := Option.map_eq_some_iff.mp read
        cases quotation with
        | string => cases same
        | name => exact isMark
      -- no other token stands between quotes
      repeat' split at read
      all_goals cases quotation <;> cases read

/-- A token between quotes is read exactly off what is written for its content, in front of
    anything but another quote. -/
theorem token?_eq_some_iff {text later : List Char} {content : String} :
    token? text = some (quotation.token content, later) ↔
      text = (quotation.write content).toList ++ later ∧ later.head? ≠ some quotation.mark := by
  constructor
  · intro read
    obtain ⟨rest, rfl⟩ := eq_mark_of_token? read
    rw [token?_mark] at read
    obtain ⟨⟨inner, behind⟩, found, same⟩ := Option.map_eq_some_iff.mp read
    obtain ⟨token, rfl⟩ := Prod.mk.inj same
    obtain ⟨written, alone⟩ := eq_of_readQuoted found
    have chars : content.toList = inner := by
      rw [← quotation.token_injective token, String.toList_ofList]
    exact ⟨by rw [toList_write, chars, written]; simp, alone⟩
  · rintro ⟨rfl, alone⟩
    have read := readQuoted_doubled alone content.toList
    rw [toList_write, List.cons_append, List.cons_append, List.append_assoc, token?_mark,
      List.singleton_append, read, Option.map_some, String.ofList_toList]

/-- Writing between quotes can be undone in any context.  Behind a written text a reader has
    read its content and stands in front of what follows exactly when that begins with no
    further quote; different contents are written differently; and the written texts are
    exactly those from an opening to a closing quote with the quotes between them in pairs,
    the same that are read as one token of this kind and no more. -/
theorem write_invertible (quotation : Quotation) :
    (∀ (content : String) (later : List Char),
      token? ((quotation.write content).toList ++ later) = some (quotation.token content, later) ↔
        later.head? ≠ some quotation.mark) ∧
    Function.Injective quotation.write ∧
    ∀ text : String,
      ((∃ content, quotation.write content = text) ↔ quotation.IsWritten text.toList) ∧
      ∀ content, quotation.write content = text ↔
        token? text.toList = some (quotation.token content, []) := by
  have reads : ∀ content (text : String), quotation.write content = text ↔
      token? text.toList = some (quotation.token content, []) := by
    intro content text
    rw [token?_eq_some_iff, List.append_nil, ← String.toList_inj, eq_comm]
    simp
  refine ⟨fun content later => ?_, fun first second same => ?_, fun text => ⟨?_, fun content =>
    reads content text⟩⟩
  · rw [token?_eq_some_iff]
    exact and_iff_right rfl
  · have once := (reads first _).mp rfl
    rw [same, (reads second _).mp rfl] at once
    exact (quotation.token_injective (Prod.mk.inj (Option.some.inj once)).1).symm
  · constructor
    · rintro ⟨content, rfl⟩
      exact ⟨_, paired_iff.mpr ⟨content.toList, rfl⟩, quotation.toList_write content⟩
    · rintro ⟨inner, paired, between⟩
      obtain ⟨content, rfl⟩ := paired_iff.mp paired
      refine ⟨String.ofList content, String.toList_inj.mp ?_⟩
      rw [toList_write, String.toList_ofList, between]

end Quotation

end RecordFilter.Sql
