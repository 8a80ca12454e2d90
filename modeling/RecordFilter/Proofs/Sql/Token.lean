import Mathlib.Data.List.TakeWhile
import RecordFilter.Sql.Quoting
import RecordFilter.Text.Blank

/-!
# SQL tokens

`lex` splits SQL text into tokens: words, quoted identifiers and strings with their
quotes taken off, signed numbers, and symbols.  A text that reads on its own reads the
same in front of a blank, a comma or a closing parenthesis (`lex_append`), so a text
may be read piece by piece.
-/

namespace RecordFilter.Sql

/-- A token of SQL text. -/
inductive Token where
  /-- A bare word. -/
  | word (text : String)
  /-- A name between double quotes. -/
  | quoted (name : String)
  /-- A text between single quotes. -/
  | text (content : String)
  /-- A number with its sign. -/
  | number (text : String)
  /-- Punctuation. -/
  | symbol (text : String)
  deriving DecidableEq, Repr

/-! ## Reading tokens -/

/-- Reads up to the closing quote.  Two quotes in a row stand for one. -/
def readQuoted (quote : Char) : List Char → Option (List Char × List Char)
  | [] => none
  | c :: rest =>
    if c = quote then
      match rest with
      | [] => some ([], [])
      | next :: later =>
        if next = quote then (readQuoted quote later).map fun read => (quote :: read.1, read.2)
        else some ([], next :: later)
    else (readQuoted quote rest).map fun read => (c :: read.1, read.2)

/-- Reads digits with an optional fraction. -/
def readNumber (text : List Char) : List Char × List Char :=
  match text.dropWhile Char.isDigit with
  | '.' :: c :: rest =>
    if c.isDigit then
      (text.takeWhile Char.isDigit ++ '.' :: (c :: rest).takeWhile Char.isDigit,
        (c :: rest).dropWhile Char.isDigit)
    else (text.takeWhile Char.isDigit, '.' :: c :: rest)
  | rest => (text.takeWhile Char.isDigit, rest)

/-- The comparison signs of two characters. -/
def pairs : List (Char × Char) := [('<', '='), ('>', '='), ('<', '>'), ('!', '=')]

/-- Reads the token that starts with the first character, which is not blank. -/
def readToken (c : Char) (rest : List Char) : Option (Token × List Char) :=
  if c = '\'' then
    (readQuoted '\'' rest).map fun read => (.text (String.ofList read.1), read.2)
  else if c = '"' then
    (readQuoted '"' rest).map fun read => (.quoted (String.ofList read.1), read.2)
  else if c.isDigit ∨ (c = '-' ∧ rest.head?.any Char.isDigit) then
    some (.number (String.ofList (c :: (readNumber rest).1)), (readNumber rest).2)
  else if isWordChar c then
    some (.word (String.ofList (c :: rest.takeWhile isWordChar)), rest.dropWhile isWordChar)
  else if rest.head?.any fun next => pairs.contains (c, next) then
    some (.symbol (String.ofList (c :: rest.take 1)), rest.drop 1)
  else some (.symbol (String.ofList [c]), rest)

theorem readQuoted_of_ne {quote c : Char} (other : c ≠ quote) (rest : List Char) :
    readQuoted quote (c :: rest) =
      (readQuoted quote rest).map fun read => (c :: read.1, read.2) := by
  cases rest <;> simp [readQuoted, other]

/-- What is read was written with its quotes doubled, up to a quote that stands alone. -/
theorem eq_of_readQuoted {quote : Char} {text : List Char} {read : List Char × List Char}
    (found : readQuoted quote text = some read) :
    text = doubled quote read.1 ++ quote :: read.2 ∧ read.2.head? ≠ some quote := by
  induction text using readQuoted.induct quote generalizing read with
  | case1 => cases found
  | case2 =>
    simp only [readQuoted] at found
    cases found
    simp
  | case3 rest ih =>
    simp only [readQuoted] at found
    obtain ⟨inner, innerFound, rfl⟩ := Option.map_eq_some_iff.mp found
    obtain ⟨written, alone⟩ := ih innerFound
    exact ⟨by simp [written], alone⟩
  | case4 next rest other =>
    simp only [readQuoted, if_neg other] at found
    cases found
    exact ⟨by simp, by simpa using other⟩
  | case5 c rest other ih =>
    rw [readQuoted_of_ne other] at found
    obtain ⟨inner, innerFound, rfl⟩ := Option.map_eq_some_iff.mp found
    obtain ⟨written, alone⟩ := ih innerFound
    exact ⟨by simp [written, other], alone⟩

/-- Doubled quotes are read back, up to a quote that stands alone. -/
theorem readQuoted_doubled {quote : Char} {later : List Char} (alone : later.head? ≠ some quote)
    (content : List Char) :
    readQuoted quote (doubled quote content ++ quote :: later) = some (content, later) := by
  induction content with
  | nil =>
    cases later with
    | nil => simp [readQuoted]
    | cons next rest =>
      have other : next ≠ quote := by simpa using alone
      simp [readQuoted, other]
  | cons c rest ih =>
    by_cases same : c = quote
    · subst same
      simp [readQuoted, ih]
    · simp [same, readQuoted_of_ne same, ih]

theorem readNumber_length (text : List Char) : (readNumber text).2.length ≤ text.length := by
  have digits := (List.dropWhile_suffix Char.isDigit (l := text)).length_le
  unfold readNumber
  split
  · rename_i c rest whole
    have fraction := (List.dropWhile_suffix Char.isDigit (l := c :: rest)).length_le
    rw [whole] at digits
    simp only [List.length_cons] at digits fraction
    split
    · simp only
      omega
    · exact digits
  · exact digits

/-- What a token leaves is no longer than what follows its first character. -/
theorem readToken_length {c : Char} {rest : List Char} {read : Token × List Char}
    (found : readToken c rest = some read) : read.2.length ≤ rest.length := by
  have quoted : ∀ {quote : Char} {inner : List Char × List Char},
      readQuoted quote rest = some inner → inner.2.length ≤ rest.length := by
    intro quote inner innerFound
    have written := congrArg List.length (eq_of_readQuoted innerFound).1
    simp only [List.length_append, List.length_cons] at written
    omega
  unfold readToken at found
  split at found
  · obtain ⟨inner, innerFound, rfl⟩ := Option.map_eq_some_iff.mp found
    exact quoted innerFound
  split at found
  · obtain ⟨inner, innerFound, rfl⟩ := Option.map_eq_some_iff.mp found
    exact quoted innerFound
  split at found
  · cases found
    exact readNumber_length rest
  split at found
  · cases found
    exact (List.dropWhile_suffix isWordChar (l := rest)).length_le
  split at found
  · cases found
    simp
  · cases found
    simp

/-- Splits text into tokens; there are none where a quote is left open. -/
def lex : List Char → Option (List Token)
  | [] => some []
  | c :: rest =>
    if Text.isBlank c then lex rest
    else
      match _read : readToken c rest with
      | none => none
      | some (token, later) => (lex later).map (token :: ·)
termination_by text => text.length
decreasing_by
  · simp
  · exact Nat.lt_succ_of_le (readToken_length _read)

@[simp]
theorem lex_nil : lex [] = some [] := by
  rw [lex.eq_def]

theorem lex_blank {c : Char} (blank : Text.isBlank c = true) (rest : List Char) :
    lex (c :: rest) = lex rest := by
  rw [lex.eq_def]
  exact if_pos blank

theorem lex_cons {c : Char} (solid : Text.isBlank c = false) (rest : List Char) :
    lex (c :: rest) =
      (readToken c rest).bind fun read => (lex read.2).map (read.1 :: ·) := by
  rw [lex.eq_def]
  simp only [solid, Bool.false_eq_true, if_false]
  split
  · rename_i none
    rw [none]
    rfl
  · rename_i found
    rw [found]
    rfl

theorem lex_token {c : Char} {rest later : List Char} {token : Token}
    (solid : Text.isBlank c = false) (read : readToken c rest = some (token, later)) :
    lex (c :: rest) = (lex later).map (token :: ·) := by
  rw [lex_cons solid, read]
  rfl

/-- The token at the start of a text, with what stands behind it.  There is none where the text
    is empty or starts with a blank. -/
def token? : List Char → Option (Token × List Char)
  | [] => none
  | c :: rest => if Text.isBlank c then none else readToken c rest

theorem token?_cons {c : Char} (solid : Text.isBlank c = false) (rest : List Char) :
    token? (c :: rest) = readToken c rest := by
  simp [token?, solid]

theorem lex_of_token? {text later : List Char} {token : Token}
    (read : token? text = some (token, later)) : lex text = (lex later).map (token :: ·) := by
  cases text with
  | nil => cases read
  | cons c rest =>
    cases blank : Text.isBlank c with
    | true => simp [token?, blank] at read
    | false =>
      rw [token?_cons blank] at read
      exact lex_token blank read

/-! ## Reading piece by piece -/

/-- Nothing more is taken where the text after the end is not of the class. -/
theorem takeWhile_append_of_stop {α : Type} {p : α → Bool} {tail : List α}
    (stop : ∀ a ∈ tail.head?, p a = false) (items : List α) :
    (items ++ tail).takeWhile p = items.takeWhile p := by
  induction items with
  | nil =>
    cases tail with
    | nil => rfl
    | cons a rest => simp [stop a rfl]
  | cons item rest ih =>
    rw [List.cons_append, List.takeWhile_cons, List.takeWhile_cons, ih]

theorem dropWhile_append_of_stop {α : Type} {p : α → Bool} {tail : List α}
    (stop : ∀ a ∈ tail.head?, p a = false) (items : List α) :
    (items ++ tail).dropWhile p = items.dropWhile p ++ tail := by
  induction items with
  | nil =>
    cases tail with
    | nil => rfl
    | cons a rest => simp [stop a rfl]
  | cons item rest ih =>
    rw [List.cons_append, List.dropWhile_cons, List.dropWhile_cons, ih]
    split <;> rfl

/-- Whether every token ends before a character. -/
def isBreak (c : Char) : Bool := Text.isBlank c || c == ',' || c == ')'

/-- A text in front of which every token ends. -/
def Breaks (text : List Char) : Prop := ∀ c ∈ text.head?, isBreak c = true

theorem isBlank_toNat {c : Char} (blank : Text.isBlank c = true) :
    c.toNat ≤ 32 ∨ 133 ≤ c.toNat := by
  simp only [Text.isBlank, Bool.or_eq_true, Bool.and_eq_true, decide_eq_true_eq,
    beq_iff_eq] at blank
  omega

theorem isWordChar_toNat {c : Char} (word : isWordChar c = true) :
    48 ≤ c.toNat ∧ c.toNat ≤ 122 := by
  change ((decide ('A'.val ≤ c.val ∧ c.val ≤ 'Z'.val) ||
    decide ('a'.val ≤ c.val) && decide (c.val ≤ 'z'.val)) ||
    decide ('0'.val ≤ c.val) && decide (c.val ≤ '9'.val)) || c == '_' at word
  simp only [Bool.or_eq_true, Bool.and_eq_true, decide_eq_true_eq, beq_iff_eq,
    UInt32.le_iff_toNat_le] at word
  rcases word with ((⟨low, high⟩ | ⟨low, high⟩) | ⟨low, high⟩) | rfl
  · exact ⟨Nat.le_trans (by decide) low, Nat.le_trans high (by decide)⟩
  · exact ⟨Nat.le_trans (by decide) low, Nat.le_trans high (by decide)⟩
  · exact ⟨Nat.le_trans (by decide) low, Nat.le_trans high (by decide)⟩
  · decide

theorem isWordChar_of_isDigit {c : Char} (digit : c.isDigit = true) : isWordChar c = true := by
  simp [isWordChar, Char.isAlphanum, digit]

theorem isWordChar_of_isBreak {c : Char} (breaks : isBreak c = true) : isWordChar c = false := by
  rw [Bool.eq_false_iff]
  intro word
  have code := isWordChar_toNat word
  simp only [isBreak, Bool.or_eq_true, beq_iff_eq] at breaks
  rcases breaks with (blank | rfl) | rfl
  · have blankCode := isBlank_toNat blank
    omega
  · exact absurd word (by decide)
  · exact absurd word (by decide)

namespace Breaks

variable {tail : List Char}

theorem isWordChar (breaks : Breaks tail) : ∀ c ∈ tail.head?, Sql.isWordChar c = false :=
  fun c head => isWordChar_of_isBreak (breaks c head)

theorem isDigit (breaks : Breaks tail) : ∀ c ∈ tail.head?, c.isDigit = false := by
  intro c head
  rw [Bool.eq_false_iff]
  intro digit
  exact absurd (isWordChar_of_isDigit digit) (by simp [breaks.isWordChar c head])

theorem head?_ne (breaks : Breaks tail) {c : Char} (solid : isBreak c = false) :
    tail.head? ≠ some c := by
  intro head
  have broken := breaks c head
  rw [solid] at broken
  cases broken

end Breaks

theorem readQuoted_append {quote : Char} {text tail : List Char} {read : List Char × List Char}
    (alone : tail.head? ≠ some quote) (found : readQuoted quote text = some read) :
    readQuoted quote (text ++ tail) = some (read.1, read.2 ++ tail) := by
  obtain ⟨rfl, ends⟩ := eq_of_readQuoted found
  rw [List.append_assoc, List.cons_append]
  refine readQuoted_doubled ?_ read.1
  cases later : read.2 with
  | nil => exact alone
  | cons next rest =>
    rw [later] at ends
    exact ends

/-- A number reads the same in front of anything but a digit or a point. -/
theorem readNumber_append {tail : List Char} (noDigit : ∀ c ∈ tail.head?, c.isDigit = false)
    (noPoint : tail.head? ≠ some '.') (text : List Char) :
    readNumber (text ++ tail) = ((readNumber text).1, (readNumber text).2 ++ tail) := by
  have whole := takeWhile_append_of_stop noDigit text
  have rest := dropWhile_append_of_stop noDigit text
  unfold readNumber
  rw [whole, rest]
  -- a point and a digit after the digits begin the fraction
  cases text.dropWhile Char.isDigit with
  | nil =>
    cases tail with
    | nil => rfl
    | cons c others =>
      have point : c ≠ '.' := by simpa using noPoint
      simp [point]
  | cons point others =>
    by_cases isPoint : point = '.'
    · subst isPoint
      cases others with
      | nil =>
        cases tail with
        | nil => rfl
        | cons c others => simp [noDigit c rfl]
      | cons c others =>
        have fraction := takeWhile_append_of_stop noDigit (c :: others)
        have later := dropWhile_append_of_stop noDigit (c :: others)
        simp only [List.cons_append] at fraction later
        by_cases digit : c.isDigit <;> simp [digit, fraction, later]
    · simp [isPoint]

theorem any_head?_append {p : Char → Bool} {tail : List Char}
    (stop : ∀ c ∈ tail.head?, p c = false) (text : List Char) :
    (text ++ tail).head?.any p = text.head?.any p := by
  cases text with
  | nil =>
    cases tail with
    | nil => rfl
    | cons c rest => simp [stop c rfl]
  | cons c rest => rfl

theorem Breaks.not_pair {tail : List Char} (breaks : Breaks tail) (first : Char) :
    ∀ c ∈ tail.head?, pairs.contains (first, c) = false := by
  intro c head
  have equals : c ≠ '=' := fun same => breaks.head?_ne (c := '=') (by decide) (same ▸ head)
  have greater : c ≠ '>' := fun same => breaks.head?_ne (c := '>') (by decide) (same ▸ head)
  simp [pairs, equals, greater]

/-- A token reads the same wherever it ends. -/
theorem readToken_append {tail : List Char} (breaks : Breaks tail) {c : Char} {rest : List Char}
    {read : Token × List Char} (found : readToken c rest = some read) :
    readToken c (rest ++ tail) = some (read.1, read.2 ++ tail) := by
  unfold readToken at found ⊢
  rw [any_head?_append breaks.isDigit, any_head?_append (breaks.not_pair c)]
  split at found
  case isTrue opens =>
    obtain ⟨inner, innerFound, rfl⟩ := Option.map_eq_some_iff.mp found
    rw [if_pos opens, readQuoted_append (breaks.head?_ne (by decide)) innerFound]
    rfl
  case isFalse notText =>
  rw [if_neg notText]
  split at found
  case isTrue opens =>
    obtain ⟨inner, innerFound, rfl⟩ := Option.map_eq_some_iff.mp found
    rw [if_pos opens, readQuoted_append (breaks.head?_ne (by decide)) innerFound]
    rfl
  case isFalse notName =>
  rw [if_neg notName]
  split at found
  case isTrue numeral =>
    cases found
    rw [if_pos numeral, readNumber_append breaks.isDigit (breaks.head?_ne (by decide))]
  case isFalse notNumeral =>
  rw [if_neg notNumeral]
  split at found
  case isTrue word =>
    cases found
    rw [if_pos word, takeWhile_append_of_stop breaks.isWordChar,
      dropWhile_append_of_stop breaks.isWordChar]
  case isFalse notWord =>
  rw [if_neg notWord]
  split at found
  case isTrue pair =>
    cases found
    rw [if_pos pair]
    cases rest with
    | nil => contradiction
    | cons second rest => rfl
  case isFalse single =>
    cases found
    rw [if_neg single]

/-- A text that reads on its own reads the same wherever its last token ends. -/
theorem lex_append {text : List Char} {tokens : List Token} (read : lex text = some tokens)
    {tail : List Char} (breaks : Breaks tail) :
    lex (text ++ tail) = (lex tail).map (tokens ++ ·) := by
  -- only the last token meets the tail, where `Breaks` ends it
  induction text using lex.induct generalizing tokens with
  | case1 =>
    rw [lex_nil] at read
    cases read
    simp
  | case2 c rest blank ih =>
    rw [lex_blank blank] at read
    rw [List.cons_append, lex_blank blank, ih read]
  | case3 c rest solid found =>
    rw [lex_cons (by simpa using solid), found] at read
    cases read
  | case4 c rest solid token later found ih =>
    have solid' : Text.isBlank c = false := by simpa using solid
    rw [lex_token solid' found] at read
    obtain ⟨others, othersRead, rfl⟩ := Option.map_eq_some_iff.mp read
    rw [List.cons_append, lex_token solid' (readToken_append breaks found), ih othersRead,
      Option.map_map]
    rfl

end RecordFilter.Sql
