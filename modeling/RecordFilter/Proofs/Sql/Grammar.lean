import RecordFilter.Proofs.Sql.Token
import RecordFilter.Proofs.Unfolding

/-!
# Grammar of SQL conditions

`Parses` derives the clause that a list of tokens stands for: `AND` binds tighter than
`OR`, parentheses override both, and comparisons are atoms.  A reader that goes through
the tokens once finds the clause of every derivation, so there is at most one
(`Parses.unique`).
-/

namespace RecordFilter.Sql

/-! ## Clauses -/

/-- A condition as it is read. -/
inductive Clause where
  | comparison (tokens : List Token)
  /-- A clause between parentheses. -/
  | grouped (inner : Clause)
  | joined (operator : GroupOperator) (left right : Clause)
  deriving DecidableEq, Repr

namespace Clause

/-- The comparisons from left to right. -/
def comparisons : Clause → List (List Token)
  | comparison tokens => [tokens]
  | grouped inner => inner.comparisons
  | joined _ left right => left.comparisons ++ right.comparisons

/-- The value of a clause, given the values of its comparisons from left to right. -/
def truth (values : Nat → Bool) : Clause → Bool
  | comparison _ => values 0
  | grouped inner => inner.truth values
  | joined operator left right =>
    operator.holds [left.truth values, right.truth fun i => values (left.comparisons.length + i)]

end Clause

/-! ## Tokens by their role -/

/-- The lower-case spellings of the words that are not part of an operand. -/
def keywords : List String := ["and", "or", "like", "in"]

/-- A word without regard to letter case. -/
def folded (word : String) : String := String.ofList (Text.lowercase word.toList)

/-- The symbols that compare operands. -/
def comparators : List String := ["=", "<", ">", "<=", ">=", "<>", "!="]

namespace Token

/-- Whether a token is a keyword, in any letter case. -/
def isKeyword (keyword : String) : Token → Bool
  | word name => folded name == keyword
  | _ => false

/-- Whether a token stands between the members of a group. -/
def joins : GroupOperator → Token → Bool
  | .and, token => token.isKeyword "and"
  | .or, token => token.isKeyword "or"

/-- Whether a token compares the operands around it. -/
def compares : Token → Bool
  | symbol sign => comparators.contains sign
  | token => token.isKeyword "like"

/-- Whether a token may be part of an operand. -/
def isSimple : Token → Bool
  | word name => !keywords.contains (folded name)
  | symbol sign => !(comparators ++ ["(", ")", ","]).contains sign
  | _ => true

end Token

/-- Tokens of one operand. -/
def IsOperand (tokens : List Token) : Prop := tokens ≠ [] ∧ ∀ token ∈ tokens, token.isSimple = true

/-- Tokens of one comparison: two operands with a sign between them, or an operand and
    a list of operands. -/
inductive IsComparison : List Token → Prop
  | compare {left right : List Token} {sign : Token} : IsOperand left → sign.compares = true →
      IsOperand right → IsComparison (left ++ sign :: right)
  | among {left : List Token} {items : List (List Token)} {sign : Token} : IsOperand left →
      sign.isKeyword "in" = true → items ≠ [] → (∀ item ∈ items, IsOperand item) →
      IsComparison
        (left ++ sign :: .symbol "(" :: ([.symbol ","].intercalate items ++ [.symbol ")"]))

/-! ## Derivations -/

/-- How tightly a clause holds together. -/
inductive Level where
  | atom
  | conjunction
  | disjunction
  deriving DecidableEq, Repr

/-- The tokens stand for the clause at a level. -/
inductive Parses : Level → List Token → Clause → Prop
  | comparison {tokens : List Token} : IsComparison tokens →
      Parses .atom tokens (.comparison tokens)
  | grouped {tokens : List Token} {clause : Clause} : Parses .disjunction tokens clause →
      Parses .atom (.symbol "(" :: (tokens ++ [.symbol ")"])) (.grouped clause)
  | atom {tokens : List Token} {clause : Clause} : Parses .atom tokens clause →
      Parses .conjunction tokens clause
  | both {left right : List Token} {sign : Token} {first second : Clause} :
      Parses .conjunction left first → sign.joins .and = true → Parses .atom right second →
      Parses .conjunction (left ++ sign :: right) (.joined .and first second)
  | conjunction {tokens : List Token} {clause : Clause} : Parses .conjunction tokens clause →
      Parses .disjunction tokens clause
  | either {left right : List Token} {sign : Token} {first second : Clause} :
      Parses .disjunction left first → sign.joins .or = true → Parses .conjunction right second →
      Parses .disjunction (left ++ sign :: right) (.joined .or first second)

/-! ## Reading -/

/-- Whether a token may stand in a list of operands. -/
def Token.isListed (token : Token) : Bool := token.isSimple || token = .symbol ","

/-- Reads the tokens of one comparison, and returns the tokens after it. -/
def readComparison (tokens : List Token) : Option (List Token × List Token) :=
  let left := tokens.takeWhile Token.isSimple
  match tokens.dropWhile Token.isSimple with
  | [] => none
  | sign :: rest =>
    if sign.compares then
      some (left ++ sign :: rest.takeWhile Token.isSimple, rest.dropWhile Token.isSimple)
    else if sign.isKeyword "in" ∧ rest.head? = some (.symbol "(") then
      let items := rest.tail.takeWhile Token.isListed
      let later := rest.tail.dropWhile Token.isListed
      if later.head? = some (.symbol ")") then
        some (left ++ sign :: .symbol "(" :: (items ++ [.symbol ")"]), later.tail)
      else none
    else none

/-- What was read since a parenthesis was opened: alternatives that are complete, and
    the members of the one that is being read. -/
structure Frame where
  complete : Option Clause
  current : Option Clause

namespace Frame

/-- A frame in which nothing was read. -/
def empty : Frame := ⟨none, none⟩

/-- A clause behind what was read before it. -/
def behind (operator : GroupOperator) : Option Clause → Clause → Clause
  | none, clause => clause
  | some earlier, clause => .joined operator earlier clause

/-- Adds a member to the alternative that is being read. -/
def add (frame : Frame) (clause : Clause) : Frame :=
  { frame with current := some (behind .and frame.current clause) }

/-- All that was read. -/
def result (frame : Frame) : Option Clause :=
  frame.current.map (behind .or frame.complete)

/-- Begins an alternative. -/
def alternative (frame : Frame) : Frame := ⟨frame.result, none⟩

end Frame

theorem readComparison_length {tokens : List Token} {read : List Token × List Token}
    (found : readComparison tokens = some read) : read.2.length < tokens.length := by
  have left := (List.dropWhile_suffix Token.isSimple (l := tokens)).length_le
  unfold readComparison at found
  simp only at found
  split at found
  · cases found
  rename_i sign rest whole
  rw [whole, List.length_cons] at left
  split at found
  · cases found
    have right := (List.dropWhile_suffix Token.isSimple (l := rest)).length_le
    simp only
    omega
  split at found
  · split at found
    · cases found
      have items := (List.dropWhile_suffix Token.isListed (l := rest.tail)).length_le
      have open_ := List.length_tail (l := rest)
      simp only [List.length_tail]
      omega
    · cases found
  · cases found

mutual

/-- Reads on where an operand is due. -/
def readOperand (outer : List Frame) (frame : Frame) (tokens : List Token) : Option Clause :=
  match tokens with
  | [] => none
  | token :: rest =>
    if token = .symbol "(" then readOperand (frame :: outer) .empty rest
    else
      match _read : readComparison (token :: rest) with
      | none => none
      | some (comparison, later) => readOperator outer (frame.add (.comparison comparison)) later
termination_by tokens.length
decreasing_by
  · simp
  · exact readComparison_length _read

/-- Reads on after an operand. -/
def readOperator (outer : List Frame) (frame : Frame) (tokens : List Token) : Option Clause :=
  match tokens with
  | [] => if outer.isEmpty then frame.result else none
  | token :: rest =>
    if token.joins .and then readOperand outer frame rest
    else if token.joins .or then readOperand outer frame.alternative rest
    else if token = .symbol ")" then
      match outer, frame.result with
      | parent :: outer, some inner => readOperator outer (parent.add (.grouped inner)) rest
      | _, _ => none
    else none
termination_by tokens.length
decreasing_by
  all_goals simp

end

/-! ## The reader finds every derivation -/

/-- What may follow a comparison: no further part of an operand. -/
def Follows (rest : List Token) : Prop := ∀ token ∈ rest.head?, token.isSimple = false

namespace Token

theorem isSimple_of_isKeyword {keyword : String} (known : keyword ∈ keywords) {token : Token}
    (isKeyword : token.isKeyword keyword = true) : token.isSimple = false := by
  cases token with
  | word name =>
    have spelled : folded name = keyword := by simpa [Token.isKeyword] using isKeyword
    simp [isSimple, spelled, known]
  | _ => cases isKeyword

theorem isSimple_of_joins {operator : GroupOperator} {token : Token}
    (joins : token.joins operator = true) : token.isSimple = false := by
  cases operator with
  | and => exact isSimple_of_isKeyword (by decide) joins
  | or => exact isSimple_of_isKeyword (by decide) joins

theorem isSimple_of_compares {token : Token} (compares : token.compares = true) :
    token.isSimple = false := by
  cases token with
  | symbol sign =>
    have known : sign ∈ comparators := by simpa [Token.compares] using compares
    simp [isSimple, known]
  | word name => exact isSimple_of_isKeyword (by decide) compares
  | _ => cases compares

/-- A word is one keyword at most. -/
theorem isKeyword_unique {first second : String} (apart : first ≠ second) {token : Token}
    (isFirst : token.isKeyword first = true) : token.isKeyword second = false := by
  cases token with
  | word name =>
    have spelled : folded name = first := by simpa [isKeyword] using isFirst
    simp [isKeyword, spelled, apart]
  | _ => rfl

end Token

theorem follows_cons {token : Token} {rest : List Token} (noOperand : token.isSimple = false) :
    Follows (token :: rest) := by
  intro head found
  cases found
  exact noOperand

/-- Operands with commas between them hold nothing but listed tokens. -/
theorem isListed_of_mem_intercalate {items : List (List Token)}
    (operands : ∀ item ∈ items, IsOperand item) :
    ∀ token ∈ [.symbol ","].intercalate items, token.isListed = true := by
  induction items with
  | nil => simp
  | cons item rest ih =>
    have first : ∀ token ∈ item, token.isListed = true := by
      intro token member
      rw [Token.isListed, (operands item List.mem_cons_self).2 token member, Bool.true_or]
    have others := ih fun other member => operands other (List.mem_cons_of_mem _ member)
    cases rest with
    | nil => simpa using first
    | cons second rest =>
      rw [List.intercalate_cons_cons]
      intro token member
      rcases List.mem_append.mp member with early | late
      · rcases List.mem_append.mp early with own | comma
        · exact first token own
        · rw [List.mem_singleton.mp comma]
          rfl
      · exact others token late

/-- A comparison is read to its end. -/
theorem readComparison_append {tokens rest : List Token} (comparison : IsComparison tokens)
    (follows : Follows rest) : readComparison (tokens ++ rest) = some (tokens, rest) := by
  cases comparison with
  | @compare left right sign leftOperand compares rightOperand =>
    have stop : Follows (sign :: (right ++ rest)) :=
      follows_cons (Token.isSimple_of_compares compares)
    rw [List.append_assoc, List.cons_append, readComparison, takeWhile_append_of_stop stop,
      dropWhile_append_of_stop stop, List.takeWhile_eq_self_iff.mpr leftOperand.2,
      List.dropWhile_eq_nil_iff.mpr leftOperand.2, List.nil_append]
    simp only [compares, if_true]
    rw [takeWhile_append_of_stop follows, dropWhile_append_of_stop follows,
      List.takeWhile_eq_self_iff.mpr rightOperand.2,
      List.dropWhile_eq_nil_iff.mpr rightOperand.2, List.nil_append]
  | @among left items sign leftOperand isIn inhabited operands =>
    have stop : Follows (sign :: .symbol "(" ::
        ([.symbol ","].intercalate items ++ [.symbol ")"] ++ rest)) :=
      follows_cons (Token.isSimple_of_isKeyword (by decide) isIn)
    have closing : ∀ token ∈ (Token.symbol ")" :: rest).head?, token.isListed = false := by
      intro token head
      cases head
      decide
    have listed := isListed_of_mem_intercalate operands
    have noSign : sign.compares = false := by
      cases sign with
      | word name => exact Token.isKeyword_unique (by decide) isIn
      | _ => cases isIn
    rw [List.append_assoc, List.cons_append, List.cons_append, readComparison,
      takeWhile_append_of_stop stop, dropWhile_append_of_stop stop,
      List.takeWhile_eq_self_iff.mpr leftOperand.2,
      List.dropWhile_eq_nil_iff.mpr leftOperand.2, List.nil_append]
    simp only [noSign, isIn, List.head?_cons, List.tail_cons, List.append_assoc,
      List.singleton_append]
    rw [takeWhile_append_of_stop closing, dropWhile_append_of_stop closing,
      List.takeWhile_eq_self_iff.mpr listed, List.dropWhile_eq_nil_iff.mpr listed]
    rfl

/-- A comparison starts with a part of an operand. -/
theorem exists_cons_of_isComparison {tokens : List Token} (comparison : IsComparison tokens) :
    ∃ first rest, tokens = first :: rest ∧ first.isSimple = true := by
  have operand : ∃ left right, IsOperand left ∧ tokens = left ++ right := by
    cases comparison with
    | compare leftOperand _ _ => exact ⟨_, _, leftOperand, rfl⟩
    | among leftOperand _ _ _ => exact ⟨_, _, leftOperand, rfl⟩
  obtain ⟨left, right, ⟨nonempty, simple⟩, rfl⟩ := operand
  obtain ⟨first, others, rfl⟩ := List.exists_cons_of_ne_nil nonempty
  exact ⟨first, others ++ right, rfl, simple first List.mem_cons_self⟩

section Reader

variable {outer : List Frame} {frame : Frame} {sign : Token} {rest : List Token}

theorem readOperator_and (joins : sign.joins .and = true) :
    readOperator outer frame (sign :: rest) = readOperand outer frame rest := by
  rw [readOperator.eq_def]
  simp only [joins, if_true]

theorem readOperator_or (joins : sign.joins .or = true) :
    readOperator outer frame (sign :: rest) = readOperand outer frame.alternative rest := by
  have noAnd : sign.joins .and = false := Token.isKeyword_unique (by decide) joins
  rw [readOperator.eq_def]
  simp [joins, noAnd]

theorem readOperator_close {inner : Clause} (result : frame.result = some inner) (parent : Frame) :
    readOperator (parent :: outer) frame (.symbol ")" :: rest) =
      readOperator outer (parent.add (.grouped inner)) rest := by
  rw [readOperator.eq_def]
  simp [Token.joins, Token.isKeyword, result]

theorem readOperand_open :
    readOperand outer frame (.symbol "(" :: rest) = readOperand (frame :: outer) .empty rest := by
  rw [readOperand.eq_def]
  simp

theorem readOperand_comparison {tokens : List Token} (comparison : IsComparison tokens)
    (follows : Follows rest) :
    readOperand outer frame (tokens ++ rest) =
      readOperator outer (frame.add (.comparison tokens)) rest := by
  have read := readComparison_append comparison follows
  obtain ⟨first, others, rfl, simple⟩ := exists_cons_of_isComparison comparison
  have noParenthesis : first ≠ .symbol "(" := by
    rintro rfl
    cases simple
  rw [List.cons_append] at read
  rw [List.cons_append, readOperand.eq_def]
  simp only [if_neg noParenthesis]
  split
  · rename_i none
    rw [read] at none
    cases none
  · rename_i found
    rw [read] at found
    cases found
    rfl

end Reader

/-- What the reader makes of tokens that stand for a clause at a level. -/
def ReadsBack : Level → List Token → Clause → Prop
  | .atom, tokens, clause => ∀ outer frame rest, Follows rest →
      readOperand outer frame (tokens ++ rest) = readOperator outer (frame.add clause) rest
  | .conjunction, tokens, clause => ∀ outer complete rest, Follows rest →
      readOperand outer ⟨complete, none⟩ (tokens ++ rest) =
        readOperator outer ⟨complete, some clause⟩ rest
  | .disjunction, tokens, clause => ∀ outer rest, Follows rest →
      ∃ frame : Frame, frame.result = some clause ∧
        readOperand outer .empty (tokens ++ rest) = readOperator outer frame rest

/-- Each derivation is read back with the frame its level calls for. -/
theorem readsBack_of_parses {level : Level} {tokens : List Token} {clause : Clause}
    (parses : Parses level tokens clause) : ReadsBack level tokens clause := by
  induction parses with
  | comparison comparison =>
    intro outer frame rest follows
    exact readOperand_comparison comparison follows
  | @grouped tokens clause _ ih =>
    intro outer frame rest follows
    have stop : Follows (.symbol ")" :: rest) := follows_cons (by decide)
    -- the frame around the parenthesis waits while the inside is read
    obtain ⟨inner, result, read⟩ := ih (frame :: outer) _ stop
    rw [List.cons_append, List.append_assoc, List.singleton_append, readOperand_open, read,
      readOperator_close result]
  | atom _ ih =>
    intro outer complete rest follows
    exact ih outer ⟨complete, none⟩ rest follows
  | @both left right sign first second _ joins _ ihLeft ihRight =>
    intro outer complete rest follows
    have stop : Follows (sign :: (right ++ rest)) := follows_cons (Token.isSimple_of_joins joins)
    rw [List.append_assoc, List.cons_append, ihLeft outer complete _ stop,
      readOperator_and joins, ihRight outer _ rest follows]
    rfl
  | @conjunction tokens clause _ ih =>
    intro outer rest follows
    exact ⟨⟨none, some clause⟩, rfl, ih outer none rest follows⟩
  | @either left right sign first second _ joins _ ihLeft ihRight =>
    intro outer rest follows
    have stop : Follows (sign :: (right ++ rest)) := follows_cons (Token.isSimple_of_joins joins)
    -- what was read before `OR` is complete, and the next alternative begins empty
    obtain ⟨frame, result, read⟩ := ihLeft outer _ stop
    refine ⟨⟨some first, some second⟩, rfl, ?_⟩
    rw [List.append_assoc, List.cons_append, read, readOperator_or joins, Frame.alternative,
      result, ihRight outer (some first) rest follows]

/-- Every derivation of a condition is found by the reader. -/
theorem readOperand_of_parses {tokens : List Token} {clause : Clause}
    (parses : Parses .disjunction tokens clause) : readOperand [] .empty tokens = some clause := by
  obtain ⟨frame, result, read⟩ := readsBack_of_parses parses [] [] (by simp [Follows])
  rw [List.append_nil] at read
  rw [read, readOperator, List.isEmpty_nil, if_pos rfl, result]

/-- Tokens stand for one clause at most. -/
theorem Parses.unique {tokens : List Token} {first second : Clause}
    (left : Parses .disjunction tokens first) (right : Parses .disjunction tokens second) :
    first = second := by
  have read := readOperand_of_parses left
  rw [readOperand_of_parses right] at read
  exact (Option.some.inj read).symm

end RecordFilter.Sql
