import RecordFilter.Number.Decimal

/-!
# Plain numbers are numerals

The plain text of an integer, of a finite double and of a decimal is digits with an
optional fraction, and a minus sign in front of it for a negative one.
-/

namespace RecordFilter

/-- One digit or more. -/
def IsDigits (text : List Char) : Prop := text ≠ [] ∧ ∀ c ∈ text, c.isDigit = true

/-- Digits with an optional fraction. -/
def IsNumeral (text : List Char) : Prop :=
  IsDigits text ∨ ∃ whole fraction, IsDigits whole ∧ IsDigits fraction ∧
    text = whole ++ '.' :: fraction

/-- A numeral, or a minus sign in front of one. -/
def IsSigned (text : List Char) : Prop :=
  IsNumeral text ∨ ∃ magnitude, IsNumeral magnitude ∧ text = '-' :: magnitude

theorem isDigits_toDigits (n : Nat) : IsDigits (Nat.toDigits 10 n) :=
  ⟨Nat.toDigits_ne_nil, fun _ member => Nat.isDigit_of_mem_toDigits (by decide) (by decide) member⟩

theorem IsDigits.append {left right : List Char} (digits : IsDigits left)
    (more : ∀ c ∈ right, c.isDigit = true) : IsDigits (left ++ right) := by
  refine ⟨by simp [digits.1], ?_⟩
  intro c member
  rcases List.mem_append.mp member with first | second
  · exact digits.2 c first
  · exact more c second

theorem IsDigits.prepend {left right : List Char} (more : ∀ c ∈ left, c.isDigit = true)
    (digits : IsDigits right) : IsDigits (left ++ right) := by
  refine ⟨by simp [digits.1], ?_⟩
  intro c member
  rcases List.mem_append.mp member with first | second
  · exact more c first
  · exact digits.2 c second

theorem isDigit_of_mem_zeros {n : Nat} : ∀ c ∈ List.replicate n '0', c.isDigit = true := by
  intro c member
  rw [List.eq_of_mem_replicate member]
  decide

/-- Digits with a point in the middle. -/
theorem isNumeral_split {digits : List Char} (allDigits : ∀ c ∈ digits, c.isDigit = true)
    {position : Nat} (after : 0 < position) (before : position < digits.length) :
    IsNumeral (digits.take position ++ '.' :: digits.drop position) := by
  refine .inr ⟨_, _, ⟨?_, ?_⟩, ⟨?_, ?_⟩, rfl⟩
  · intro none
    have length := congrArg List.length none
    simp only [List.length_take, List.length_nil] at length
    omega
  · exact fun c member => allDigits c (List.mem_of_mem_take member)
  · intro none
    have length := congrArg List.length none
    simp only [List.length_drop, List.length_nil] at length
    omega
  · exact fun c member => allDigits c (List.mem_of_mem_drop member)

theorem isSigned_toString (n : Int) : IsSigned (toString n).toList := by
  rw [Int.toString_eq_repr, Int.repr_eq_if]
  split
  · exact .inl (.inl (by simpa using isDigits_toDigits _))
  · exact .inr ⟨Nat.toDigits 10 (-n).toNat, .inl (isDigits_toDigits _), by simp⟩

/-- A sign that is there or not leaves a numeral signed. -/
theorem isSigned_ite {magnitude : List Char} (numeral : IsNumeral magnitude) (negative : Bool) :
    IsSigned (if negative then '-' :: magnitude else magnitude) := by
  cases negative with
  | true => exact .inr ⟨magnitude, numeral, rfl⟩
  | false => exact .inl numeral

theorem isNumeral_plain (shortest : Shortest) :
    IsNumeral (NumberLayout.plain.magnitude shortest) := by
  have digits := isDigits_toDigits shortest.digits
  have positional : ∀ {text : List Char} (exponent : Int), IsDigits text →
      IsNumeral (NumberLayout.plain.positional text exponent) := by
    intro text exponent digits
    unfold NumberLayout.positional
    split
    · exact .inl (by simpa [NumberLayout.plain] using digits.append isDigit_of_mem_zeros)
    · simp only
      split
      · exact isNumeral_split digits.2 (by omega) (by omega)
      · exact .inr ⟨['0'], _, ⟨by simp, by simp⟩, digits.prepend isDigit_of_mem_zeros, rfl⟩
  unfold NumberLayout.magnitude
  simp only
  split
  · exact positional 0 ⟨by simp, by simp⟩
  · rw [if_pos (by rfl)]
    exact positional _ digits

theorem isSigned_float {x : Binary64} (finite : x.isFinite = true) :
    IsSigned (x.toText .plain).toList := by
  cases x with
  | nan | infinity => cases finite
  | finite negative significand exponent valid =>
    rw [Binary64.toText, String.toList_ofList]
    exact isSigned_ite (isNumeral_plain _) negative

theorem isSigned_decimal (d : Decimal) : IsSigned d.toText.toList := by
  have digits : IsDigits (List.replicate (d.scale + 1 - (Nat.toDigits 10 d.magnitude).length) '0' ++
      Nat.toDigits 10 d.magnitude) :=
    (isDigits_toDigits _).prepend isDigit_of_mem_zeros
  rw [Decimal.toText, String.toList_ofList]
  refine isSigned_ite ?_ d.negative
  split
  · rename_i scale
    rw [scale, Nat.sub_zero, List.take_length]
    rw [scale] at digits
    exact .inl digits
  · refine isNumeral_split digits.2 ?_ ?_
    · simp only [List.length_append, List.length_replicate]
      omega
    · simp only [List.length_append, List.length_replicate]
      omega

end RecordFilter
