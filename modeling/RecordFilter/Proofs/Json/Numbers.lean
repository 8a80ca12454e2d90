import RecordFilter.Proofs.Json.Rendering

/-!
# Whole numbers in JSON

The text of an integer has no zero in front of other digits, so it is a literal that is read
whole (`isLiteral_toString`), and one that fits 64 bits is read for the integer
(`JsonNumber.ofLiteral?_toString`).
-/

namespace RecordFilter

/-- The text of an integer is its digits, behind a minus sign for a negative one. -/
theorem toList_toString (n : Int) : (toString n).toList =
    if n < 0 then '-' :: Nat.toDigits 10 n.natAbs else Nat.toDigits 10 n.natAbs := by
  rw [Int.toString_eq_repr, Int.repr_eq_if]
  by_cases below : n < 0
  · have magnitude : (-n).toNat = n.natAbs := by omega
    rw [if_neg (by omega), if_pos below, magnitude]
    simp
  · have magnitude : n.toNat = n.natAbs := by omega
    rw [if_pos (by omega), if_neg below, magnitude]
    simp

/-- No zero stands in front of other digits. -/
theorem head?_toDigits_ne_zero {n : Nat} (positive : 0 < n) : (Nat.toDigits 10 n).head? ≠ some '0' := by
  induction n using Nat.strongRecOn with
  | ind n ih =>
    rw [Nat.toDigits_eq_if (by decide)]
    split
    · rename_i small
      have each : ∀ n < 10, 0 < n → [Nat.digitChar n].head? ≠ some '0' := by decide
      exact each n small positive
    · have front := ih (n / 10) (by omega) (by omega)
      obtain ⟨c, rest, same, -⟩ := (isDigits_toDigits (n / 10)).exists_cons
      rw [same] at front ⊢
      exact front

namespace Json.Reader

/-- What follows a number goes on with neither digits nor a fraction nor an exponent. -/
theorem cases_of_follows {tail : List Char} (follows : Follows tail) :
    tail = [] ∨ ∃ c rest, tail = c :: rest ∧ c.isDigit = false ∧ c ≠ '.' ∧ ¬(c = 'e' ∨ c = 'E') := by
  cases tail with
  | nil => exact .inl rfl
  | cons c rest =>
    refine .inr ⟨c, rest, rfl, ?_⟩
    rcases follows c rfl with rfl | rfl | rfl <;> decide

theorem digits?_append {digits tail : List Char} (valid : IsDigits digits)
    (stop : ∀ c ∈ tail.head?, c.isDigit = false) : digits? (digits ++ tail) = some (digits, tail) := by
  rw [digits?, takeWhile_append_eq valid.2 stop]
  simp [valid.1]

/-- The digits of a natural number are read whole. -/
theorem unsigned?_toDigits (n : Nat) {tail : List Char} (follows : Follows tail) :
    unsigned? (Nat.toDigits 10 n ++ tail) = some (Nat.toDigits 10 n, tail) := by
  have short : ¬((Nat.toDigits 10 n).head? = some '0' ∧ 1 < (Nat.toDigits 10 n).length) := by
    rintro ⟨zero, long⟩
    rcases Nat.eq_zero_or_pos n with rfl | positive
    · exact absurd long (by decide)
    · exact head?_toDigits_ne_zero positive zero
  have stop : ∀ c ∈ tail.head?, c.isDigit = false := by
    rcases cases_of_follows follows with rfl | ⟨c, rest, rfl, other, -⟩
    · rintro c ⟨⟩
    · rintro c ⟨⟩
      exact other
  rw [unsigned?, digits?_append (isDigits_toDigits n) stop]
  simp only [Option.bind_eq_bind, Option.bind_some, if_neg short]
  rcases cases_of_follows follows with rfl | ⟨c, rest, rfl, -, noPoint, noMark⟩
  · simp [exponent?]
  · simp [exponent?, noPoint, noMark]

end Json.Reader

/-- The text of an integer is read whole. -/
theorem Json.isLiteral_toString (n : Int) : Json.IsLiteral (toString n).toList := by
  intro tail follows
  have digits := isDigits_toDigits n.natAbs
  have read := Reader.unsigned?_toDigits n.natAbs follows
  rw [toList_toString]
  split
  · rw [List.cons_append, Reader.number?, read]
    rfl
  · obtain ⟨c, rest, same, digit⟩ := digits.exists_cons
    obtain ⟨noMinus, -⟩ := ne_sign_of_isDigit digit
    rw [same, List.cons_append] at read ⊢
    simp [Reader.number?, noMinus, read]

/-- The text of an integer of 64 bits is read for the integer. -/
theorem JsonNumber.ofLiteral?_toString {n : Int} (low : -2 ^ 63 ≤ n) (high : n < 2 ^ 63) :
    ofLiteral? (toString n).toList = some (.whole n) := by
  have digits := isDigits_toDigits n.natAbs
  have all : (Nat.toDigits 10 n.natAbs).all Char.isDigit = true := List.all_eq_true.mpr digits.2
  have value : Nat.ofDigitChars 10 (Nat.toDigits 10 n.natAbs) 0 = n.natAbs :=
    Nat.ofDigitChars_ten_toDigits
  rw [toList_toString]
  split
  · have same : -(n.natAbs : Int) = n := by omega
    have range : 0 < n.natAbs ∧ n.natAbs ≤ 2 ^ 63 := by omega
    simp only [ofLiteral?, all, value, range, and_self, if_true, same]
  · have same : (n.natAbs : Int) = n := by omega
    have range : n.natAbs < 2 ^ 64 := by omega
    obtain ⟨c, rest, split, digit⟩ := digits.exists_cons
    obtain ⟨noMinus, -⟩ := ne_sign_of_isDigit digit
    rw [split] at all value ⊢
    unfold ofLiteral?
    split
    · rename_i minus
      exact absurd (List.cons.inj minus).1 noMinus
    · simp only [all, value, range, and_self, if_true, same]

end RecordFilter
