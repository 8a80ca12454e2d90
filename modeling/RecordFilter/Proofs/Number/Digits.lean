import RecordFilter.Proofs.Number.Numeral

/-!
# Reading digits

What the readers of numbers, of dates and of JSON have in common: a run of digits ends where
the next part begins, its value grows with every digit, and zeros in front of it do not count.
-/

namespace RecordFilter

section

variable {α : Type} {p : α → Bool} {items tail : List α}

/-- The items that pass are taken up to the first that does not. -/
theorem takeWhile_append_eq (all : ∀ a ∈ items, p a = true) (stop : ∀ a ∈ tail.head?, p a = false) :
    (items ++ tail).takeWhile p = items := by
  rw [List.takeWhile_append_of_pos all]
  cases tail with
  | nil => exact List.append_nil items
  | cons a rest => rw [List.takeWhile_cons_of_neg (by simp [stop a rfl]), List.append_nil]

theorem dropWhile_append_eq (all : ∀ a ∈ items, p a = true) (stop : ∀ a ∈ tail.head?, p a = false) :
    (items ++ tail).dropWhile p = tail := by
  rw [List.dropWhile_append_of_pos all]
  cases tail with
  | nil => rfl
  | cons a rest => rw [List.dropWhile_cons_of_neg (by simp [stop a rfl])]

end

theorem isDigit_iff {c : Char} : c.isDigit = true ↔ 48 ≤ c.toNat ∧ c.toNat ≤ 57 := by
  simp [Char.isDigit, UInt32.le_iff_toNat_le]

theorem ne_sign_of_isDigit {c : Char} (digit : c.isDigit = true) : c ≠ '-' ∧ c ≠ '+' := by
  refine ⟨?_, ?_⟩ <;> rintro rfl <;> cases digit

theorem IsDigits.exists_cons {digits : List Char} (valid : IsDigits digits) :
    ∃ c rest, digits = c :: rest ∧ c.isDigit = true := by
  obtain ⟨c, rest, rfl⟩ := List.exists_cons_of_ne_nil valid.1
  exact ⟨c, rest, rfl, valid.2 c List.mem_cons_self⟩

/-! ## The value of digits -/

theorem ofDigitChars_zeros_append (n : Nat) (digits : List Char) :
    Nat.ofDigitChars 10 (List.replicate n '0' ++ digits) 0 = Nat.ofDigitChars 10 digits 0 := by
  rw [Nat.ofDigitChars_append, Nat.ofDigitChars_replicate_zero, Nat.mul_zero]

theorem ofDigitChars_append_zeros (digits : List Char) (n : Nat) :
    Nat.ofDigitChars 10 (digits ++ List.replicate n '0') 0 =
      Nat.ofDigitChars 10 digits 0 * 10 ^ n := by
  rw [Nat.ofDigitChars_append, Nat.ofDigitChars_replicate_zero, Nat.mul_comm]

/-- A value grows with every digit. -/
theorem le_ofDigitChars (digits : List Char) (start : Nat) :
    start ≤ Nat.ofDigitChars 10 digits start := by
  rw [Nat.ofDigitChars_eq_ofDigitChars_zero]
  have tenfold : 0 < 10 ^ digits.length := Nat.pow_pos (by decide)
  exact Nat.le_trans (Nat.le_mul_of_pos_left start tenfold) (Nat.le_add_right _ _)

end RecordFilter
