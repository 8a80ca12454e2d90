import RecordFilter.Proofs.Number.Digits

/-!
# Decimals read back from their text

The text of a decimal has exactly its places, and no digit of it is rounded away, so it reads
back with its magnitude and its scale.  Only the sign of a zero is lost
(`Decimal.ofText?_toText`).
-/

namespace RecordFilter

namespace Decimal

/-- The decimal with its sign, unless it is zero. -/
def withoutZeroSign (d : Decimal) : Decimal :=
  { d with negative := d.negative && d.magnitude != 0 }

theorem withoutZeroSign_eq_self_iff (d : Decimal) :
    d.withoutZeroSign = d ↔ ¬(d.negative = true ∧ d.magnitude = 0) := by
  rcases d with ⟨negative, magnitude, scale, bounded⟩
  simp [withoutZeroSign]

theorem units_withoutZeroSign (d : Decimal) : d.withoutZeroSign.units = d.units := by
  rcases d with ⟨negative, magnitude, scale, bounded⟩
  simp only [withoutZeroSign, units, Bool.and_eq_true, bne_iff_ne]
  by_cases zero : magnitude = 0
  · simp [zero]
  · simp [zero]

/-- Digits in front of the point are read whole while they fit. -/
theorem readDigits_whole {digits : List Char} (all : ∀ c ∈ digits, c.isDigit = true)
    (rest : List Char) (mantissa : Nat) (seen : Bool)
    (fits : Nat.ofDigitChars 10 digits mantissa < 2 ^ 96) :
    readDigits ⟨mantissa, 0, false, seen⟩ (digits ++ rest) =
      readDigits ⟨Nat.ofDigitChars 10 digits mantissa, 0, false, seen || !digits.isEmpty⟩ rest := by
  induction digits generalizing mantissa seen with
  | nil => simp
  | cons c digits ih =>
    rw [Nat.ofDigitChars_cons, Nat.mul_comm 10] at fits
    have small := Nat.lt_of_le_of_lt (le_ofDigitChars digits _) fits
    rw [List.cons_append, readDigits, if_pos (all c List.mem_cons_self)]
    simp only [if_pos small]
    rw [if_neg (by decide)]
    rw [if_neg Bool.false_ne_true, ih (fun d member => all d (List.mem_cons_of_mem c member)) _ _ fits,
      Nat.ofDigitChars_cons, Nat.mul_comm 10]
    simp

/-- Digits behind the point are read while they fit and there is room for their places. -/
theorem readDigits_fraction {digits : List Char} (all : ∀ c ∈ digits, c.isDigit = true)
    (mantissa places : Nat) (fits : Nat.ofDigitChars 10 digits mantissa < 2 ^ 96)
    (room : places + digits.length ≤ maxScale) :
    readDigits ⟨mantissa, places, true, true⟩ digits =
      some (Nat.ofDigitChars 10 digits mantissa, places + digits.length) := by
  induction digits generalizing mantissa places with
  | nil => rfl
  | cons c digits ih =>
    rw [Nat.ofDigitChars_cons, Nat.mul_comm 10] at fits ⊢
    rw [List.length_cons] at room
    have small := Nat.lt_of_le_of_lt (le_ofDigitChars digits _) fits
    rw [readDigits, if_pos (all c List.mem_cons_self)]
    simp only [if_pos small, if_pos]
    split
    · rename_i full
      -- the last place is taken by the last digit
      obtain rfl : digits = [] := List.eq_nil_of_length_eq_zero (by omega)
      rfl
    · rw [ih (fun d member => all d (List.mem_cons_of_mem c member)) _ _ fits (by omega),
        List.length_cons, Nat.add_right_comm, Nat.add_assoc]

/-- Unsigned plain text reads back: digits, with a point in front of the places. -/
theorem ofUnsigned?_digits (negative : Bool) {whole fraction : List Char} (digits : IsDigits whole)
    (more : ∀ c ∈ fraction, c.isDigit = true)
    (fits : Nat.ofDigitChars 10 (whole ++ fraction) 0 < 2 ^ 96)
    (room : fraction.length ≤ maxScale) :
    ofUnsigned? negative (if fraction.length = 0 then whole else whole ++ '.' :: fraction) =
      some ⟨negative && Nat.ofDigitChars 10 (whole ++ fraction) 0 != 0,
        Nat.ofDigitChars 10 (whole ++ fraction) 0, fraction.length, fits, room⟩ := by
  have wholeFits : Nat.ofDigitChars 10 whole 0 < 2 ^ 96 := by
    rw [Nat.ofDigitChars_append] at fits
    exact Nat.lt_of_le_of_lt (le_ofDigitChars fraction _) fits
  have read : readDigits ⟨0, 0, false, false⟩
      (if fraction.length = 0 then whole else whole ++ '.' :: fraction) =
        some (Nat.ofDigitChars 10 (whole ++ fraction) 0, fraction.length) := by
    split
    · rename_i none
      obtain rfl := List.eq_nil_of_length_eq_zero none
      have read := readDigits_whole digits.2 [] 0 false wholeFits
      rw [List.append_nil] at read ⊢
      rw [read]
      simp [readDigits, Progress.finish, digits.1]
    · rw [readDigits_whole digits.2 _ 0 false wholeFits]
      rw [readDigits, if_neg (by decide), if_pos ⟨rfl, rfl⟩]
      have seen : (false || !whole.isEmpty) = true := by simp [digits.1]
      rw [Nat.ofDigitChars_append] at fits ⊢
      rw [seen, readDigits_fraction more _ 0 fits (by omega), Nat.zero_add]
  rw [ofUnsigned?, read]
  exact dif_pos ⟨fits, room⟩

/-- A sign that is there or not is read for the sign of the decimal. -/
theorem ofText?_of_unsigned {negative : Bool} {text : List Char} {d : Decimal}
    (digit : ∀ c ∈ text.head?, c.isDigit = true) (read : ofUnsigned? negative text = some d) :
    ofText? (String.ofList (if negative then '-' :: text else text)) = some d := by
  have plain : ofPlainText? (if negative then '-' :: text else text) = some d := by
    cases negative with
    | true => exact read
    | false =>
      cases text with
      | nil => exact read
      | cons c rest =>
        obtain ⟨noMinus, noPlus⟩ := ne_sign_of_isDigit (digit c rfl)
        simpa [ofPlainText?, noMinus, noPlus] using read
  rw [ofText?, String.toList_ofList, plain]
  rfl

/-- The text of a decimal reads back with the same magnitude and the same scale, and with its
    sign unless it is zero. -/
theorem ofText?_toText (d : Decimal) : ofText? d.toText = some d.withoutZeroSign := by
  rcases d with ⟨negative, magnitude, scale, bounded⟩
  have padded : IsDigits (List.replicate (scale + 1 - (Nat.toDigits 10 magnitude).length) '0' ++
      Nat.toDigits 10 magnitude) := (isDigits_toDigits magnitude).prepend isDigit_of_mem_zeros
  have value := ofDigitChars_zeros_append (scale + 1 - (Nat.toDigits 10 magnitude).length)
    (Nat.toDigits 10 magnitude)
  have long : scale + 1 ≤ (List.replicate (scale + 1 - (Nat.toDigits 10 magnitude).length) '0' ++
      Nat.toDigits 10 magnitude).length := by
    rw [List.length_append, List.length_replicate]
    omega
  rw [Nat.ofDigitChars_ten_toDigits] at value
  rw [toText]
  simp only
  generalize List.replicate (scale + 1 - (Nat.toDigits 10 magnitude).length) '0' ++
    Nat.toDigits 10 magnitude = digits at padded value long ⊢
  have whole : IsDigits (digits.take (digits.length - scale)) := by
    refine ⟨?_, fun c member => padded.2 c (List.mem_of_mem_take member)⟩
    rw [ne_eq, List.take_eq_nil_iff, not_or]
    exact ⟨by omega, padded.1⟩
  have fraction : ∀ c ∈ digits.drop (digits.length - scale), c.isDigit = true :=
    fun c member => padded.2 c (List.mem_of_mem_drop member)
  have places : (digits.drop (digits.length - scale)).length = scale := by
    rw [List.length_drop]
    omega
  have joined := List.take_append_drop (digits.length - scale) digits
  generalize digits.take (digits.length - scale) = front at whole joined ⊢
  generalize digits.drop (digits.length - scale) = back at fraction places joined ⊢
  subst joined
  subst places
  subst value
  refine ofText?_of_unsigned ?_ (ofUnsigned?_digits negative whole fraction bounded.1 bounded.2)
  obtain ⟨c, rest, rfl, digit⟩ := whole.exists_cons
  split
  · rintro c ⟨⟩
    exact digit
  · rintro c ⟨⟩
    exact digit

end Decimal

end RecordFilter
