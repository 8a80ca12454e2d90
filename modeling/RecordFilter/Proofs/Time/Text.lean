import RecordFilter.Proofs.Number.Digits
import RecordFilter.Time.DateTime

/-!
# Date-times read back from their text

Each part is written in its full width, so a reader that takes at most that many digits ends
where the part does.  A leap second is written as second 60 and read as such
(`DateTime.ofText?_toText`).
-/

namespace RecordFilter.DateTime

/-! ## Parts -/

theorem isDigits_padded (width n : Nat) : IsDigits (padded '0' width n) :=
  (isDigits_toDigits n).prepend isDigit_of_mem_zeros

theorem ofDigitChars_padded (width n : Nat) : Nat.ofDigitChars 10 (padded '0' width n) 0 = n := by
  rw [padded, ofDigitChars_zeros_append, Nat.ofDigitChars_ten_toDigits]

theorem length_padded {width n : Nat} (fits : n < 10 ^ width) (positive : 0 < width) :
    (padded '0' width n).length = width := by
  have short := (Nat.length_toDigits_le_iff (by decide) positive).mpr fits
  rw [padded, List.length_append, List.length_replicate, Nat.sub_add_cancel short]

theorem isBlank_of_isDigit {c : Char} (digit : c.isDigit = true) : Text.isBlank c = false := by
  rw [isDigit_iff] at digit
  simp only [Text.isBlank, Bool.or_eq_false_iff, Bool.and_eq_false_iff, decide_eq_false_iff_not,
    beq_eq_false_iff_ne]
  omega

theorem skipBlank_eq_self {text : List Char} (shown : ∀ c ∈ text.head?, Text.isBlank c = false) :
    Text.skipBlank text = text := by
  cases text with
  | nil => rfl
  | cons c rest => exact List.dropWhile_cons_of_neg (by simp [shown c rfl])

section

variable {digits : List Char}

/-- A run of digits within the limit is read whole. -/
theorem readNumber?_append {limit : Nat} (valid : IsDigits digits) (short : digits.length ≤ limit)
    (tail : List Char) (stop : ∀ c ∈ tail.head?, c.isDigit = false) :
    readNumber? limit (digits ++ tail) = some (Nat.ofDigitChars 10 digits 0, tail) := by
  have taken : ((digits ++ tail).take limit).takeWhile Char.isDigit = digits := by
    rw [List.take_append, List.take_of_length_le short]
    refine takeWhile_append_eq valid.2 fun c member => stop c ?_
    rw [List.head?_take] at member
    split at member
    · cases member
    · exact member
  unfold readNumber?
  simp only [taken, List.isEmpty_iff, if_neg valid.1, List.drop_left]

theorem skipBlank_digits (valid : IsDigits digits) (tail : List Char) :
    Text.skipBlank (digits ++ tail) = digits ++ tail := by
  obtain ⟨c, rest, rfl, digit⟩ := valid.exists_cons
  refine skipBlank_eq_self ?_
  rintro c ⟨⟩
  exact isBlank_of_isDigit digit

end

/-- A part that is written in its width reads back. -/
theorem readField?_padded {width n : Nat} (fits : n < 10 ^ width) (positive : 0 < width)
    {tail : List Char} (stop : ∀ c ∈ tail.head?, c.isDigit = false) :
    readField? width (padded '0' width n ++ tail) = some (n, tail) := by
  have valid := isDigits_padded width n
  rw [readField?, skipBlank_digits valid,
    readNumber?_append valid (Nat.le_of_eq (length_padded fits positive)) tail stop, ofDigitChars_padded]

theorem readMark?_cons {mark : Char} (shown : Text.isBlank mark = false) (rest : List Char) :
    readMark? mark (mark :: rest) = some rest := by
  have all : Text.skipBlank (mark :: rest) = mark :: rest := by
    refine skipBlank_eq_self ?_
    rintro c ⟨⟩
    exact shown
  rw [readMark?, all]
  exact if_pos rfl

/-- A year reads back, with or without a sign. -/
theorem readYear?_yearText (year : Int) {tail : List Char}
    (stop : ∀ c ∈ tail.head?, c.isDigit = false) :
    readYear? (yearText year ++ tail) = some (year, tail) := by
  unfold yearText
  split
  · rename_i range
    have valid := isDigits_padded 4 year.toNat
    have short : (padded '0' 4 year.toNat).length ≤ 4 :=
      Nat.le_of_eq (length_padded (by omega) (by decide))
    have read := readNumber?_append valid short tail stop
    rw [ofDigitChars_padded] at read
    rw [readYear?, skipBlank_digits valid]
    obtain ⟨c, rest, same, digit⟩ := valid.exists_cons
    obtain ⟨noMinus, noPlus⟩ := ne_sign_of_isDigit digit
    rw [same, List.cons_append] at read ⊢
    simp [noMinus, noPlus, read, Int.toNat_of_nonneg range.1]
  · have valid := isDigits_padded 4 year.natAbs
    have short : (padded '0' 4 year.natAbs).length ≤ (padded '0' 4 year.natAbs ++ tail).length := by
      simp
    have read := readNumber?_append valid short tail stop
    rw [ofDigitChars_padded] at read
    rw [signed, List.cons_append, readYear?]
    by_cases sign : year < 0
    · have value : -(year.natAbs : Int) = year := by omega
      rw [if_pos sign, skipBlank_eq_self (by rintro c ⟨⟩; decide)]
      simp only [read, Option.map_some, value]
    · have value : (year.natAbs : Int) = year := by omega
      rw [if_neg sign, skipBlank_eq_self (by rintro c ⟨⟩; decide)]
      simp only [read, Option.map_some, value]

/-- Digits of a fraction count as nanoseconds by their number. -/
theorem readFraction?_padded {width n : Nat} (fits : n < 10 ^ width) (positive : 0 < width)
    (short : width ≤ 9) :
    readFraction? ('.' :: padded '0' width n) = some (n * 10 ^ (9 - width), []) := by
  have length := length_padded fits positive
  have nine : (padded '0' width n).length ≤ 9 := Nat.le_trans (Nat.le_of_eq length) short
  have read := readNumber?_append (isDigits_padded width n) nine [] (by rintro c ⟨⟩)
  rw [List.append_nil, ofDigitChars_padded] at read
  simp only [readFraction?, read, Option.map_some, List.length_nil, Nat.sub_zero, length,
    List.dropWhile_nil]

theorem readFraction?_fractionText {nanoseconds : Nat} (within : nanoseconds < 1000000000) :
    readFraction? (fractionText nanoseconds) = some (nanoseconds, []) := by
  unfold fractionText
  split
  · rename_i none
    rw [none]
    rfl
  · split
    · rw [readFraction?_padded (by omega) (by decide) (by decide), Option.some.injEq, Prod.mk.injEq]
      exact ⟨by omega, rfl⟩
    · split
      · rw [readFraction?_padded (by omega) (by decide) (by decide), Option.some.injEq,
          Prod.mk.injEq]
        exact ⟨by omega, rfl⟩
      · rw [readFraction?_padded (by omega) (by decide) (by decide), Option.some.injEq,
          Prod.mk.injEq]
        exact ⟨by omega, rfl⟩

theorem head?_fractionText (nanoseconds : Nat) :
    ∀ c ∈ (fractionText nanoseconds).head?, c.isDigit = false := by
  unfold fractionText
  split
  · rintro c ⟨⟩
  · split
    · rintro c ⟨⟩
      decide
    · split <;> rintro c ⟨⟩ <;> decide

theorem make?_parts (d : DateTime) :
    make? d.year d.month d.day d.hour d.minute d.second d.nanosecond = some d :=
  dif_pos d.valid

/-- What is written as second 60 is the leap second of second 59. -/
theorem make?_written (d : DateTime) :
    (if d.writtenSecond = 60 then
      make? d.year d.month d.day d.hour d.minute 59 (1000000000 + d.fraction)
    else make? d.year d.month d.day d.hour d.minute d.writtenSecond d.fraction) = some d := by
  obtain ⟨-, -, -, -, -, range, nanoseconds, leap⟩ := d.valid
  by_cases late : 1000000000 ≤ d.nanosecond
  · have second := leap late
    have written : d.writtenSecond = 60 := by
      unfold writtenSecond
      omega
    have rest : 1000000000 + d.fraction = d.nanosecond := by
      unfold fraction
      omega
    rw [if_pos written, rest, ← second]
    exact make?_parts d
  · have written : d.writtenSecond = d.second := by
      unfold writtenSecond
      omega
    have rest : d.fraction = d.nanosecond := by
      unfold fraction
      omega
    rw [written, rest, if_neg (by omega)]
    exact make?_parts d

theorem daysInMonth_le (year : Int) (month : Nat) : Calendar.daysInMonth year month ≤ 31 := by
  unfold Calendar.daysInMonth
  split
  case h_12 => split <;> decide
  all_goals decide

/-- The text of a date-time reads back as the date-time. -/
theorem ofText?_toText (d : DateTime) : ofText? (d.toText 'T') = some d := by
  obtain ⟨-, ⟨-, months⟩, ⟨-, days⟩, hours, minutes, seconds, nanoseconds, leap⟩ := d.valid
  have month := daysInMonth_le d.year d.month
  have written : d.writtenSecond < 10 ^ 2 := by
    unfold writtenSecond
    omega
  have stop : ∀ {mark : Char} (rest : List Char), mark.isDigit = false →
      ∀ c ∈ (mark :: rest).head?, c.isDigit = false := by
    rintro mark rest other c ⟨⟩
    exact other
  have part : ∀ {n : Nat} {mark : Char} {rest : List Char}, n < 10 ^ 2 → mark.isDigit = false →
      readField? 2 (padded '0' 2 n ++ mark :: rest) = some (n, mark :: rest) :=
    fun fits other => readField?_padded fits (by decide) (stop _ other)
  have fraction : readFraction? (fractionText d.fraction) = some (d.fraction, []) :=
    readFraction?_fractionText (Nat.mod_lt _ (by decide))
  unfold ofText? toText
  simp only [String.toList_ofList, List.append_assoc, List.cons_append, Option.bind_eq_bind]
  rw [readYear?_yearText d.year (stop _ (by decide)), Option.bind_some,
    readMark?_cons (by decide), Option.bind_some, part (by omega) (by decide), Option.bind_some,
    readMark?_cons (by decide), Option.bind_some, part (by omega) (by decide), Option.bind_some,
    readMark?_cons (by decide), Option.bind_some, part (by omega) (by decide), Option.bind_some,
    readMark?_cons (by decide), Option.bind_some, part (by omega) (by decide), Option.bind_some,
    readMark?_cons (by decide), Option.bind_some,
    readField?_padded written (by decide) (head?_fractionText d.fraction), Option.bind_some,
    fraction, Option.bind_some]
  exact make?_written d

end RecordFilter.DateTime
