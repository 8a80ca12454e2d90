import RecordFilter.Proofs.Number.Digits
import RecordFilter.Proofs.Number.Shortest

/-!
# Doubles read back from their text

Every layout of a number is digits, an optional fraction and an optional exponent, and reading
them comes to the number's shortest digits with some zeros moved from the exponent to the
mantissa (`reads_magnitude`).  Such a decimal lies in the rounding interval of the number, so
the text of a double, in whatever layout, reads back as the double (`Binary64.ofText?_toText`).
-/

namespace RecordFilter

namespace Binary64

open Shortest

/-! ## Decimals in the rounding interval -/

section

variable {mantissa significand binary : Nat} {exponent : Int}

/-- The greatest double has at most 400 digits before the point. -/
theorem two_pow_mul_le {binary : Nat} (range : binary ≤ 2045) :
    2 ^ 53 * 2 ^ binary ≤ 10 ^ scale * one := by
  have split : ∀ bits, 2 ^ (bits + 1074) = 2 ^ bits * one := fun bits => by rw [Nat.pow_add, one]
  have places : scale = 400 := rfl
  rw [← Nat.pow_add]
  refine (Nat.pow_le_pow_right (by decide) (by omega : 53 + binary ≤ 3 * scale + 1074)).trans ?_
  rw [split]
  exact Nat.mul_le_mul_right one (two_pow_le scale)

/-- A decimal in the rounding interval has a digit and at most 400 before the point. -/
theorem Denotes.size_le (denotes : Denotes mantissa exponent significand binary)
    (canonical : Canonical significand binary) (nonzero : 0 < significand) :
    mantissa ≠ 0 ∧ ((Nat.toDigits 10 mantissa).length : Int) + exponent ≤ scale := by
  obtain ⟨places, count, lower, upper, -⟩ := denotes
  have halfPositive : 0 < 2 ^ binary * 10 ^ scale :=
    Nat.mul_pos (Nat.two_pow_pos binary) (Nat.pow_pos (by decide))
  have reach := Nat.mul_le_mul_right (2 ^ binary * 10 ^ scale)
    (lowerReach_le significand binary).2
  have least := Nat.mul_le_mul_right (2 ^ binary * 10 ^ scale) nonzero
  have most := Nat.mul_le_mul_right (2 ^ binary * 10 ^ scale) canonical.1
  rw [Nat.succ_mul] at least most
  have positive : 0 < mantissa := by
    refine Nat.pos_of_ne_zero ?_
    rintro rfl
    omega
  have greatest : 2 ^ 53 * (2 ^ binary * 10 ^ scale) ≤ 10 ^ scale * one * 10 ^ scale := by
    rw [← Nat.mul_assoc]
    exact Nat.mul_le_mul_right _ (two_pow_mul_le canonical.2.1)
  have bound : mantissa * 10 ^ places < 10 ^ (scale + scale) := by
    refine Nat.lt_of_mul_lt_mul_right (a := one) ?_
    rw [Nat.pow_add, Nat.mul_right_comm (10 ^ scale)]
    omega
  have few : places < scale + scale :=
    (Nat.pow_lt_pow_iff_right (by decide)).mp
      ((Nat.le_mul_of_pos_left _ positive).trans_lt bound)
  have digits : (Nat.toDigits 10 mantissa).length ≤ scale + scale - places := by
    refine (Nat.length_toDigits_le_iff (by decide) (by omega)).mpr ?_
    refine Nat.lt_of_mul_lt_mul_right (a := 10 ^ places) ?_
    rwa [← Nat.pow_add, Nat.sub_add_cancel few.le]
  exact ⟨positive.ne', by omega⟩

/-- Reading a decimal in the rounding interval gives the double. -/
theorem ofScientific_of_denotes (denotes : Denotes mantissa exponent significand binary)
    (canonical : Canonical significand binary) (nonzero : 0 < significand) (negative : Bool) :
    ofScientific negative mantissa exponent = .finite negative significand binary canonical := by
  obtain ⟨positive, size⟩ := denotes.size_le canonical nonzero
  obtain ⟨places, count, within⟩ := denotes
  have limit : scale = 400 := rfl
  have scalePositive : 0 < 10 ^ scale := Nat.pow_pos (by decide)
  unfold ofScientific
  simp only
  rw [if_neg (by omega), if_neg (by omega)]
  split
  · rename_i whole
    refine roundRatio_of_within negative canonical nonzero Nat.one_pos
      (within.of_ratio scalePositive Nat.one_pos ?_)
    obtain rfl : places = exponent.toNat + scale := by omega
    rw [Nat.pow_add]
    ring
  · rename_i fraction
    refine roundRatio_of_within negative canonical nonzero (Nat.pow_pos (by decide))
      (within.of_ratio scalePositive (Nat.pow_pos (by decide)) ?_)
    have split : scale = places + (-exponent).toNat := by omega
    rw [split, Nat.pow_add]
    ring

end

/-! ## Reading the parts of a number -/

/-- A text is read as the double next to a decimal, whatever sign stands in front of it. -/
structure Reads (text : List Char) (mantissa : Nat) (exponent : Int) : Prop where
  /-- No sign is taken for the first digit. -/
  first : ∃ c rest, text = c :: rest ∧ c.isDigit = true
  value : ∀ negative, readUnsigned negative text = some (ofScientific negative mantissa exponent)

/-- What follows the digits of a number is nothing or an exponent. -/
theorem of_readExponent {tail : List Char} {exponent : Int}
    (read : readExponent tail = some exponent) :
    tail = [] ∨ ∃ mark rest, tail = mark :: rest ∧ mark.isDigit = false ∧ mark ≠ '.' := by
  cases tail with
  | nil => exact .inl rfl
  | cons mark rest =>
    unfold readExponent at read
    dsimp only at read
    by_cases letter : mark = 'e' ∨ mark = 'E'
    · refine .inr ⟨mark, rest, rfl, ?_⟩
      rcases letter with rfl | rfl <;> decide
    · rw [if_neg letter] at read
      cases read

theorem toLower_of_isDigit {c : Char} (digit : c.isDigit = true) : c.toLower = c := by
  have noCapital : ¬(c.val ≥ 'A'.val ∧ c.val ≤ 'Z'.val) := by
    rintro ⟨least, -⟩
    rw [ge_iff_le, UInt32.le_iff_toNat_le] at least
    exact absurd (Nat.le_trans least (isDigit_iff.mp digit).2) (by decide)
  exact dif_neg noCapital

/-- A text with a digit in front is no word. -/
theorem map_toLower_ne {c letter : Char} {rest word : List Char} (digit : c.isDigit = true)
    (other : letter.isDigit = false) : (c :: rest).map Char.toLower ≠ letter :: word := by
  intro same
  have first : c.toLower = letter := (List.cons.inj same).1
  rw [toLower_of_isDigit digit] at first
  rw [← first, digit] at other
  cases other

/-- A text with a digit in front is read by its parts. -/
theorem readUnsigned_of_digit (negative : Bool) {text : List Char} {c : Char} {rest : List Char}
    (first : text = c :: rest) (digit : c.isDigit = true) :
    readUnsigned negative text =
      let whole := text.takeWhile Char.isDigit
      let (fraction, rest) := match text.dropWhile Char.isDigit with
        | '.' :: rest => (rest.takeWhile Char.isDigit, rest.dropWhile Char.isDigit)
        | rest => ([], rest)
      (readExponent rest).map fun exponent =>
        ofScientific negative (Nat.ofDigitChars 10 (whole ++ fraction) 0)
          (exponent - fraction.length) := by
  have nan : "nan".toList = ['n', 'a', 'n'] := rfl
  have inf : "inf".toList = ['i', 'n', 'f'] := rfl
  have infinity : "infinity".toList = 'i' :: "nfinity".toList := rfl
  unfold readUnsigned
  subst first
  simp only
  rw [nan, inf, infinity, if_neg (map_toLower_ne digit (by decide)),
    if_neg (not_or.mpr ⟨map_toLower_ne digit (by decide), map_toLower_ne digit (by decide)⟩)]
  rw [List.takeWhile_cons_of_pos digit]
  rfl

section

variable {whole : List Char} {exponent : Int}

theorem head?_isDigit_of_readExponent {tail : List Char} (read : readExponent tail = some exponent) :
    ∀ c ∈ tail.head?, c.isDigit = false := by
  rcases of_readExponent read with rfl | ⟨mark, rest, rfl, other, -⟩
  · rintro c ⟨⟩
  · rintro c ⟨⟩
    exact other

/-- Digits without a fraction are the mantissa. -/
theorem reads_whole (digits : IsDigits whole) (tail : List Char)
    (read : readExponent tail = some exponent) :
    Reads (whole ++ tail) (Nat.ofDigitChars 10 whole 0) exponent := by
  have all := digits.2
  obtain ⟨c, more, rfl, digit⟩ := digits.exists_cons
  have first : c :: more ++ tail = c :: (more ++ tail) := rfl
  have stop := head?_isDigit_of_readExponent read
  refine ⟨⟨c, _, first, digit⟩, fun negative => ?_⟩
  rw [readUnsigned_of_digit negative first digit, takeWhile_append_eq all stop,
    dropWhile_append_eq all stop]
  rcases of_readExponent read with rfl | ⟨mark, rest, rfl, -, noPoint⟩
  · simp [read]
  · simp [noPoint, read]

/-- The digits on both sides of a point are the mantissa, and those behind it count as
    places. -/
theorem reads_fraction (digits : IsDigits whole) (fraction : List Char)
    (more : ∀ c ∈ fraction, c.isDigit = true) (tail : List Char)
    (read : readExponent tail = some exponent) :
    Reads (whole ++ '.' :: (fraction ++ tail)) (Nat.ofDigitChars 10 (whole ++ fraction) 0)
      (exponent - fraction.length) := by
  have all := digits.2
  obtain ⟨c, others, rfl, digit⟩ := digits.exists_cons
  have first : c :: others ++ '.' :: (fraction ++ tail) =
      c :: (others ++ '.' :: (fraction ++ tail)) := rfl
  have point : ∀ first ∈ ('.' :: (fraction ++ tail)).head?, first.isDigit = false := by
    rintro first ⟨⟩
    decide
  have stop := head?_isDigit_of_readExponent read
  refine ⟨⟨c, _, first, digit⟩, fun negative => ?_⟩
  rw [readUnsigned_of_digit negative first digit, takeWhile_append_eq all point,
    dropWhile_append_eq all point]
  simp only [takeWhile_append_eq more stop, dropWhile_append_eq more stop, read, Option.map_some]

end

/-- The digits of an exponent stand behind a sign or behind none. -/
theorem readExponent_digits {digits : List Char} (valid : IsDigits digits) :
    readExponent ('e' :: '-' :: digits) = some (-(Nat.ofDigitChars 10 digits 0 : Int)) ∧
      readExponent ('e' :: '+' :: digits) = some (Nat.ofDigitChars 10 digits 0 : Int) ∧
      readExponent ('e' :: digits) = some (Nat.ofDigitChars 10 digits 0 : Int) := by
  have all := List.all_eq_true.mpr valid.2
  refine ⟨?_, ?_, ?_⟩
  · simp [readExponent, valid.1, all]
  · simp [readExponent, valid.1, all]
  · obtain ⟨c, rest, rfl, digit⟩ := valid.exists_cons
    obtain ⟨noMinus, noPlus⟩ := ne_sign_of_isDigit digit
    simp [readExponent, noMinus, noPlus, all]

/-- An exponent reads back, whatever its sign. -/
theorem readExponent_scientific (plusSign : Bool) (leading : Int) :
    readExponent ('e' :: ((if leading < 0 then ['-'] else if plusSign then ['+'] else []) ++
      Nat.toDigits 10 leading.natAbs)) = some leading := by
  have value : Nat.ofDigitChars 10 (Nat.toDigits 10 leading.natAbs) 0 = leading.natAbs :=
    Nat.ofDigitChars_ten_toDigits
  obtain ⟨minus, plus, bare⟩ := readExponent_digits (isDigits_toDigits leading.natAbs)
  rw [value] at minus plus bare
  by_cases below : leading < 0
  · rw [if_pos below, List.singleton_append, minus, Option.some.injEq]
    omega
  · have same : (leading.natAbs : Int) = leading := by omega
    rw [same] at plus bare
    rw [if_neg below]
    cases plusSign with
    | true => exact plus
    | false => exact bare

/-! ## Reading what a layout writes -/

/-- A text is read as digits whose exponent has some zeros moved to the mantissa. -/
def ReadsWithZeros (text : List Char) (mantissa : Nat) (exponent : Int) : Prop :=
  ∃ zeros : Nat, (zeros = 0 ∨ zeros ≤ exponent + 1) ∧
    Reads text (mantissa * 10 ^ zeros) (exponent - zeros)

theorem Reads.withZeros {text : List Char} {mantissa : Nat} {exponent : Int}
    (reads : Reads text mantissa exponent) : ReadsWithZeros text mantissa exponent :=
  ⟨0, .inl rfl, by simpa using reads⟩

/-- A whole number has the zeros of its exponent, and one more behind its point. -/
theorem readsWithZeros_whole (layout : NumberLayout) {digits : List Char} (valid : IsDigits digits)
    (n : Nat) :
    ReadsWithZeros (digits ++ List.replicate n '0' ++ (if layout.wholeMark then ['.', '0'] else []))
      (Nat.ofDigitChars 10 digits 0) n := by
  have whole : IsDigits (digits ++ List.replicate n '0') := valid.append isDigit_of_mem_zeros
  split
  · refine ⟨n + 1, .inr (by omega), ?_⟩
    have reads := reads_fraction whole ['0'] (by simp) [] rfl
    rw [List.append_assoc digits _ ['0'], ← List.replicate_succ', ofDigitChars_append_zeros] at reads
    simpa using reads
  · refine ⟨n, .inr (by omega), ?_⟩
    have reads := reads_whole whole [] rfl
    rw [ofDigitChars_append_zeros] at reads
    simpa using reads

theorem readsWithZeros_positional (layout : NumberLayout) {digits : List Char}
    (valid : IsDigits digits) (exponent : Int) :
    ReadsWithZeros (layout.positional digits exponent) (Nat.ofDigitChars 10 digits 0) exponent := by
  unfold NumberLayout.positional
  split
  · rename_i whole
    obtain ⟨n, rfl⟩ := Int.eq_ofNat_of_zero_le whole
    exact readsWithZeros_whole layout valid n
  · rename_i below
    refine Reads.withZeros ?_
    obtain ⟨places, rfl⟩ : ∃ places : Nat, exponent = -places := ⟨(-exponent).toNat, by omega⟩
    simp only [Int.neg_neg, Int.toNat_natCast]
    split
    · rename_i many
      have whole : IsDigits (digits.take (digits.length - places)) := by
        refine ⟨?_, fun c member => valid.2 c (List.mem_of_mem_take member)⟩
        rw [ne_eq, List.take_eq_nil_iff, not_or]
        exact ⟨by omega, valid.1⟩
      have reads := reads_fraction whole (digits.drop (digits.length - places))
        (fun c member => valid.2 c (List.mem_of_mem_drop member)) [] rfl
      rw [List.take_append_drop, List.append_nil, List.length_drop,
        Nat.sub_sub_self many.le, Int.zero_sub] at reads
      exact reads
    · rename_i few
      have whole : IsDigits ['0'] := isDigits_toDigits 0
      have reads := reads_fraction whole _
        (valid.prepend (isDigit_of_mem_zeros (n := places - digits.length))).2 [] rfl
      rw [← List.replicate_one, ← List.append_assoc, List.replicate_append_replicate,
        ofDigitChars_zeros_append, List.append_nil, List.length_append, List.length_replicate,
        Nat.sub_add_cancel (Nat.le_of_not_lt few), Int.zero_sub] at reads
      exact reads

theorem reads_scientific (layout : NumberLayout) {digits : List Char} (valid : IsDigits digits)
    (exponent : Int) :
    Reads (layout.scientific digits (exponent + digits.length - 1)) (Nat.ofDigitChars 10 digits 0)
      exponent := by
  have tail := readExponent_scientific layout.plusSign (exponent + digits.length - 1)
  unfold NumberLayout.scientific
  match digits, valid with
  | [], valid => exact absurd rfl valid.1
  | [first], valid =>
    have reads := reads_whole valid _ tail
    simpa using reads
  | first :: second :: rest, valid =>
    have whole : IsDigits [first] := ⟨by simp, by simpa using valid.2 first List.mem_cons_self⟩
    have reads := reads_fraction whole _ (fun c member => valid.2 c (List.mem_cons_of_mem _ member))
      _ tail
    have place : exponent + ((first :: second :: rest).length : Int) - 1 -
        ((second :: rest).length : Int) = exponent := by
      simp only [List.length_cons]
      omega
    rw [place] at reads
    exact reads

/-- Reading the text of a magnitude gives its digits with some zeros behind them. -/
theorem readsWithZeros_magnitude (layout : NumberLayout) (shortest : Shortest) :
    ReadsWithZeros (layout.magnitude shortest) shortest.digits
      (if shortest.digits = 0 then 0 else shortest.exponent) := by
  have value : Nat.ofDigitChars 10 (Nat.toDigits 10 shortest.digits) 0 = shortest.digits :=
    Nat.ofDigitChars_ten_toDigits
  have valid := isDigits_toDigits shortest.digits
  unfold NumberLayout.magnitude
  by_cases zero : shortest.digits = 0
  · rw [if_pos zero, if_pos zero, zero]
    exact readsWithZeros_positional layout (isDigits_toDigits 0) 0
  · simp only [if_neg zero]
    split
    · have reads := readsWithZeros_positional layout valid shortest.exponent
      rwa [value] at reads
    · have reads := reads_scientific layout valid shortest.exponent
      rw [value] at reads
      exact reads.withZeros

/-- A sign that is there or not is read for the sign of the number. -/
theorem ofText?_of_reads {text : List Char} {mantissa : Nat} {exponent : Int}
    (reads : Reads text mantissa exponent) (negative : Bool) :
    ofText? (String.ofList (if negative then '-' :: text else text)) =
      some (ofScientific negative mantissa exponent) := by
  obtain ⟨⟨c, rest, rfl, digit⟩, value⟩ := reads
  obtain ⟨noMinus, noPlus⟩ := ne_sign_of_isDigit digit
  rw [ofText?, String.toList_ofList, ← value negative]
  cases negative with
  | true => rfl
  | false => simp [noMinus, noPlus]

/-- The text of a double reads back as the double, in every layout. -/
theorem ofText?_toText (layout : NumberLayout) (x : Binary64) :
    ofText? (x.toText layout) = some x := by
  cases x with
  | nan => exact (by decide : ofText? "NaN" = some nan)
  | infinity negative =>
    cases negative with
    | false => exact (by decide : ofText? "inf" = some (infinity false))
    | true => exact (by decide : ofText? "-inf" = some (infinity true))
  | finite negative significand exponent canonical =>
    rw [toText]
    obtain ⟨zeros, few, reads⟩ := readsWithZeros_magnitude layout
      (if significand = 0 then ⟨0, 0⟩ else shortest layout.tie significand exponent)
    refine (ofText?_of_reads reads negative).trans (congrArg some ?_)
    rcases Nat.eq_zero_or_pos significand with rfl | nonzero
    · obtain rfl : exponent = 0 := canonical.2.2.resolve_right (by decide)
      simp only [if_pos, Nat.zero_mul, ofScientific, true_or]
      rfl
    · have denotes := denotes_shortest layout.tie canonical nonzero
      have digits := (denotes.size_le canonical nonzero).1
      have limit : scale = 400 := rfl
      rw [if_neg nonzero.ne'] at few ⊢
      rw [if_neg digits] at few ⊢
      obtain ⟨places, count, -⟩ := id denotes
      exact ofScientific_of_denotes (denotes.shift (by omega)) canonical nonzero negative

end Binary64

end RecordFilter
