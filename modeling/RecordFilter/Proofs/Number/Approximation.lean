import Mathlib.Algebra.Order.Field.Power
import Mathlib.Algebra.Order.Field.Rat
import Mathlib.Algebra.Order.Ring.Pow
import Mathlib.Tactic.FieldSimp
import Mathlib.Tactic.Linarith
import Mathlib.Tactic.NormNum
import Mathlib.Tactic.Positivity
import Mathlib.Tactic.Ring
import RecordFilter.Number.Decimal

/-!
# The decimal that stands for a double

A double is first written as a mantissa of 96 bits with decimal places and then shortened
to about fifteen digits.  Both steps keep the order of numbers: the first loses less than
what lies between two doubles (`le_amount_prepare`), the second is a function of the number
alone (`amount_shorten_mono`).  Whole numbers stay as they are.
-/

namespace RecordFilter

namespace Decimal

/-- The number that a mantissa and its places say. -/
def amount (written : Nat × Nat) : ℚ := written.1 / 10 ^ written.2

theorem amount_nonneg (written : Nat × Nat) : 0 ≤ amount written := by
  unfold amount
  positivity

theorem amount_zero_places (mantissa : Nat) : amount (mantissa, 0) = mantissa := by
  simp [amount]

theorem amount_tenfold (mantissa places : Nat) :
    amount (mantissa * 10, places + 1) = amount (mantissa, places) := by
  unfold amount
  rw [pow_succ]
  push_cast
  field_simp

theorem amount_scaled (mantissa places more : Nat) :
    amount (mantissa * 10 ^ more, places + more) = amount (mantissa, places) := by
  induction more with
  | zero => simp
  | succ more ih =>
    rw [Nat.pow_succ, ← Nat.mul_assoc, ← Nat.add_assoc, amount_tenfold, ih]

theorem amount_le_iff (mantissa mantissa' places : Nat) :
    amount (mantissa, places) ≤ amount (mantissa', places) ↔ mantissa ≤ mantissa' := by
  unfold amount
  rw [div_le_div_iff_of_pos_right (by positivity)]
  exact Nat.cast_le

/-! ## Trading powers of two for powers of ten -/

/-- The number that `trade` works on. -/
def worth (mantissa five : Nat) (ten : Int) : ℚ := mantissa * 5 ^ five * 10 ^ ten

theorem worth_nonneg (mantissa five : Nat) (ten : Int) : 0 ≤ worth mantissa five ten := by
  unfold worth
  positivity

theorem worth_fivefold (mantissa five : Nat) (ten : Int) :
    worth (mantissa * 5) five ten = worth mantissa (five + 1) ten := by
  unfold worth
  rw [pow_succ]
  push_cast
  ring

/-- Doubling before a halving makes up for one power of two. -/
theorem worth_double (mantissa five : Nat) (ten : Int) :
    worth mantissa five (ten + 1) = worth (2 * mantissa) (five + 1) ten := by
  unfold worth
  rw [zpow_add_one₀ (by norm_num), pow_succ]
  push_cast
  ring

theorem worth_mono {mantissa mantissa' : Nat} (ordered : mantissa ≤ mantissa') (five : Nat)
    (ten : Int) : worth mantissa five ten ≤ worth mantissa' five ten := by
  have cast : (mantissa : ℚ) ≤ mantissa' := Nat.cast_le.mpr ordered
  unfold worth
  gcongr

theorem trade_le (five mantissa : Nat) (ten : Int) :
    worth (trade five mantissa ten).1 0 (trade five mantissa ten).2 ≤ worth mantissa five ten := by
  fun_induction trade five mantissa ten with
  | case1 mantissa ten => exact le_refl _
  | case2 five mantissa ten even ih =>
    refine le_trans ih ?_
    rw [worth_double]
    exact worth_mono (by omega) _ _
  | case3 five mantissa ten odd room ih =>
    rwa [worth_fivefold] at ih
  | case4 five mantissa ten odd full ih =>
    refine le_trans ih ?_
    rw [worth_double]
    exact worth_mono (by omega) _ _

/-- What is kept, at the least, when a mantissa without room loses its last bit. -/
def kept : ℚ := 1 - 5 / 2 ^ 96

theorem kept_nonneg : 0 ≤ kept := by norm_num [kept]

theorem kept_le_one : kept ≤ 1 := by norm_num [kept]

theorem worth_mul_kept_le {mantissa : Nat} (full : ¬mantissa * 5 < 2 ^ 96) (five : Nat)
    (ten : Int) : worth mantissa five ten * kept ≤ worth (2 * (mantissa / 2)) five ten := by
  have lost : mantissa ≤ 2 * (mantissa / 2) + 1 := by omega
  have lost' : (mantissa : ℚ) ≤ (2 * (mantissa / 2) : Nat) + 1 := by exact_mod_cast lost
  have large : (2 : ℚ) ^ 96 ≤ mantissa * 5 := by exact_mod_cast Nat.le_of_not_lt full
  have whole : (mantissa : ℚ) * kept ≤ (2 * (mantissa / 2) : Nat) := by
    have part : (1 : ℚ) ≤ mantissa * (5 / 2 ^ 96) := by
      rw [← mul_div_assoc, le_div_iff₀ (by positivity)]
      linarith
    unfold kept
    linarith
  calc worth mantissa five ten * kept = mantissa * kept * (5 ^ five * 10 ^ ten) := by
        unfold worth
        ring
    _ ≤ (2 * (mantissa / 2) : Nat) * (5 ^ five * 10 ^ ten) := by gcongr
    _ = worth (2 * (mantissa / 2)) five ten := by
        unfold worth
        ring

theorem worth_mul_kept_pow_le (mantissa five : Nat) (ten : Int) (steps : Nat) :
    worth mantissa five ten * kept ^ (steps + 1) ≤ worth mantissa five ten * kept ^ steps :=
  mul_le_mul_of_nonneg_left (pow_le_pow_of_le_one kept_nonneg kept_le_one (Nat.le_succ _))
    (worth_nonneg _ _ _)

theorem le_trade (five mantissa : Nat) (ten : Int) :
    worth mantissa five ten * kept ^ five ≤
      worth (trade five mantissa ten).1 0 (trade five mantissa ten).2 := by
  fun_induction trade five mantissa ten with
  | case1 mantissa ten => simp
  | case2 five mantissa ten even ih =>
    have halves : 2 * (mantissa / 2) = mantissa := by omega
    rw [worth_double, halves] at ih
    exact le_trans (worth_mul_kept_pow_le _ _ _ _) ih
  | case3 five mantissa ten odd room ih =>
    rw [worth_fivefold] at ih
    exact le_trans (worth_mul_kept_pow_le _ _ _ _) ih
  | case4 five mantissa ten odd full ih =>
    refine le_trans ?_ ih
    rw [worth_double, pow_succ', ← mul_assoc]
    exact mul_le_mul_of_nonneg_right (worth_mul_kept_le full _ _) (pow_nonneg kept_nonneg _)

theorem trade_ten_le (five mantissa : Nat) (ten : Int) :
    (trade five mantissa ten).2 ≤ ten + five := by
  fun_induction trade five mantissa ten with
  | case1 mantissa ten => simp
  | case2 five mantissa ten even ih | case3 five mantissa ten odd room ih
  | case4 five mantissa ten odd full ih => push_cast; omega

theorem trade_mantissa_lt {mantissa : Nat} (fits : mantissa < 2 ^ 96) (five : Nat) (ten : Int) :
    (trade five mantissa ten).1 < 2 ^ 96 := by
  fun_induction trade five mantissa ten with
  | case1 mantissa ten => exact fits
  | case2 five mantissa ten even ih => exact ih (by omega)
  | case3 five mantissa ten odd room ih => exact ih room
  | case4 five mantissa ten odd full ih => exact ih (by omega)

theorem trade_multiple (whole five : Nat) (ten : Int) :
    trade five (whole * 2 ^ five) ten = (whole, ten + five) := by
  induction five generalizing ten with
  | zero => simp [trade]
  | succ five ih =>
    have double : whole * 2 ^ (five + 1) = 2 * (whole * 2 ^ five) := by
      rw [Nat.pow_succ]
      ring
    rw [trade, if_pos (by omega), double, Nat.mul_div_cancel_left _ (by decide), ih]
    congr 1
    push_cast
    ring

/-! ## Shortening -/

theorem dropDigit_tenfold (mantissa : Nat) : dropDigit (mantissa * 10) = mantissa := by
  unfold dropDigit
  rw [if_neg (by omega), Nat.mul_div_cancel _ (by decide)]

theorem dropDigit_mono {mantissa mantissa' : Nat} (ordered : mantissa ≤ mantissa') :
    dropDigit mantissa ≤ dropDigit mantissa' := by
  unfold dropDigit
  split <;> split <;> omega

theorem dropDigit_le (mantissa : Nat) : dropDigit mantissa ≤ mantissa := by
  unfold dropDigit
  split <;> omega

/-- The shortened form before its trailing zeros are dropped. -/
def limit (written : Nat × Nat) : Nat × Nat :=
  let limited := limitPlaces (written.2 - 28) written.1 written.2
  limitDigits limited.1 limited.2

/-- At most 28 places, and digits after the point only within 52 bits. -/
def shorten (written : Nat × Nat) : Nat × Nat :=
  dropZeros (limit written).1 (limit written).2

theorem amount_dropZeros (mantissa places : Nat) :
    amount (dropZeros mantissa places) = amount (mantissa, places) := by
  fun_induction dropZeros mantissa places with
  | case1 mantissa => rfl
  | case2 mantissa places zero ih =>
    rw [ih, ← amount_tenfold]
    congr 2
    omega
  | case3 mantissa places other => rfl

theorem amount_shorten (written : Nat × Nat) : amount (shorten written) = amount (limit written) :=
  amount_dropZeros _ _

theorem limitDigits_small {mantissa : Nat} (small : mantissa < 2 ^ 52) (places : Nat) :
    limitDigits mantissa places = (mantissa, places) := by
  cases places with
  | zero => rfl
  | succ places => rw [limitDigits, if_neg (by omega)]

/-- Dropping digits never leads below the bound that made them drop. -/
theorem le_amount_limitDigits {mantissa : Nat} (large : 2 ^ 52 ≤ 10 * mantissa) (places : Nat) :
    2 ^ 52 ≤ amount (limitDigits mantissa places) * 10 ^ (places + 1) := by
  induction places generalizing mantissa with
  | zero =>
    have cast : (2 ^ 52 : ℚ) ≤ 10 * mantissa := by exact_mod_cast large
    rw [limitDigits, amount_zero_places, Nat.zero_add, pow_one, mul_comm]
    exact cast
  | succ places ih =>
    rw [limitDigits]
    split
    · rename_i dropped
      -- the bound ends in the digit 6, so rounding lifts it
      have still : 2 ^ 52 ≤ 10 * dropDigit mantissa := by
        unfold dropDigit
        split <;> omega
      refine le_trans (ih still) (mul_le_mul_of_nonneg_left ?_ (amount_nonneg _))
      exact pow_le_pow_right₀ (by norm_num) (Nat.le_succ _)
    · have cast : (2 ^ 52 : ℚ) ≤ 10 * mantissa := by exact_mod_cast large
      have whole : amount (mantissa, places + 1) * 10 ^ (places + 1 + 1) = 10 * mantissa := by
        unfold amount
        rw [pow_succ 10 (places + 1)]
        field_simp
      rw [whole]
      exact cast

theorem amount_limitDigits_mono {mantissa mantissa' : Nat} (ordered : mantissa ≤ mantissa')
    (places : Nat) :
    amount (limitDigits mantissa places) ≤ amount (limitDigits mantissa' places) := by
  induction places generalizing mantissa mantissa' with
  | zero => exact (amount_le_iff _ _ _).mpr ordered
  | succ places ih =>
    by_cases large : 2 ^ 52 ≤ mantissa
    · rw [limitDigits, if_pos large, limitDigits, if_pos (by omega)]
      exact ih (dropDigit_mono ordered)
    · rw [limitDigits_small (by omega)]
      by_cases large' : 2 ^ 52 ≤ mantissa'
      · -- only the right side is cut, and it stays above the bound that the left one is below
        have still : 2 ^ 52 ≤ 10 * dropDigit mantissa' := by
          unfold dropDigit
          split <;> omega
        have cast : (mantissa : ℚ) ≤ 2 ^ 52 := by exact_mod_cast Nat.le_of_not_le large
        rw [limitDigits, if_pos large', amount, div_le_iff₀ (by positivity)]
        exact le_trans cast (le_amount_limitDigits still places)
      · rw [limitDigits_small (by omega)]
        exact (amount_le_iff _ _ _).mpr ordered

theorem amount_zero_mantissa (places : Nat) : amount (0, places) = 0 := by
  simp [amount]

theorem amount_limitPlaces_mono {mantissa mantissa' : Nat} (ordered : mantissa ≤ mantissa')
    (excess places : Nat) :
    amount (limitDigits (limitPlaces excess mantissa places).1
        (limitPlaces excess mantissa places).2) ≤
      amount (limitDigits (limitPlaces excess mantissa' places).1
        (limitPlaces excess mantissa' places).2) := by
  induction excess generalizing mantissa mantissa' places with
  | zero => exact amount_limitDigits_mono ordered places
  | succ excess ih =>
    by_cases vanishes : mantissa / 10 = 0
    · rw [limitPlaces, if_pos vanishes, limitDigits, amount_zero_mantissa]
      exact amount_nonneg _
    · have stays : ¬mantissa' / 10 = 0 := by omega
      rw [limitPlaces, if_neg vanishes, limitPlaces, if_neg stays]
      exact ih (dropDigit_mono ordered) (places - 1)

theorem amount_limit_zero (places : Nat) : amount (limit (0, places)) = 0 := by
  have limited : (limitPlaces (places - 28) 0 places).1 = 0 := by
    cases places - 28 with
    | zero => rfl
    | succ excess => rw [limitPlaces, if_pos rfl]
  unfold limit
  simp only [limited]
  rw [limitDigits_small (Nat.two_pow_pos 52), amount_zero_mantissa]

theorem amount_limit_tenfold (mantissa places : Nat) :
    amount (limit (mantissa * 10, places + 1)) = amount (limit (mantissa, places)) := by
  by_cases many : 28 ≤ places
  · have excess : places + 1 - 28 = places - 28 + 1 := by omega
    by_cases nothing : mantissa = 0
    · rw [nothing, Nat.zero_mul, amount_limit_zero, amount_limit_zero]
    · unfold limit
      rw [excess, limitPlaces, if_neg (by omega), dropDigit_tenfold, Nat.add_sub_cancel]
  · have none : places - 28 = 0 ∧ places + 1 - 28 = 0 := by omega
    unfold limit
    rw [none.1, none.2, limitPlaces, limitPlaces]
    by_cases large : 2 ^ 52 ≤ mantissa * 10
    · rw [limitDigits, if_pos large, dropDigit_tenfold]
    · rw [limitDigits_small (by omega), limitDigits_small (by omega), amount_tenfold]

theorem amount_limit_scaled (mantissa places more : Nat) :
    amount (limit (mantissa * 10 ^ more, places + more)) = amount (limit (mantissa, places)) := by
  induction more with
  | zero => simp
  | succ more ih =>
    rw [Nat.pow_succ, ← Nat.mul_assoc, ← Nat.add_assoc, amount_limit_tenfold, ih]

theorem amount_shorten_mono {written written' : Nat × Nat}
    (ordered : amount written ≤ amount written') :
    amount (shorten written) ≤ amount (shorten written') := by
  obtain ⟨mantissa, places⟩ := written
  obtain ⟨mantissa', places'⟩ := written'
  -- both written with the places of both
  rw [← amount_scaled mantissa places places', ← amount_scaled mantissa' places' places,
    Nat.add_comm places', amount_le_iff] at ordered
  rw [amount_shorten, amount_shorten, ← amount_limit_scaled mantissa places places',
    ← amount_limit_scaled mantissa' places' places, Nat.add_comm places']
  exact amount_limitPlaces_mono ordered _ _

theorem shorten_whole (whole : Nat) : shorten (whole, 0) = (whole, 0) := rfl

theorem limitPlaces_le (excess mantissa places : Nat) :
    (limitPlaces excess mantissa places).1 ≤ mantissa ∧
      (limitPlaces excess mantissa places).2 ≤ places - excess := by
  fun_induction limitPlaces excess mantissa places with
  | case1 mantissa places => simp
  | case2 excess mantissa places vanishes => simp
  | case3 excess mantissa places stays ih =>
    have smaller := dropDigit_le mantissa
    omega

theorem limitDigits_le (mantissa places : Nat) :
    (limitDigits mantissa places).1 ≤ mantissa ∧ (limitDigits mantissa places).2 ≤ places := by
  fun_induction limitDigits mantissa places with
  | case1 mantissa => simp
  | case2 mantissa places large ih =>
    have smaller := dropDigit_le mantissa
    omega
  | case3 mantissa places small => simp

theorem dropZeros_le (mantissa places : Nat) :
    (dropZeros mantissa places).1 ≤ mantissa ∧ (dropZeros mantissa places).2 ≤ places := by
  fun_induction dropZeros mantissa places with
  | case1 mantissa => simp
  | case2 mantissa places zero ih => omega
  | case3 mantissa places other => simp

theorem shorten_le (written : Nat × Nat) :
    (shorten written).1 ≤ written.1 ∧ (shorten written).2 ≤ 28 := by
  have placed := limitPlaces_le (written.2 - 28) written.1 written.2
  have limited := limitDigits_le (limitPlaces (written.2 - 28) written.1 written.2).1
    (limitPlaces (written.2 - 28) written.1 written.2).2
  have dropped := dropZeros_le (limit written).1 (limit written).2
  unfold shorten
  unfold limit at dropped ⊢
  simp only at dropped ⊢
  omega

/-! ## The approximation of a magnitude -/

/-- A magnitude with decimal places: a whole number as it is, any other with the places
    its powers of two were traded for. -/
def prepare (significand : Nat) (exponent : Int) : Nat × Nat :=
  if 0 < exponent then (significand * 2 ^ exponent.toNat, 0)
  else
    let traded := trade (-exponent).toNat significand exponent
    (traded.1, (-traded.2).toNat)

/-- Whether a magnitude has a decimal that stands for it. -/
def Fits (significand : Nat) (exponent : Int) : Prop :=
  exponent ≤ 0 ∨ significand * 2 ^ exponent.toNat < 2 ^ 96

instance (significand : Nat) (exponent : Int) : Decidable (Fits significand exponent) :=
  inferInstanceAs (Decidable (_ ∨ _))

theorem approximate_eq (significand : Nat) (exponent : Int) :
    approximate significand exponent =
      if Fits significand exponent then some (shorten (prepare significand exponent))
      else none := by
  unfold approximate prepare
  by_cases whole : 0 < exponent
  · have fits : Fits significand exponent ↔ significand * 2 ^ exponent.toNat < 2 ^ 96 :=
      or_iff_right (by omega)
    rw [if_pos whole, if_pos whole, shorten_whole]
    simp only [fits]
  · have fits : Fits significand exponent := .inl (by omega)
    rw [if_neg whole, if_neg whole, if_pos fits]
    rfl

/-- The number of a significand and an exponent. -/
def magnitudeOf (significand : Nat) (exponent : Int) : ℚ := significand * 2 ^ exponent

theorem amount_prepare_whole {exponent : Int} (whole : 0 < exponent) (significand : Nat) :
    amount (prepare significand exponent) = magnitudeOf significand exponent := by
  obtain ⟨power, rfl⟩ : ∃ power : Nat, exponent = power := ⟨exponent.toNat, by omega⟩
  rw [prepare, if_pos whole, amount_zero_places, magnitudeOf, Int.toNat_natCast, zpow_natCast]
  push_cast
  rfl

theorem worth_eq_magnitudeOf (significand five : Nat) :
    worth significand five (-five) = magnitudeOf significand (-five) := by
  have ten : (10 : ℚ) = 5 * 2 := by norm_num
  rw [worth, magnitudeOf, ten, mul_zpow, zpow_neg, zpow_natCast]
  field_simp

theorem amount_prepare_traded (significand five : Nat) :
    amount (prepare significand (-five)) =
      worth (trade five significand (-five)).1 0 (trade five significand (-five)).2 := by
  have negative := trade_ten_le five significand (-five)
  obtain ⟨places, known⟩ : ∃ places : Nat, (trade five significand (-five)).2 = -places :=
    ⟨(-(trade five significand (-five)).2).toNat, by omega⟩
  rw [prepare, if_neg (by omega)]
  simp only [Int.neg_neg, Int.toNat_natCast, known]
  rw [worth, amount, pow_zero, mul_one, zpow_neg, zpow_natCast, div_eq_mul_inv]

theorem amount_prepare_le (significand : Nat) (exponent : Int) :
    amount (prepare significand exponent) ≤ magnitudeOf significand exponent := by
  by_cases whole : 0 < exponent
  · exact le_of_eq (amount_prepare_whole whole significand)
  · obtain ⟨five, rfl⟩ : ∃ five : Nat, exponent = -five := ⟨(-exponent).toNat, by omega⟩
    rw [amount_prepare_traded, ← worth_eq_magnitudeOf]
    exact trade_le _ _ _

/-- Trading loses less than one part in `2 ^ 53`, whatever the exponent of a double. -/
theorem le_amount_prepare (significand : Nat) {exponent : Int} (least : -1074 ≤ exponent) :
    magnitudeOf significand exponent * (1 - 1 / 2 ^ 53) ≤
      amount (prepare significand exponent) := by
  have nonnegative : 0 ≤ magnitudeOf significand exponent := by
    unfold magnitudeOf
    positivity
  by_cases whole : 0 < exponent
  · rw [amount_prepare_whole whole]
    exact mul_le_of_le_one_right nonnegative (by norm_num)
  · obtain ⟨five, rfl⟩ : ∃ five : Nat, exponent = -five := ⟨(-exponent).toNat, by omega⟩
    have steps : five ≤ 1074 := by omega
    have factor : 1 - 1 / 2 ^ 53 ≤ kept ^ five := by
      calc (1 - 1 / 2 ^ 53 : ℚ) ≤ 1 + (1074 : Nat) * (kept - 1) := by norm_num [kept]
        _ ≤ kept ^ 1074 := one_add_mul_sub_le_pow (by norm_num [kept]) 1074
        _ ≤ kept ^ five := pow_le_pow_of_le_one kept_nonneg kept_le_one steps
    rw [amount_prepare_traded]
    refine le_trans (mul_le_mul_of_nonneg_left factor nonnegative) ?_
    rw [← worth_eq_magnitudeOf]
    exact le_trade _ _ _

/-- The number that stands for a magnitude. -/
def approximation (significand : Nat) (exponent : Int) : ℚ :=
  amount (shorten (prepare significand exponent))

theorem approximation_whole {exponent : Int} (whole : 0 < exponent) (significand : Nat) :
    approximation significand exponent = magnitudeOf significand exponent := by
  rw [approximation, ← amount_prepare_whole whole, prepare, if_pos whole, shorten_whole]

theorem approximation_multiple (whole five : Nat) :
    approximation (whole * 2 ^ five) (-five) = whole := by
  rw [approximation, prepare, if_neg (by omega)]
  simp only [Int.neg_neg, Int.toNat_natCast, trade_multiple, Int.add_left_neg, Int.neg_zero,
    Int.toNat_zero]
  rw [shorten_whole, amount_zero_places]

theorem approximation_zero (exponent : Int) : approximation 0 exponent = 0 := by
  refine le_antisymm ?_ (amount_nonneg _)
  have small : amount (prepare 0 exponent) ≤ amount (0, 0) := by
    refine le_trans (amount_prepare_le 0 exponent) ?_
    simp [magnitudeOf, amount]
  calc approximation 0 exponent ≤ amount (shorten (0, 0)) := amount_shorten_mono small
    _ = 0 := by rw [shorten_whole, amount_zero_mantissa]

theorem approximation_of_magnitudeOf_eq {significand whole : Nat} {exponent : Int}
    (known : magnitudeOf significand exponent = whole) :
    approximation significand exponent = whole := by
  by_cases positive : 0 < exponent
  · rw [approximation_whole positive, known]
  · obtain ⟨five, rfl⟩ : ∃ five : Nat, exponent = -five := ⟨(-exponent).toNat, by omega⟩
    have multiple : significand = whole * 2 ^ five := by
      rw [magnitudeOf, zpow_neg, zpow_natCast, ← div_eq_mul_inv,
        div_eq_iff (by positivity)] at known
      exact_mod_cast known
    rw [multiple, approximation_multiple]

/-- Significand and exponent of a double or of an infinity. -/
def Normal (significand exponent : Nat) : Prop :=
  significand < 2 ^ 53 ∧ (exponent = 0 ∨ 2 ^ 52 ≤ significand)

theorem apart_of_exponent_lt {s s' e e' : Nat} (normal : Normal s e) (normal' : Normal s' e')
    (less : e < e') : 2 ^ 53 * (s * 2 ^ e) + s' * 2 ^ e' ≤ 2 ^ 53 * (s' * 2 ^ e') := by
  have full : 2 ^ 52 ≤ s' := normal'.2.resolve_left (by omega)
  obtain ⟨more, rfl⟩ : ∃ more, e' = e + 1 + more := ⟨e' - (e + 1), by omega⟩
  have large : 2 ^ 53 * 2 ^ e ≤ s' * 2 ^ (e + 1 + more) := by
    calc 2 ^ 53 * 2 ^ e = 2 ^ 52 * (2 ^ (e + 1) * 1) := by
          rw [Nat.pow_succ 2 e, Nat.pow_succ 2 52]
          ring
      _ ≤ s' * (2 ^ (e + 1) * 2 ^ more) :=
        Nat.mul_le_mul full (Nat.mul_le_mul_left _ (Nat.two_pow_pos _))
      _ = s' * 2 ^ (e + 1 + more) := by rw [Nat.pow_add 2 (e + 1) more]
  calc 2 ^ 53 * (s * 2 ^ e) + s' * 2 ^ (e + 1 + more)
      = s * (2 ^ 53 * 2 ^ e) + s' * 2 ^ (e + 1 + more) := by ring
    _ ≤ s * (s' * 2 ^ (e + 1 + more)) + s' * 2 ^ (e + 1 + more) :=
      Nat.add_le_add_right (Nat.mul_le_mul_left s large) _
    _ = (s + 1) * (s' * 2 ^ (e + 1 + more)) := by ring
    _ ≤ 2 ^ 53 * (s' * 2 ^ (e + 1 + more)) := Nat.mul_le_mul_right _ normal.1

/-- Two different doubles differ by at least one part in `2 ^ 53`. -/
theorem apart {s s' e e' : Nat} (normal : Normal s e) (normal' : Normal s' e')
    (less : s * 2 ^ e < s' * 2 ^ e') :
    2 ^ 53 * (s * 2 ^ e) + s' * 2 ^ e' ≤ 2 ^ 53 * (s' * 2 ^ e') := by
  rcases Nat.lt_trichotomy e e' with below | rfl | above
  · exact apart_of_exponent_lt normal normal' below
  · have next : s < s' := Nat.lt_of_mul_lt_mul_right less
    have scaled : 2 ^ 53 * s + s' ≤ 2 ^ 53 * s' := by
      have bound := normal'.1
      omega
    calc 2 ^ 53 * (s * 2 ^ e) + s' * 2 ^ e = (2 ^ 53 * s + s') * 2 ^ e := by ring
      _ ≤ 2 ^ 53 * s' * 2 ^ e := Nat.mul_le_mul_right _ scaled
      _ = 2 ^ 53 * (s' * 2 ^ e) := by ring
  · have reversed := apart_of_exponent_lt normal' normal above
    omega

theorem eq_of_normal {s s' e e' : Nat} (normal : Normal s e) (normal' : Normal s' e')
    (same : s * 2 ^ e = s' * 2 ^ e') : s = s' ∧ e = e' := by
  rcases Nat.eq_zero_or_pos (s * 2 ^ e) with nothing | positive
  · have zero : s = 0 ∧ s' = 0 := by
      rw [nothing] at same
      simpa [(Nat.two_pow_pos _).ne'] using And.intro nothing same.symm
    have least := normal.2
    have least' := normal'.2
    rw [zero.1] at least ⊢
    rw [zero.2] at least' ⊢
    omega
  · rcases Nat.lt_trichotomy e e' with below | rfl | above
    · have := apart_of_exponent_lt normal normal' below
      omega
    · exact ⟨Nat.eq_of_mul_eq_mul_right (Nat.two_pow_pos _) same, rfl⟩
    · have := apart_of_exponent_lt normal' normal above
      omega

theorem magnitudeOf_sub (significand exponent : Nat) :
    magnitudeOf significand (exponent - 1074) =
      (significand * 2 ^ exponent : Nat) * 2 ^ (-1074 : Int) := by
  rw [magnitudeOf, sub_eq_add_neg, zpow_add₀ (by norm_num), zpow_natCast]
  push_cast
  ring

/-- The approximations of doubles are in the order of the doubles. -/
theorem approximation_mono {s s' e e' : Nat} (normal : Normal s e) (normal' : Normal s' e')
    (ordered : s * 2 ^ e ≤ s' * 2 ^ e') :
    approximation s (e - 1074) ≤ approximation s' (e' - 1074) := by
  rcases Nat.lt_or_eq_of_le ordered with less | same
  · have gap : (2 ^ 53 : ℚ) * (s * 2 ^ e : Nat) + (s' * 2 ^ e' : Nat) ≤
        2 ^ 53 * (s' * 2 ^ e' : Nat) := by exact_mod_cast apart normal normal' less
    refine amount_shorten_mono ?_
    -- trading loses less than the gap between the two
    calc amount (prepare s (e - 1074)) ≤ magnitudeOf s (e - 1074) := amount_prepare_le _ _
      _ = (s * 2 ^ e : Nat) * 2 ^ (-1074 : Int) := magnitudeOf_sub s e
      _ ≤ (s' * 2 ^ e' : Nat) * (1 - 1 / 2 ^ 53) * 2 ^ (-1074 : Int) := by
        refine mul_le_mul_of_nonneg_right ?_ (by positivity)
        linarith
      _ = magnitudeOf s' (e' - 1074) * (1 - 1 / 2 ^ 53) := by
        rw [magnitudeOf_sub]
        ring
      _ ≤ amount (prepare s' (e' - 1074)) := le_amount_prepare s' (by omega)
  · obtain ⟨rfl, rfl⟩ := eq_of_normal normal normal' same
    exact le_refl _

end Decimal

end RecordFilter
