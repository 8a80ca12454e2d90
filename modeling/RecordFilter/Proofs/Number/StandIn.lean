import RecordFilter.Proofs.Number.Approximation
import RecordFilter.Proofs.Number.Rounding

/-!
# The number that stands for a double

Beside a decimal a double counts as the decimal that stands for it, `Binary64.standIn?`, and
beside other numbers as what it is, `Binary64.toRat?`.  The first is monotone in the second
(`standIn_mono`) and agrees with it on whole numbers, so a double stays on its side of every
whole number (`le_standIn`, `standIn_le`).
-/

namespace RecordFilter

/-- A number with a sign. -/
def withSign (negative : Bool) (number : ℚ) : ℚ := if negative then -number else number

namespace Decimal

/-- The exact number of a decimal. -/
def toRat (d : Decimal) : ℚ := d.units / 10 ^ d.scale

theorem toRat_mk (negative : Bool) (magnitude scale : Nat)
    (bounded : magnitude < 2 ^ 96 ∧ scale ≤ 28) :
    toRat ⟨negative, magnitude, scale, bounded⟩ =
      withSign negative (amount (magnitude, scale)) := by
  cases negative <;> simp [toRat, units, amount, withSign, neg_div]

end Decimal

namespace Binary64

open Decimal

/-- The number of a double.  The infinities stand for the power of two that follows the
    greatest double. -/
def toRat? (x : Binary64) : Option ℚ := x.position.map fun position : Int => (position : ℚ) / one

/-- The number that stands for a double beside decimals. -/
def standIn? (x : Binary64) : Option ℚ :=
  match ofBinary64? x with
  | some approximation => some approximation.toRat
  | none => x.toRat?

theorem magnitudeOf_eq_div (significand exponent : Nat) :
    magnitudeOf significand (exponent - 1074) = (significand * 2 ^ exponent : Nat) / (one : ℚ) := by
  rw [magnitudeOf_sub, zpow_neg, div_eq_mul_inv, one, Nat.cast_pow]
  rfl

theorem signed_div_one (negative : Bool) (magnitude : Nat) :
    ((signed negative magnitude : Int) : ℚ) / one = withSign negative (magnitude / one) := by
  cases negative with
  | false => exact congrArg (· / (one : ℚ)) (Int.cast_natCast magnitude)
  | true =>
    have negated : ((signed true magnitude : Int) : ℚ) = -magnitude := Int.cast_neg _
    rw [negated, neg_div]
    rfl

/-- A double as sign, significand and exponent: its number and the one that stands for it. -/
structure Parts (x : Binary64) (negative : Bool) (significand exponent : Nat) : Prop where
  normal : Normal significand exponent
  number : x.toRat? = some (withSign negative (magnitudeOf significand (exponent - 1074)))
  standIn : x.standIn? = some (withSign negative (approximation significand (exponent - 1074)))

theorem prepare_lt {significand : Nat} {exponent : Int} (bound : significand < 2 ^ 53)
    (fits : Fits significand exponent) : (prepare significand exponent).1 < 2 ^ 96 := by
  unfold prepare
  split
  · exact fits.resolve_left (by omega)
  · exact trade_mantissa_lt (Nat.lt_trans bound (Nat.pow_lt_pow_right (by decide) (by decide))) _ _

theorem ofBinary64?_finite (negative : Bool) {significand exponent : Nat}
    (canonical : Canonical significand exponent) :
    ofBinary64? (.finite negative significand exponent canonical) =
      if significand = 0 then some Decimal.zero
      else (approximate significand (exponent - 1074)).bind fun written =>
        make? negative written.1 written.2 := rfl

theorem ofBinary64?_of_fits (negative : Bool) {significand exponent : Nat}
    (canonical : Canonical significand exponent) (fits : Fits significand (exponent - 1074)) :
    ∃ d, ofBinary64? (.finite negative significand exponent canonical) = some d ∧
      d.toRat = withSign negative (approximation significand (exponent - 1074)) := by
  rw [ofBinary64?_finite]
  by_cases nothing : significand = 0
  · subst nothing
    refine ⟨Decimal.zero, rfl, ?_⟩
    rw [approximation_zero]
    cases negative <;> simp [withSign, Decimal.toRat, Decimal.zero, units]
  · have short := shorten_le (prepare significand (exponent - 1074))
    have room := prepare_lt canonical.1 fits
    rw [if_neg nothing, approximate_eq, if_pos fits]
    refine ⟨_, dif_pos ⟨Nat.lt_of_le_of_lt short.1 room, short.2⟩, ?_⟩
    exact toRat_mk ..

theorem ofBinary64?_of_not_fits (negative : Bool) {significand exponent : Nat}
    (canonical : Canonical significand exponent) (large : ¬Fits significand (exponent - 1074)) :
    ofBinary64? (.finite negative significand exponent canonical) = none := by
  have some : significand ≠ 0 := by
    rintro rfl
    exact large (.inr (by rw [Nat.zero_mul]; exact Nat.two_pow_pos 96))
  rw [ofBinary64?_finite, if_neg some, approximate_eq, if_neg large]
  rfl

theorem toRat?_of_position {x : Binary64} {negative : Bool} {significand exponent : Nat}
    (placed : x.position = some (signed negative (significand * 2 ^ exponent))) :
    x.toRat? = some (withSign negative (magnitudeOf significand (exponent - 1074))) := by
  rw [toRat?, placed, Option.map_some, signed_div_one, magnitudeOf_eq_div]

theorem position_infinity_parts (negative : Bool) :
    (infinity negative).position = some (signed negative (2 ^ 52 * 2 ^ 2046)) := by
  rw [position_infinity negative (Nat.le_refl _), Nat.min_self, beyond_eq]

/-- Every number among the doubles has its parts. -/
theorem exists_parts {x : Binary64} (number : x ≠ nan) :
    ∃ negative significand exponent, Parts x negative significand exponent := by
  cases x with
  | nan => contradiction
  | infinity negative =>
    have known := toRat?_of_position (position_infinity_parts negative)
    have half : 2 ^ 52 < 2 ^ 53 := Nat.pow_lt_pow_right (by decide) (by decide)
    refine ⟨negative, 2 ^ 52, 2046, ⟨half, .inr (Nat.le_refl _)⟩, known, ?_⟩
    rw [approximation_whole (by decide)]
    exact known
  | finite negative significand exponent canonical =>
    have known := toRat?_of_position (position_finite negative significand exponent canonical)
    refine ⟨negative, significand, exponent, ⟨canonical.1, canonical.2.2⟩, known, ?_⟩
    unfold standIn?
    by_cases fits : Fits significand (exponent - 1074)
    · obtain ⟨d, found, number⟩ := ofBinary64?_of_fits negative canonical fits
      rw [found, ← number]
    · rw [ofBinary64?_of_not_fits negative canonical fits, known,
        approximation_whole (Int.not_le.mp fun fraction => fits (.inl fraction))]

theorem magnitudeOf_nonneg (significand : Nat) (exponent : Int) :
    0 ≤ magnitudeOf significand exponent := by
  unfold magnitudeOf
  positivity

theorem abs_withSign (negative : Bool) {number : ℚ} (nonnegative : 0 ≤ number) :
    |withSign negative number| = number := by
  cases negative <;> simp [withSign, abs_of_nonneg nonnegative]

theorem ne_nan_of_toRat? {x : Binary64} {p : ℚ} (known : x.toRat? = some p) : x ≠ nan := by
  rintro rfl
  cases known

theorem magnitudeOf_le_iff (s s' e e' : Nat) :
    magnitudeOf s (e - 1074) ≤ magnitudeOf s' (e' - 1074) ↔ s * 2 ^ e ≤ s' * 2 ^ e' := by
  rw [magnitudeOf_sub, magnitudeOf_sub, mul_le_mul_iff_left₀ (by positivity), Nat.cast_le]

/-- What stands for doubles is in the order of the doubles. -/
theorem standIn_mono {x y : Binary64} {p q a b : ℚ} (known : x.toRat? = some p)
    (stands : x.standIn? = some a) (known' : y.toRat? = some q) (stands' : y.standIn? = some b)
    (ordered : p ≤ q) : a ≤ b := by
  obtain ⟨negative, s, e, normal, number, standIn⟩ := exists_parts (ne_nan_of_toRat? known)
  obtain ⟨negative', s', e', normal', number', standIn'⟩ := exists_parts (ne_nan_of_toRat? known')
  rw [known, Option.some.injEq] at number
  rw [known', Option.some.injEq] at number'
  rw [stands, Option.some.injEq] at standIn
  rw [stands', Option.some.injEq] at standIn'
  have nonnegative := magnitudeOf_nonneg s (e - 1074)
  have nonnegative' := magnitudeOf_nonneg s' (e' - 1074)
  have standing : 0 ≤ approximation s (e - 1074) := amount_nonneg _
  have standing' : 0 ≤ approximation s' (e' - 1074) := amount_nonneg _
  subst number number' standIn standIn'
  cases negative <;> cases negative' <;>
    simp only [withSign, if_true, if_false, Bool.false_eq_true] at ordered ⊢
  · exact approximation_mono normal normal' ((magnitudeOf_le_iff ..).mp ordered)
  · -- both are zero
    have zero : Normal 0 0 := ⟨Nat.two_pow_pos 53, .inl rfl⟩
    have nothing : magnitudeOf 0 ((0 : Nat) - 1074) = 0 := by simp [magnitudeOf]
    have left := approximation_mono normal zero ((magnitudeOf_le_iff ..).mp (by linarith))
    have right := approximation_mono normal' zero ((magnitudeOf_le_iff ..).mp (by linarith))
    rw [approximation_zero] at left right
    linarith
  · linarith
  · exact neg_le_neg (approximation_mono normal' normal
      ((magnitudeOf_le_iff ..).mp (neg_le_neg_iff.mp ordered)))

/-- A double that is a whole number stands for itself. -/
theorem standIn_whole {x : Binary64} {n : Int} (known : x.toRat? = some (n : ℚ)) :
    x.standIn? = some (n : ℚ) := by
  obtain ⟨negative, s, e, -, number, standIn⟩ := exists_parts (ne_nan_of_toRat? known)
  rw [known, Option.some.injEq] at number
  have whole : magnitudeOf s (e - 1074) = n.natAbs := by
    rw [← abs_withSign negative (magnitudeOf_nonneg s (e - 1074)), ← number, Nat.cast_natAbs,
      Int.cast_abs]
  rw [standIn, approximation_of_magnitudeOf_eq whole, number, whole]

theorem toRat?_ofInt {n : Int} (small : n.natAbs ≤ 2 ^ 53) : (ofInt n).toRat? = some (n : ℚ) := by
  have positive : (one : ℚ) ≠ 0 := Nat.cast_ne_zero.mpr one_pos.ne'
  have ratio : ((n * (one : Int) : Int) : ℚ) / one = n := by
    rw [Int.cast_mul, Int.cast_natCast, mul_div_cancel_right₀ _ positive]
  rw [toRat?, position_ofInt, nearest_small small, Option.map_some, ratio]

theorem whole_or_small {x : Binary64} {p : ℚ} (known : x.toRat? = some p) :
    (∃ n : Int, p = n) ∨ |p| < 2 ^ 53 := by
  obtain ⟨negative, s, e, normal, number, -⟩ := exists_parts (ne_nan_of_toRat? known)
  rw [known, Option.some.injEq] at number
  rw [number, abs_withSign negative (magnitudeOf_nonneg _ _)]
  by_cases whole : 1074 ≤ e
  · refine .inl ⟨signed negative (s * 2 ^ (e - 1074)), ?_⟩
    obtain ⟨power, rfl⟩ : ∃ power, e = 1074 + power := ⟨e - 1074, by omega⟩
    have exponent : ((1074 + power : Nat) : Int) - 1074 = power := by omega
    rw [exponent, Nat.add_sub_cancel_left, magnitudeOf, zpow_natCast]
    cases negative <;> simp [withSign, signed]
  · right
    have below : (2 : ℚ) ^ ((e : Int) - 1074) ≤ 1 := zpow_le_one_of_nonpos₀ (by norm_num) (by omega)
    have small : (s : ℚ) < 2 ^ 53 := by exact_mod_cast normal.1
    calc magnitudeOf s (e - 1074) ≤ s := mul_le_of_le_one_right (Nat.cast_nonneg s) below
      _ < 2 ^ 53 := small

/-- What stands for a double is on the same side of a whole number. -/
theorem le_standIn {x : Binary64} {p a : ℚ} {n : Int} (known : x.toRat? = some p)
    (stands : x.standIn? = some a) (below : (n : ℚ) ≤ p) : (n : ℚ) ≤ a := by
  rcases whole_or_small known with ⟨whole, rfl⟩ | small
  · rw [standIn_whole known, Option.some.injEq] at stands
    rwa [← stands]
  · rw [abs_lt] at small
    have bound : n < 2 ^ 53 := by exact_mod_cast lt_of_le_of_lt below small.2
    have double := toRat?_ofInt (n := max n (-2 ^ 53)) (by omega)
    have least : ((max n (-2 ^ 53) : Int) : ℚ) ≤ p := by
      rw [Int.cast_max]
      refine max_le below ?_
      push_cast
      exact le_of_lt small.1
    calc (n : ℚ) ≤ (max n (-2 ^ 53) : Int) := Int.cast_le.mpr (le_max_left _ _)
      _ ≤ a := standIn_mono double (standIn_whole double) known stands least

theorem standIn_le {x : Binary64} {p a : ℚ} {n : Int} (known : x.toRat? = some p)
    (stands : x.standIn? = some a) (above : p ≤ n) : a ≤ n := by
  rcases whole_or_small known with ⟨whole, rfl⟩ | small
  · rw [standIn_whole known, Option.some.injEq] at stands
    rwa [← stands]
  · rw [abs_lt] at small
    have bound : -2 ^ 53 < n := by exact_mod_cast lt_of_lt_of_le small.1 above
    have double := toRat?_ofInt (n := min n (2 ^ 53)) (by omega)
    have greatest : p ≤ (min n (2 ^ 53) : Int) := by
      rw [Int.cast_min]
      refine le_min above ?_
      push_cast
      exact le_of_lt small.2
    calc a ≤ (min n (2 ^ 53) : Int) :=
          standIn_mono known stands double (standIn_whole double) greatest
      _ ≤ n := Int.cast_le.mpr (min_le_left _ _)

end Binary64

end RecordFilter
