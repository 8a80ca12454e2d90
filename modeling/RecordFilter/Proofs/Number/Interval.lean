import RecordFilter.Proofs.Number.Approximation
import RecordFilter.Proofs.Number.Rounding

/-!
# The interval that is rounded to a double

The ratios that are rounded to a double lie between the middles of the gaps on its two
sides, and the middles are rounded to it when its significand is even.  The gap below a power
of two is half as wide as the one above (`roundRatio_of_within`).
-/

namespace RecordFilter

namespace Binary64

/-- Half the gap below a double, in quarters of the gap above. -/
def lowerReach (significand exponent : Nat) : Nat :=
  if significand = 2 ^ 52 ∧ exponent ≠ 0 then 1 else 2

theorem lowerReach_le (significand exponent : Nat) :
    1 ≤ lowerReach significand exponent ∧ lowerReach significand exponent ≤ 2 := by
  unfold lowerReach
  split <;> decide

/-- A ratio lies in the rounding interval of `significand · 2 ^ exponent`. -/
structure Within (significand exponent numerator denominator : Nat) : Prop where
  lower : 4 * (significand * (2 ^ exponent * denominator)) ≤
    4 * numerator + lowerReach significand exponent * (2 ^ exponent * denominator)
  upper : 4 * numerator ≤
    4 * (significand * (2 ^ exponent * denominator)) + 2 * (2 ^ exponent * denominator)
  /-- The ends belong to numbers with an even significand. -/
  inside : significand % 2 = 1 →
    4 * (significand * (2 ^ exponent * denominator)) <
      4 * numerator + lowerReach significand exponent * (2 ^ exponent * denominator) ∧
    4 * numerator <
      4 * (significand * (2 ^ exponent * denominator)) + 2 * (2 ^ exponent * denominator)

variable {significand exponent numerator denominator : Nat}

/-- An equal ratio lies in the same intervals. -/
theorem Within.of_ratio (within : Within significand exponent numerator denominator)
    {numerator' denominator' : Nat} (positive : 0 < denominator) (positive' : 0 < denominator')
    (same : numerator' * denominator = numerator * denominator') :
    Within significand exponent numerator' denominator' := by
  have whole : 4 * (significand * (2 ^ exponent * denominator')) * denominator =
      4 * (significand * (2 ^ exponent * denominator)) * denominator' := by ring
  have part : ∀ reach : Nat, reach * (2 ^ exponent * denominator') * denominator =
      reach * (2 ^ exponent * denominator) * denominator' := fun reach => by ring
  have ratio : 4 * numerator' * denominator = 4 * numerator * denominator' := by
    rw [Nat.mul_assoc, same, Nat.mul_assoc]
  refine ⟨Nat.le_of_mul_le_mul_right ?_ positive, Nat.le_of_mul_le_mul_right ?_ positive,
    fun odd => ⟨Nat.lt_of_mul_lt_mul_right (a := denominator) ?_,
      Nat.lt_of_mul_lt_mul_right (a := denominator) ?_⟩⟩
  · rw [Nat.add_mul, whole, part, ratio, ← Nat.add_mul]
    exact Nat.mul_le_mul_right _ within.lower
  · rw [Nat.add_mul, whole, part, ratio, ← Nat.add_mul]
    exact Nat.mul_le_mul_right _ within.upper
  · rw [Nat.add_mul, whole, part, ratio, ← Nat.add_mul]
    exact Nat.mul_lt_mul_of_pos_right (within.inside odd).1 positive'
  · rw [Nat.add_mul, whole, part, ratio, ← Nat.add_mul]
    exact Nat.mul_lt_mul_of_pos_right (within.inside odd).2 positive'

/-! ## Rounding within the interval -/

/-- A ratio that is at most one half away from an even number, or closer to an odd one, is
    rounded to it. -/
theorem roundHalfEven_eq {k n d : Nat} (positive : 0 < d) (lower : 2 * (k * d) ≤ 2 * n + d)
    (upper : 2 * n ≤ 2 * (k * d) + d)
    (inside : k % 2 = 1 → 2 * (k * d) < 2 * n + d ∧ 2 * n < 2 * (k * d) + d) :
    roundHalfEven n d = k := by
  have parts := Nat.div_add_mod n d
  rcases Nat.lt_or_ge n (k * d) with below | above
  · -- the quotient is the number before
    obtain ⟨j, rfl⟩ : ∃ j, k = j + 1 := Nat.exists_eq_succ_of_ne_zero (by rintro rfl; omega)
    have step : (j + 1) * d = j * d + d := Nat.succ_mul j d
    have quotient : n / d = j := Nat.div_eq_of_lt_le (by omega) (by omega)
    rw [quotient, Nat.mul_comm d j] at parts
    unfold roundHalfEven
    simp only [quotient]
    rw [if_pos (by omega)]
  · have step : (k + 1) * d = k * d + d := Nat.succ_mul k d
    have quotient : n / d = k := Nat.div_eq_of_lt_le above (by omega)
    rw [quotient, Nat.mul_comm d k] at parts
    unfold roundHalfEven
    simp only [quotient]
    rw [if_neg (by omega)]

theorem gridExponent_le {whole : Nat} (bound : whole < 2 ^ (exponent + 53)) :
    gridExponent whole ≤ exponent := by
  unfold gridExponent
  by_cases zero : whole = 0
  · simp [zero]
  · have log := (Nat.log2_lt zero).mpr bound
    omega

theorem le_gridExponent {whole : Nat} (bound : 2 ^ (exponent + 52) ≤ whole) :
    exponent ≤ gridExponent whole := by
  have positive := Nat.two_pow_pos (exponent + 52)
  have log := (Nat.le_log2 (by omega)).mpr bound
  unfold gridExponent
  omega

/-- Where ratios are rounded to the grid of the number, the number is the nearest. -/
theorem onGrid_of_same_grid (within : Within significand exponent numerator denominator)
    (positive : 0 < denominator) (same : gridExponent (numerator / denominator) = exponent) :
    onGrid numerator denominator = significand * 2 ^ exponent := by
  obtain ⟨lower, upper, inside⟩ := within
  have reach := (lowerReach_le significand exponent).2
  have gapPositive := Nat.mul_pos (Nat.two_pow_pos exponent) positive
  unfold onGrid
  simp only [same]
  congr 1
  rw [Nat.mul_comm denominator]
  generalize 2 ^ exponent * denominator = gap at lower upper inside gapPositive ⊢
  have half := Nat.mul_le_mul_right gap reach
  exact roundHalfEven_eq gapPositive (by omega) (by omega) fun odd => by
    have := inside odd
    omega

/-- Below a power of two ratios are rounded to a finer grid, which has the power of two
    too. -/
theorem onGrid_below_power (within : Within (2 ^ 52) (exponent + 1) numerator denominator)
    (positive : 0 < denominator) (below : numerator < 2 ^ 52 * (2 ^ (exponent + 1) * denominator)) :
    onGrid numerator denominator = 2 ^ 52 * 2 ^ (exponent + 1) := by
  have lower := within.lower
  rw [lowerReach, if_pos ⟨rfl, Nat.succ_ne_zero exponent⟩] at lower
  have finer : 2 ^ (exponent + 1) * denominator = 2 * (denominator * 2 ^ exponent) := by
    rw [Nat.pow_succ]
    ring
  have gapPositive := Nat.mul_pos positive (Nat.two_pow_pos exponent)
  rw [finer] at lower below
  have least : 2 ^ (exponent + 52) * denominator ≤ numerator := by
    have power : 2 ^ (exponent + 52) * denominator = 2 ^ 52 * (denominator * 2 ^ exponent) := by
      rw [Nat.pow_add]
      ring
    rw [power]
    omega
  have most : numerator < 2 ^ (exponent + 53) * denominator := by
    have power : 2 ^ (exponent + 53) * denominator = 2 ^ 53 * (denominator * 2 ^ exponent) := by
      rw [Nat.pow_add]
      ring
    rw [power]
    omega
  have grid : gridExponent (numerator / denominator) = exponent :=
    Nat.le_antisymm (gridExponent_le ((Nat.div_lt_iff_lt_mul positive).mpr most))
      (le_gridExponent ((Nat.le_div_iff_mul_le positive).mpr least))
  unfold onGrid
  simp only [grid]
  generalize denominator * 2 ^ exponent = gap at lower below gapPositive ⊢
  have rounded : roundHalfEven numerator gap = 2 ^ 53 :=
    roundHalfEven_eq gapPositive (by omega) (by omega) fun odd => by omega
  rw [rounded, Nat.pow_succ 2 exponent, Nat.pow_succ 2 52]
  ring

/-- What lies in the interval is rounded to the number. -/
theorem onGrid_of_within (canonical : Canonical significand exponent)
    (positive : 0 < denominator) (within : Within significand exponent numerator denominator) :
    onGrid numerator denominator = significand * 2 ^ exponent := by
  have lower := within.lower
  have upper := within.upper
  have reach := (lowerReach_le significand exponent).2
  have gapPositive := Nat.mul_pos (Nat.two_pow_pos exponent) positive
  have half := Nat.mul_le_mul_right (2 ^ exponent * denominator) reach
  have size := Nat.mul_le_mul_right (2 ^ exponent * denominator) (Nat.le_of_lt_succ canonical.1)
  have powers : ∀ bits, 2 ^ (exponent + bits) * denominator =
      2 ^ bits * (2 ^ exponent * denominator) := fun bits => by
    rw [Nat.pow_add]
    ring
  have most : numerator < 2 ^ (exponent + 53) * denominator := by
    rw [powers]
    omega
  have atMost := gridExponent_le ((Nat.div_lt_iff_lt_mul positive).mpr most)
  by_cases least : 2 ^ (exponent + 52) * denominator ≤ numerator
  · exact onGrid_of_same_grid within positive (Nat.le_antisymm atMost
      (le_gridExponent ((Nat.le_div_iff_mul_le positive).mpr least)))
  · rw [powers, Nat.not_le] at least
    rcases Nat.eq_zero_or_pos exponent with zero | some
    · exact onGrid_of_same_grid within positive (by omega)
    · -- only a power of two has ratios on a finer grid in its interval
      have full := canonical.2.2.resolve_left some.ne'
      have power : significand = 2 ^ 52 := by
        refine Nat.le_antisymm ?_ full
        by_contra more
        have next := Nat.mul_le_mul_right (2 ^ exponent * denominator)
          (Nat.lt_of_not_le more)
        rw [Nat.succ_mul] at next
        omega
      obtain ⟨before, rfl⟩ : ∃ before, exponent = before + 1 := ⟨exponent - 1, by omega⟩
      subst power
      exact onGrid_below_power within positive least

theorem eq_of_signed_eq {negative negative' : Bool} {magnitude : Nat} (nonzero : 0 < magnitude)
    (same : signed negative magnitude = signed negative' magnitude) : negative = negative' := by
  unfold signed at same
  cases negative <;> cases negative' <;> simp at same ⊢ <;> omega

/-- A number other than zero is known from its position. -/
theorem eq_finite_of_position {x : Binary64} {negative : Bool}
    (canonical : Canonical significand exponent) (nonzero : 0 < significand)
    (placed : x.position = some (signed negative (significand * 2 ^ exponent))) :
    x = .finite negative significand exponent canonical := by
  have half : 2 ^ 52 < 2 ^ 53 := Nat.pow_lt_pow_right (by decide) (by decide)
  have magnitude : 0 < significand * 2 ^ exponent := Nat.mul_pos nonzero (Nat.two_pow_pos _)
  have known : ∀ {negative' : Bool} {significand' exponent' : Nat},
      significand' < 2 ^ 53 → (exponent' = 0 ∨ 2 ^ 52 ≤ significand') →
      signed negative' (significand' * 2 ^ exponent') =
        signed negative (significand * 2 ^ exponent) →
      negative' = negative ∧ significand' = significand ∧ exponent' = exponent := by
    intro negative' significand' exponent' bound full same
    have magnitudes := congrArg Int.natAbs same
    rw [natAbs_signed, natAbs_signed] at magnitudes
    refine ⟨?_, Decimal.eq_of_normal ⟨bound, full⟩ ⟨canonical.1, canonical.2.2⟩ magnitudes⟩
    rw [magnitudes] at same
    exact eq_of_signed_eq magnitude same
  cases x with
  | nan => cases placed
  | infinity negative' =>
    rw [position_infinity negative' (Nat.le_refl beyond), Nat.min_self, Option.some.injEq,
      beyond_eq] at placed
    obtain ⟨-, -, same⟩ := known half (.inr (Nat.le_refl _)) placed
    have range := canonical.2.1
    omega
  | finite negative' significand' exponent' canonical' =>
    rw [position_finite, Option.some.injEq] at placed
    obtain ⟨rfl, rfl, rfl⟩ := known canonical'.1 canonical'.2.2 placed
    rfl

/-- A ratio in the rounding interval of a double is rounded to it. -/
theorem roundRatio_of_within (negative : Bool) (canonical : Canonical significand exponent)
    (nonzero : 0 < significand) (positive : 0 < denominator)
    (within : Within significand exponent (numerator * one) denominator) :
    roundRatio double negative numerator denominator =
      .finite negative significand exponent canonical := by
  refine eq_finite_of_position canonical nonzero ?_
  rw [position_roundRatio negative numerator positive, onGrid_of_within canonical positive within,
    min_beyond (Nat.le_of_lt canonical.1) canonical.2.1]

end Binary64

end RecordFilter
