import Mathlib.Tactic.Linarith
import Mathlib.Tactic.Ring
import RecordFilter.Number.Decimal

/-!
# Rounding to the nearest double

`Binary64.nearest` is the position of the double that a ratio of integers is rounded to.
Rounding keeps the order of ratios (`nearest_mono`) and leaves doubles where they are
(`nearest_self`), hence no double lies between a ratio and its rounding (`nearest_le`,
`le_nearest`) and integers of 53 bits are not rounded (`nearest_small`).
-/

namespace RecordFilter

namespace Binary64

/-! ## Rounding to a whole number -/

theorem le_roundHalfEven {k numerator denominator : Nat} (positive : 0 < denominator)
    (below : k * denominator ≤ numerator) : k ≤ roundHalfEven numerator denominator := by
  have quotient : k ≤ numerator / denominator := (Nat.le_div_iff_mul_le positive).mpr below
  unfold roundHalfEven
  simp only
  split
  · exact Nat.le_succ_of_le quotient
  · exact quotient

/-- The greater ratio has the greater quotient. -/
theorem quotient_mono {n d n' d' : Nat} (positive : 0 < d) (positive' : 0 < d')
    (ordered : n * d' ≤ n' * d) : n / d ≤ n' / d' := by
  rw [Nat.le_div_iff_mul_le positive']
  refine Nat.le_of_mul_le_mul_right ?_ positive
  calc n / d * d' * d = n / d * d * d' := by ring
    _ ≤ n * d' := Nat.mul_le_mul_right _ (Nat.div_mul_le_self n d)
    _ ≤ n' * d := ordered

/-- Of two ratios with one quotient the greater has the greater remainder. -/
theorem remainder_mono {n d n' d' : Nat} (same : n / d = n' / d') (ordered : n * d' ≤ n' * d) :
    n % d * d' ≤ n' % d' * d := by
  have left : n * d' = n / d * (d * d') + n % d * d' := by
    conv => lhs; rw [← Nat.div_add_mod n d]
    ring
  have right : n' * d = n / d * (d * d') + n' % d' * d := by
    conv => lhs; rw [← Nat.div_add_mod n' d', ← same]
    ring
  omega

theorem roundHalfEven_mono {n d n' d' : Nat} (positive : 0 < d) (positive' : 0 < d')
    (ordered : n * d' ≤ n' * d) : roundHalfEven n d ≤ roundHalfEven n' d' := by
  rcases Nat.lt_or_eq_of_le (quotient_mono positive positive' ordered) with less | same
  · have above : n' / d' ≤ roundHalfEven n' d' :=
      le_roundHalfEven positive' (Nat.div_mul_le_self n' d')
    have below : roundHalfEven n d ≤ n / d + 1 := by
      unfold roundHalfEven
      simp only
      split <;> omega
    omega
  · have remainders := remainder_mono same ordered
    have up : d < 2 * (n % d) → d' < 2 * (n' % d') := by
      intro more
      refine Nat.lt_of_mul_lt_mul_left (a := d) ?_
      calc d * d' < 2 * (n % d) * d' := Nat.mul_lt_mul_of_pos_right more positive'
        _ = 2 * (n % d * d') := by ring
        _ ≤ 2 * (n' % d' * d) := Nat.mul_le_mul_left 2 remainders
        _ = d * (2 * (n' % d')) := by ring
    have half : 2 * (n % d) = d → d' ≤ 2 * (n' % d') := by
      intro exactly
      refine Nat.le_of_mul_le_mul_left ?_ positive
      calc d * d' = 2 * (n % d * d') := by rw [← Nat.mul_assoc, exactly]
        _ ≤ 2 * (n' % d' * d) := Nat.mul_le_mul_left 2 remainders
        _ = d * (2 * (n' % d')) := by ring
    unfold roundHalfEven
    simp only [← same]
    by_cases more : d < 2 * (n % d)
    · have more' := up more
      simp [more, more']
    · by_cases exactly : 2 * (n % d) = d
      · have half' := half exactly
        split
        · rw [if_pos (by omega)]
        · split <;> omega
      · rw [if_neg (by omega)]
        split <;> omega

theorem roundHalfEven_mul (k : Nat) {d : Nat} (positive : 0 < d) : roundHalfEven (k * d) d = k := by
  unfold roundHalfEven
  simp only [Nat.mul_mod_left, Nat.mul_div_cancel _ positive]
  rw [if_neg (by omega)]

theorem roundHalfEven_le {k n d : Nat} (positive : 0 < d) (above : n ≤ k * d) :
    roundHalfEven n d ≤ k := by
  rw [← roundHalfEven_mul k positive]
  exact roundHalfEven_mono positive positive (Nat.mul_le_mul_right d above)

/-! ## Rounding to 53 bits -/

/-- The exponent that leaves a whole number 53 bits. -/
def gridExponent (whole : Nat) : Nat := Nat.log2 whole + 1 - 53

/-- A ratio rounded to 53 bits, or to a whole number if it has fewer. -/
def onGrid (numerator denominator : Nat) : Nat :=
  let exponent := gridExponent (numerator / denominator)
  roundHalfEven numerator (denominator * 2 ^ exponent) * 2 ^ exponent

theorem log2_mono {m n : Nat} (ordered : m ≤ n) : Nat.log2 m ≤ Nat.log2 n := by
  by_cases zero : m = 0
  · simp [zero]
  · have positive : n ≠ 0 := by omega
    rw [Nat.le_log2 positive]
    exact Nat.le_trans (Nat.log2_self_le zero) ordered

theorem lt_two_pow_gridExponent (whole : Nat) : whole < 2 ^ (gridExponent whole + 53) := by
  refine Nat.lt_of_lt_of_le Nat.lt_log2_self (Nat.pow_le_pow_right (by decide) ?_)
  unfold gridExponent
  omega

theorem two_pow_gridExponent_le {whole : Nat} (positive : 0 < gridExponent whole) :
    2 ^ (gridExponent whole + 52) ≤ whole := by
  unfold gridExponent at positive ⊢
  have nonzero : whole ≠ 0 := by
    rintro rfl
    simp at positive
  have exponent : Nat.log2 whole + 1 - 53 + 52 = Nat.log2 whole := by omega
  rw [exponent]
  exact Nat.log2_self_le nonzero

theorem rounded_le {n d : Nat} (positive : 0 < d) :
    roundHalfEven n (d * 2 ^ gridExponent (n / d)) ≤ 2 ^ 53 := by
  refine roundHalfEven_le (Nat.mul_pos positive (Nat.two_pow_pos _)) ?_
  have bound := (Nat.div_lt_iff_lt_mul positive).mp (lt_two_pow_gridExponent (n / d))
  calc n ≤ 2 ^ (gridExponent (n / d) + 53) * d := Nat.le_of_lt bound
    _ = 2 ^ 53 * (d * 2 ^ gridExponent (n / d)) := by rw [Nat.pow_add]; ring

theorem le_rounded {n d : Nat} (positive : 0 < d) (large : 0 < gridExponent (n / d)) :
    2 ^ 52 ≤ roundHalfEven n (d * 2 ^ gridExponent (n / d)) := by
  refine le_roundHalfEven (Nat.mul_pos positive (Nat.two_pow_pos _)) ?_
  have bound := (Nat.le_div_iff_mul_le positive).mp (two_pow_gridExponent_le large)
  calc 2 ^ 52 * (d * 2 ^ gridExponent (n / d)) = 2 ^ (gridExponent (n / d) + 52) * d := by
        rw [Nat.pow_add]; ring
    _ ≤ n := bound

theorem onGrid_mono {n d n' d' : Nat} (positive : 0 < d) (positive' : 0 < d')
    (ordered : n * d' ≤ n' * d) : onGrid n d ≤ onGrid n' d' := by
  have quotients := quotient_mono positive positive' ordered
  have exponents : gridExponent (n / d) ≤ gridExponent (n' / d') := by
    have logs := log2_mono quotients
    unfold gridExponent
    omega
  unfold onGrid
  simp only
  rcases Nat.lt_or_eq_of_le exponents with less | same
  · -- the two grids meet in a power of two
    calc roundHalfEven n (d * 2 ^ gridExponent (n / d)) * 2 ^ gridExponent (n / d)
        ≤ 2 ^ 53 * 2 ^ gridExponent (n / d) := Nat.mul_le_mul_right _ (rounded_le positive)
      _ = 2 ^ (53 + gridExponent (n / d)) := (Nat.pow_add 2 53 _).symm
      _ ≤ 2 ^ (52 + gridExponent (n' / d')) := Nat.pow_le_pow_right (by decide) (by omega)
      _ = 2 ^ 52 * 2 ^ gridExponent (n' / d') := Nat.pow_add 2 52 _
      _ ≤ roundHalfEven n' (d' * 2 ^ gridExponent (n' / d')) * 2 ^ gridExponent (n' / d') :=
        Nat.mul_le_mul_right _ (le_rounded positive' (by omega))
  · rw [← same]
    refine Nat.mul_le_mul_right _ (roundHalfEven_mono (Nat.mul_pos positive (Nat.two_pow_pos _))
      (Nat.mul_pos positive' (Nat.two_pow_pos _)) ?_)
    calc n * (d' * 2 ^ gridExponent (n / d)) = n * d' * 2 ^ gridExponent (n / d) := by ring
      _ ≤ n' * d * 2 ^ gridExponent (n / d) := Nat.mul_le_mul_right _ ordered
      _ = n' * (d * 2 ^ gridExponent (n / d)) := by ring

/-- What has at most 53 bits is on the grid. -/
theorem onGrid_exact {significand : Nat} (bound : significand < 2 ^ 53) (exponent : Nat) {d : Nat}
    (positive : 0 < d) :
    onGrid (significand * 2 ^ exponent * d) d = significand * 2 ^ exponent := by
  have whole : significand * 2 ^ exponent * d / d = significand * 2 ^ exponent :=
    Nat.mul_div_cancel _ positive
  have fits : gridExponent (significand * 2 ^ exponent) ≤ exponent := by
    have size : significand * 2 ^ exponent < 2 ^ (53 + exponent) := by
      rw [Nat.pow_add]
      exact Nat.mul_lt_mul_of_pos_right bound (Nat.two_pow_pos _)
    unfold gridExponent
    by_cases zero : significand * 2 ^ exponent = 0
    · simp [zero]
    · have logs := (Nat.log2_lt zero).mpr size
      omega
  unfold onGrid
  simp only [whole]
  generalize gridExponent (significand * 2 ^ exponent) = g at fits
  have powers : 2 ^ exponent = 2 ^ (exponent - g) * 2 ^ g := by
    rw [← Nat.pow_add, Nat.sub_add_cancel fits]
  have multiple : significand * 2 ^ exponent * d =
      significand * 2 ^ (exponent - g) * (d * 2 ^ g) := by
    rw [powers]
    ring
  rw [multiple, roundHalfEven_mul _ (Nat.mul_pos positive (Nat.two_pow_pos _)), powers]
  ring

/-! ## The nearest double -/

/-- A magnitude with a sign. -/
def signed (negative : Bool) (magnitude : Nat) : Int :=
  if negative then -(magnitude : Int) else magnitude

theorem position_finite (negative : Bool) (significand exponent : Nat)
    (canonical : Canonical significand exponent) :
    (finite negative significand exponent canonical).position =
      some (signed negative (significand * 2 ^ exponent)) := rfl

theorem position_normalize (negative : Bool) {significand exponent : Nat}
    (nonzero : significand ≠ 0) (bound : significand < 2 ^ 53) (inRange : exponent ≤ 2045) :
    (normalize negative significand exponent).position =
      some (signed negative (significand * 2 ^ exponent)) := by
  have log : Nat.log2 significand ≤ 52 := by
    have less := (Nat.log2_lt nonzero).mpr bound
    omega
  have low := Nat.log2_self_le nonzero
  have high : significand < 2 ^ (Nat.log2 significand + 1) := Nat.lt_log2_self
  unfold normalize
  simp only
  generalize shiftEq : min exponent (52 - Nat.log2 significand) = shift
  have canonical : Canonical (significand * 2 ^ shift) (exponent - shift) := by
    refine ⟨?_, by omega, ?_⟩
    · calc significand * 2 ^ shift < 2 ^ (Nat.log2 significand + 1) * 2 ^ shift :=
            Nat.mul_lt_mul_of_pos_right high (Nat.two_pow_pos _)
        _ = 2 ^ (Nat.log2 significand + 1 + shift) := (Nat.pow_add 2 _ _).symm
        _ ≤ 2 ^ 53 := Nat.pow_le_pow_right (by decide) (by omega)
    · by_cases all : exponent ≤ 52 - Nat.log2 significand
      · exact .inl (by omega)
      · right
        calc 2 ^ 52 = 2 ^ (Nat.log2 significand + shift) := by congr 1; omega
          _ = 2 ^ Nat.log2 significand * 2 ^ shift := Nat.pow_add 2 _ _
          _ ≤ significand * 2 ^ shift := Nat.mul_le_mul_right _ low
  rw [ofParts, dif_pos canonical, position_finite]
  have magnitude : significand * 2 ^ shift * 2 ^ (exponent - shift) =
      significand * 2 ^ exponent := by
    rw [Nat.mul_assoc, ← Nat.pow_add]
    congr 2
    omega
  rw [magnitude]

/-- The position of the number one. -/
def one : Nat := 2 ^ 1074

theorem one_pos : 0 < one := Nat.two_pow_pos 1074

theorem roundRatio_double (negative : Bool) {numerator units : Nat}
    (scaled : numerator * one = units) (denominator : Nat) :
    roundRatio double negative numerator denominator =
      ofRounded double negative
        (roundHalfEven units (denominator * 2 ^ gridExponent (units / denominator)))
        (gridExponent (units / denominator)) := by
  have exponent : max double.least (Nat.log2 (units / denominator) + 1 - double.bits) =
      gridExponent (units / denominator) := Nat.zero_max _
  have steps : numerator * 2 ^ 1074 = units := scaled
  unfold roundRatio
  simp only [steps, exponent]

/-- The position of the positive infinity. -/
def beyond : Nat := 2 ^ 53 * 2 ^ 2045

/-- It is the power of two that follows the greatest double. -/
theorem beyond_eq : beyond = 2 ^ 52 * 2 ^ 2046 := by
  rw [beyond, Nat.pow_succ 2 52, Nat.pow_succ 2 2045]
  ring

theorem natCast_two_pow_mul (m n : Nat) : ((2 ^ m * 2 ^ n : Nat) : Int) = 2 ^ (m + n) := by
  rw [← Nat.pow_add]
  exact Int.natCast_pow 2 (m + n)

/-- A magnitude beyond the greatest double is kept as the position of the infinities. -/
theorem position_infinity (negative : Bool) {magnitude : Nat} (large : beyond ≤ magnitude) :
    (infinity negative).position = some (signed negative (min magnitude beyond)) := by
  rw [Nat.min_eq_right large]
  unfold beyond signed position
  rw [natCast_two_pow_mul]

theorem min_beyond {significand exponent : Nat} (bound : significand ≤ 2 ^ 53)
    (inRange : exponent ≤ 2045) :
    min (significand * 2 ^ exponent) beyond = significand * 2 ^ exponent :=
  Nat.min_eq_left (Nat.mul_le_mul bound (Nat.pow_le_pow_right (by decide) inRange))

theorem beyond_le {significand exponent : Nat} (full : 2 ^ 52 ≤ significand)
    (outside : 2045 < exponent) : beyond ≤ significand * 2 ^ exponent := by
  obtain ⟨more, rfl⟩ : ∃ more, exponent = more + 1 := ⟨exponent - 1, by omega⟩
  calc 2 ^ 53 * 2 ^ 2045 ≤ 2 ^ 53 * 2 ^ more :=
        Nat.mul_le_mul_left _ (Nat.pow_le_pow_right (by decide) (by omega))
    _ = 2 ^ 52 * 2 ^ (more + 1) := by rw [Nat.pow_succ 2 more, Nat.pow_succ 2 52]; ring
    _ ≤ significand * 2 ^ (more + 1) := Nat.mul_le_mul_right _ full

theorem ofRounded_carried (negative : Bool) (exponent : Nat) :
    ofRounded double negative (2 ^ 53) exponent =
      if 2045 < exponent + 1 then infinity negative
      else normalize negative (2 ^ 52) (exponent + 1) := by
  have carried : (2 : Nat) ^ 53 = 2 ^ double.bits := rfl
  have nonzero : (2 : Nat) ^ (double.bits - 1) ≠ 0 := (Nat.two_pow_pos _).ne'
  unfold ofRounded
  rw [if_pos carried]
  simp only [if_neg nonzero]
  rfl

theorem ofRounded_of_ne (negative : Bool) {rounded : Nat} (within : rounded ≠ 2 ^ 53)
    (exponent : Nat) : ofRounded double negative rounded exponent =
      if 2045 < exponent then infinity negative
      else if rounded = 0 then zero negative
      else normalize negative rounded exponent := by
  have fits : rounded ≠ 2 ^ double.bits := within
  unfold ofRounded
  rw [if_neg fits]
  rfl

theorem position_ofRounded (negative : Bool) {rounded exponent : Nat} (bound : rounded ≤ 2 ^ 53)
    (full : 0 < exponent → 2 ^ 52 ≤ rounded) :
    (ofRounded double negative rounded exponent).position =
      some (signed negative (min (rounded * 2 ^ exponent) beyond)) := by
  have half : 2 ^ 52 < 2 ^ 53 := Nat.pow_lt_pow_right (by decide) (by decide)
  by_cases carried : rounded = 2 ^ 53
  · have shifted : 2 ^ 53 * 2 ^ exponent = 2 ^ 52 * 2 ^ (exponent + 1) := by
      rw [Nat.pow_succ 2 exponent, Nat.pow_succ 2 52]
      ring
    rw [carried, ofRounded_carried, shifted]
    split
    · exact position_infinity negative (beyond_le (Nat.le_refl _) ‹_›)
    · rw [min_beyond (Nat.le_of_lt half) (by omega)]
      exact position_normalize negative (Nat.two_pow_pos 52).ne' half (by omega)
  · rw [ofRounded_of_ne negative carried]
    split
    · exact position_infinity negative (beyond_le (full (by omega)) ‹_›)
    · rw [min_beyond bound (by omega)]
      split
      · rename_i nothing
        rw [nothing, Nat.zero_mul]
        cases negative <;> rfl
      · exact position_normalize negative ‹_› (Nat.lt_of_le_of_ne bound carried) (by omega)

theorem position_roundRatio (negative : Bool) (numerator : Nat) {denominator : Nat}
    (positive : 0 < denominator) : (roundRatio double negative numerator denominator).position =
      some (signed negative (min (onGrid (numerator * one) denominator) beyond)) := by
  rw [roundRatio_double negative rfl]
  exact position_ofRounded negative (rounded_le positive) (le_rounded positive)

/-- The position of the double that a ratio of integers is rounded to. -/
def nearest (numerator : Int) (denominator : Nat) : Int :=
  signed (numerator < 0) (min (onGrid (numerator.natAbs * one) denominator) beyond)

theorem position_ofInt (n : Int) : (ofInt n).position = some (nearest n 1) :=
  position_roundRatio _ _ Nat.one_pos

theorem nearest_ofNat (n d : Nat) : nearest n d = (min (onGrid (n * one) d) beyond : Nat) := by
  unfold nearest signed
  rw [if_neg (by simp), Int.natAbs_natCast]

theorem nearest_neg (n d : Nat) : nearest (-n) d = -(nearest n d) := by
  rw [nearest_ofNat]
  unfold nearest signed
  rw [Int.natAbs_neg, Int.natAbs_natCast]
  split
  · rfl
  · rename_i notNegative
    have nothing : n = 0 := by simpa using notNegative
    subst nothing
    have zero : onGrid (0 * one) d = 0 := by simp [onGrid, roundHalfEven]
    rw [zero]
    simp

theorem nearest_mono_nat {m m' d d' : Nat} (positive : 0 < d) (positive' : 0 < d')
    (ordered : m * d' ≤ m' * d) : nearest m d ≤ nearest m' d' := by
  rw [nearest_ofNat, nearest_ofNat, Int.ofNat_le]
  refine min_le_min (onGrid_mono positive positive' ?_) (Nat.le_refl _)
  calc m * one * d' = m * d' * one := by ring
    _ ≤ m' * d * one := Nat.mul_le_mul_right _ ordered
    _ = m' * one * d := by ring

theorem nearest_nonneg (m d : Nat) : 0 ≤ nearest m d := by
  rw [nearest_ofNat]
  exact Int.natCast_nonneg _

theorem nearest_mono {n n' : Int} {d d' : Nat} (positive : 0 < d) (positive' : 0 < d')
    (ordered : n * d' ≤ n' * d) : nearest n d ≤ nearest n' d' := by
  obtain ⟨m, rfl | rfl⟩ := n.eq_nat_or_neg <;> obtain ⟨m', rfl | rfl⟩ := n'.eq_nat_or_neg
  · exact nearest_mono_nat positive positive' (by exact_mod_cast ordered)
  · -- both ratios are zero
    have product : m * d' + m' * d ≤ 0 := by
      have sum : (m * d' : Int) + m' * d ≤ 0 := by linarith
      exact_mod_cast sum
    have left : m = 0 := by
      by_contra some
      have := Nat.mul_pos (Nat.pos_of_ne_zero some) positive'
      omega
    have right : m' = 0 := by
      by_contra some
      have := Nat.mul_pos (Nat.pos_of_ne_zero some) positive
      omega
    subst left right
    rw [nearest_neg, nearest_ofNat, nearest_ofNat]
    simp [onGrid, roundHalfEven]
  · have below := nearest_nonneg m d
    have above := nearest_nonneg m' d'
    rw [nearest_neg]
    omega
  · rw [nearest_neg, nearest_neg]
    refine Int.neg_le_neg (nearest_mono_nat positive' positive ?_)
    have flipped : (m' * d : Int) ≤ m * d' := by linarith
    exact_mod_cast flipped

/-- A position that 53 bits and an exponent can say. -/
def Representable (p : Int) : Prop :=
  p.natAbs ≤ beyond ∧ ∃ significand exponent, significand < 2 ^ 53 ∧
    p.natAbs = significand * 2 ^ exponent

theorem natAbs_signed (negative : Bool) (magnitude : Nat) :
    (signed negative magnitude).natAbs = magnitude := by
  cases negative <;> simp [signed]

theorem representable_position {x : Binary64} {p : Int} (placed : x.position = some p) :
    Representable p := by
  have half : 2 ^ 52 < 2 ^ 53 := Nat.pow_lt_pow_right (by decide) (by decide)
  cases x with
  | nan => simp [position] at placed
  | infinity negative =>
    rw [position_infinity negative (Nat.le_refl beyond), Nat.min_self, Option.some.injEq] at placed
    rw [← placed, Representable, natAbs_signed]
    exact ⟨Nat.le_refl _, 2 ^ 52, 2046, half, beyond_eq⟩
  | finite negative significand exponent canonical =>
    rw [position_finite, Option.some.injEq] at placed
    rw [← placed, Representable, natAbs_signed]
    exact ⟨Nat.mul_le_mul (Nat.le_of_lt canonical.1)
      (Nat.pow_le_pow_right (by decide) canonical.2.1), significand, exponent, canonical.1, rfl⟩

theorem nearest_self {p : Int} (representable : Representable p) : nearest p one = p := by
  have magnitudes : ∀ m : Nat, Representable m → nearest m one = m := by
    rintro m ⟨within, significand, exponent, bound, parts⟩
    rw [Int.natAbs_natCast] at within parts
    rw [nearest_ofNat, parts, onGrid_exact bound exponent one_pos, ← parts, Nat.min_eq_left within]
  obtain ⟨m, rfl | rfl⟩ := p.eq_nat_or_neg
  · exact magnitudes m representable
  · rw [nearest_neg, magnitudes m (by simpa [Representable] using representable)]

theorem nearest_le {p n : Int} {d : Nat} (representable : Representable p) (positive : 0 < d)
    (below : n * one ≤ p * d) : nearest n d ≤ p := by
  rw [← nearest_self representable]
  exact nearest_mono positive one_pos below

theorem le_nearest {p n : Int} {d : Nat} (representable : Representable p) (positive : 0 < d)
    (above : p * d ≤ n * one) : p ≤ nearest n d := by
  rw [← nearest_self representable]
  exact nearest_mono one_pos positive above

theorem nearest_small {n : Int} (small : n.natAbs ≤ 2 ^ 53) : nearest n 1 = n * one := by
  have representable : Representable (n * one) := by
    rw [Representable, Int.natAbs_mul, Int.natAbs_natCast]
    refine ⟨Nat.mul_le_mul small (Nat.pow_le_pow_right (by decide) (by decide)), ?_⟩
    rcases Nat.lt_or_eq_of_le small with less | equal
    · exact ⟨n.natAbs, 1074, less, rfl⟩
    · refine ⟨2 ^ 52, 1075, Nat.pow_lt_pow_right (by decide) (by decide), ?_⟩
      rw [equal, one, Nat.pow_succ 2 1074, Nat.pow_succ 2 52]
      ring
  have unit : n * (one : Int) * (1 : Nat) = n * one := by rw [Nat.cast_one, Int.mul_one]
  exact Int.le_antisymm (nearest_le representable Nat.one_pos (Int.le_of_eq unit.symm))
    (le_nearest representable Nat.one_pos (Int.le_of_eq unit))

end Binary64

namespace Decimal

theorem position_toBinary64 (d : Decimal) :
    d.toBinary64.position = some (Binary64.nearest d.units (10 ^ d.scale)) := by
  have magnitude : d.units.natAbs = d.magnitude := by
    unfold units
    split <;> simp
  unfold toBinary64 Binary64.nearest
  rw [magnitude]
  exact Binary64.position_roundRatio _ _ (Nat.pow_pos (by decide))

end Decimal

end RecordFilter
