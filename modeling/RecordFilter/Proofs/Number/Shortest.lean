import RecordFilter.Proofs.Number.Interval

/-!
# Shortest digits stand for their double

The search for the fewest digits ends within seventeen, because a grid of seventeen digits is
finer than the gaps between doubles (`exists_search`).  What it finds lies in the rounding
interval of the double, and so does what is left without trailing zeros
(`denotes_shortest`).
-/

namespace RecordFilter

namespace Shortest

/-- Zeros that are dropped are counted by the exponent. -/
theorem strip_spec (fuel digits : Nat) (exponent : Int) :
    ∃ zeros : Nat, digits = (strip fuel digits exponent).digits * 10 ^ zeros ∧
      (strip fuel digits exponent).exponent = exponent + zeros := by
  induction fuel generalizing digits exponent with
  | zero => exact ⟨0, by simp [strip], by simp [strip]⟩
  | succ fuel ih =>
    rw [strip]
    split
    · obtain ⟨zeros, same, place⟩ := ih (digits / 10) (exponent + 1)
      refine ⟨zeros + 1, ?_, by omega⟩
      rw [Nat.pow_succ, ← Nat.mul_assoc, ← same]
      omega
    · exact ⟨0, by simp, by simp⟩

/-! ## The points next to a number -/

/-- A distance is within a limit, which may itself be included. -/
def Near (inclusive : Bool) (distance limit : Nat) : Prop :=
  distance < limit ∨ (inclusive = true ∧ distance = limit)

theorem near_iff {inclusive : Bool} {distance limit : Nat} :
    (distance < limit || (inclusive && distance == limit)) = true ↔
      Near inclusive distance limit := by
  simp [Near]

theorem Tie.choose_eq (tie : Tie) (lower : Nat) :
    tie.choose lower = lower ∨ tie.choose lower = lower + 1 := by
  cases tie with
  | up => exact .inr rfl
  | toEven =>
    show (if lower % 2 = 0 then lower else lower + 1) = lower ∨
      (if lower % 2 = 0 then lower else lower + 1) = lower + 1
    split
    · exact .inl rfl
    · exact .inr rfl

section

variable {tie : Tie} {value below above unit step digits : Nat} {inclusive : Bool}

/-- The point that is taken is one of the two next to the number and within the limit on its
    side. -/
theorem nearestOn_cases
    (found : nearestOn tie value below above unit step inclusive = some digits) :
    (digits = value / (unit * step) ∧
      Near inclusive (value - value / (unit * step) * (unit * step)) below) ∨
    (digits = value / (unit * step) + 1 ∧
      Near inclusive ((value / (unit * step) + 1) * (unit * step) - value) above) := by
  unfold nearestOn at found
  simp only at found
  split at found
  · cases found
  · rename_i down up
    cases found
    exact .inl ⟨rfl, near_iff.mp down⟩
  · rename_i down up
    cases found
    exact .inr ⟨rfl, near_iff.mp up⟩
  · rename_i down up
    have both : digits = value / (unit * step) ∨ digits = value / (unit * step) + 1 := by
      rw [Option.some.injEq] at found
      rw [← found]
      split
      · exact .inl rfl
      · split
        · exact .inr rfl
        · exact tie.choose_eq _
    exact both.imp (⟨·, near_iff.mp down⟩) (⟨·, near_iff.mp up⟩)

/-- Where the limits together exceed the spacing one of the two points is taken. -/
theorem exists_nearestOn (tie : Tie) (value : Nat) (inclusive : Bool)
    (spacing : 0 < unit * step) (fine : unit * step < below + above) :
    ∃ digits, nearestOn tie value below above unit step inclusive = some digits := by
  have parts := Nat.div_add_mod value (unit * step)
  have rest := Nat.mod_lt value spacing
  have next : (value / (unit * step) + 1) * (unit * step) =
      value / (unit * step) * (unit * step) + unit * step := Nat.succ_mul _ _
  rw [Nat.mul_comm] at parts
  rw [← Option.isSome_iff_exists]
  unfold nearestOn
  simp only
  split
  · rename_i down up
    rw [← Bool.not_eq_true, near_iff] at down up
    unfold Near at down up
    omega
  · rfl
  · rfl
  · rfl

/-- The point that is taken lies within the limits on both sides of the number. -/
theorem nearestOn_eq_some (belowPositive : 0 < below) (abovePositive : 0 < above)
    (spacing : 0 < unit * step)
    (found : nearestOn tie value below above unit step inclusive = some digits) :
    value ≤ digits * (unit * step) + below ∧ digits * (unit * step) ≤ value + above ∧
      (inclusive = false →
        value < digits * (unit * step) + below ∧ digits * (unit * step) < value + above) := by
  have parts := Nat.div_add_mod value (unit * step)
  have rest := Nat.mod_lt value spacing
  have next : (value / (unit * step) + 1) * (unit * step) =
      value / (unit * step) * (unit * step) + unit * step := Nat.succ_mul _ _
  rw [Nat.mul_comm] at parts
  rcases nearestOn_cases found with ⟨rfl, near⟩ | ⟨rfl, near⟩
  · rcases near with inside | ⟨rfl, same⟩
    · exact ⟨by omega, by omega, fun _ => ⟨by omega, by omega⟩⟩
    · exact ⟨by omega, by omega, nofun⟩
  · rw [next] at near ⊢
    rcases near with inside | ⟨rfl, same⟩
    · exact ⟨by omega, by omega, fun _ => ⟨by omega, by omega⟩⟩
    · exact ⟨by omega, by omega, nofun⟩

end

end Shortest

namespace Binary64

open Shortest

/-- A decimal `mantissa · 10 ^ exponent` of at most 400 places lies in the rounding interval
    of `significand · 2 ^ (binary - 1074)`. -/
def Denotes (mantissa : Nat) (exponent : Int) (significand binary : Nat) : Prop :=
  ∃ places : Nat, exponent + scale = places ∧
    Within significand binary (mantissa * 10 ^ places * one) (10 ^ scale)

/-- Zeros may be moved from the exponent to the mantissa. -/
theorem Denotes.shift {mantissa : Nat} {exponent : Int} {significand binary : Nat}
    (denotes : Denotes mantissa exponent significand binary) {zeros : Nat}
    (few : zeros ≤ exponent + scale) :
    Denotes (mantissa * 10 ^ zeros) (exponent - zeros) significand binary := by
  obtain ⟨places, count, within⟩ := denotes
  refine ⟨places - zeros, by omega, ?_⟩
  rw [Nat.mul_assoc mantissa, ← Nat.pow_add, Nat.add_sub_cancel' (by omega)]
  exact within

/-! ## The search -/

/-- The search for the fewest digits: the digits with the number of places behind them. -/
def search (tie : Tie) (value below above unit size : Nat) (inclusive : Bool) :
    Option (Nat × Nat) :=
  (List.range 17).findSome? fun n =>
    let step := size - (n + 1)
    (nearestOn tie value below above unit (10 ^ step) inclusive).map fun digits => (digits, step)

section

variable {tie : Tie} {value below above unit : Nat} {inclusive : Bool}

/-- Seventeen digits are enough where their grid is finer than the interval. -/
theorem exists_search (tie : Tie) (inclusive : Bool) (positive : 0 < unit)
    (large : 10 ^ 16 * unit ≤ value) (fine : value < 10 ^ 16 * (below + above)) :
    ∃ digits step, search tie value below above unit
      (Nat.toDigits 10 (value / unit)).length inclusive = some (digits, step) := by
  have whole : 10 ^ 16 ≤ value / unit := (Nat.le_div_iff_mul_le positive).mpr large
  generalize size_eq : (Nat.toDigits 10 (value / unit)).length = size
  have many : 16 < size := by
    by_contra few
    have := (Nat.length_toDigits_le_iff (by decide) (by decide)).mp
      (size_eq.trans_le (Nat.le_of_not_lt few))
    omega
  obtain ⟨step, rfl⟩ : ∃ step, size = 16 + step + 1 := ⟨size - 17, by omega⟩
  have leading : 10 ^ (16 + step) ≤ value / unit := by
    by_contra less
    have := (Nat.length_toDigits_le_iff (by decide) (by omega)).mpr (Nat.lt_of_not_le less)
    omega
  have spacing : unit * 10 ^ step < below + above := by
    refine Nat.lt_of_mul_lt_mul_left (a := 10 ^ 16) (Nat.lt_of_le_of_lt ?_ fine)
    rw [Nat.mul_left_comm, ← Nat.pow_add, Nat.mul_comm]
    exact (Nat.le_div_iff_mul_le positive).mp leading
  obtain ⟨digits, hit⟩ := exists_nearestOn tie value inclusive
    (Nat.mul_pos positive (Nat.pow_pos (by decide))) spacing
  have some : (search tie value below above unit (16 + step + 1) inclusive).isSome := by
    refine List.findSome?_isSome_iff.mpr ⟨16, by decide, ?_⟩
    simp only [Nat.add_sub_add_right, Nat.add_sub_cancel_left, hit, Option.map_some,
      Option.isSome_some]
  obtain ⟨⟨digits, step⟩, found⟩ := Option.isSome_iff_exists.mp some
  exact ⟨digits, step, found⟩

/-- What the search finds is the point that is taken on a grid. -/
theorem nearestOn_of_search {size digits step : Nat}
    (found : search tie value below above unit size inclusive = some (digits, step)) :
    nearestOn tie value below above unit (10 ^ step) inclusive = some digits := by
  obtain ⟨n, -, hit⟩ := List.exists_of_findSome?_eq_some found
  obtain ⟨digits', near, same⟩ := Option.map_eq_some_iff.mp hit
  cases same
  exact near

end

variable {significand exponent : Nat}

/-- The digits are those the search finds, without trailing zeros. -/
theorem shortest_of_search {tie : Tie} {digits step : Nat}
    (found : search tie (4 * significand * (2 ^ exponent * 10 ^ scale))
      (lowerReach significand exponent * (2 ^ exponent * 10 ^ scale))
      (2 * (2 ^ exponent * 10 ^ scale)) (4 * one)
      (Nat.toDigits 10 (4 * significand * (2 ^ exponent * 10 ^ scale) / (4 * one))).length
      (significand % 2 = 0) = some (digits, step)) :
    shortest tie significand exponent = strip 20 digits ((step : Int) - scale) := by
  -- the definition is opened as a function: compared as a value, the search would be run
  suffices opened : ∀ f, f = @shortest →
      f tie significand exponent = strip 20 digits ((step : Int) - scale) from opened _ rfl
  intro f same
  delta shortest at same
  subst same
  beta_reduce
  extract_lets half value unit below size result
  have reach : below = lowerReach significand exponent * half := by
    unfold below lowerReach
    split
    · exact (Nat.one_mul half).symm
    · rfl
  have hit : result = some (digits, step) := by
    unfold search one at found
    rw [← reach] at found
    exact found
  rw [hit]
  rfl

theorem two_pow_le (n : Nat) : 2 ^ (3 * n) ≤ 10 ^ n := by
  rw [Nat.pow_mul]
  exact Nat.pow_le_pow_left (by decide) n

/-- The least double has sixteen digits among its places. -/
theorem tenfold_one_le : 10 ^ 16 * one ≤ 10 ^ scale := by
  obtain ⟨n, bits, room⟩ : ∃ n, 1074 = 3 * n ∧ 16 + n ≤ scale := ⟨358, by decide⟩
  rw [one, bits]
  calc 10 ^ 16 * 2 ^ (3 * n) ≤ 10 ^ 16 * 10 ^ n := Nat.mul_le_mul_left _ (two_pow_le n)
    _ = 10 ^ (16 + n) := (Nat.pow_add 10 16 n).symm
    _ ≤ 10 ^ scale := Nat.pow_le_pow_right (by decide) room

/-- The shortest digits lie in the rounding interval of their double. -/
theorem denotes_shortest (tie : Tie) (canonical : Canonical significand exponent)
    (nonzero : 0 < significand) :
    Denotes (shortest tie significand exponent).digits (shortest tie significand exponent).exponent
      significand exponent := by
  obtain ⟨reachPositive, reachTwo⟩ := lowerReach_le significand exponent
  have halfPositive : 0 < 2 ^ exponent * 10 ^ scale :=
    Nat.mul_pos (Nat.two_pow_pos exponent) (Nat.pow_pos (by decide))
  have unitPositive : 0 < 4 * one := Nat.mul_pos (by decide) one_pos
  have large : 10 ^ 16 * (4 * one) ≤ 4 * significand * (2 ^ exponent * 10 ^ scale) := by
    have least := Nat.mul_le_mul (Nat.mul_pos nonzero (Nat.two_pow_pos exponent)) tenfold_one_le
    rw [Nat.succ_mul, Nat.zero_mul, Nat.zero_add, Nat.mul_assoc] at least
    rw [Nat.mul_left_comm, Nat.mul_assoc]
    exact Nat.mul_le_mul_left 4 least
  have fine : 4 * significand * (2 ^ exponent * 10 ^ scale) <
      10 ^ 16 * (lowerReach significand exponent * (2 ^ exponent * 10 ^ scale) +
        2 * (2 ^ exponent * 10 ^ scale)) := by
    rw [← Nat.add_mul, ← Nat.mul_assoc (10 ^ 16)]
    refine Nat.mul_lt_mul_of_pos_right ?_ halfPositive
    have bound := canonical.1
    unfold lowerReach
    split
    · omega
    · omega
  obtain ⟨digits, step, found⟩ := exists_search tie (decide (significand % 2 = 0)) unitPositive
    large fine
  rw [shortest_of_search found]
  obtain ⟨zeros, same, place⟩ := strip_spec 20 digits ((step : Int) - scale)
  obtain ⟨lower, upper, inside⟩ := nearestOn_eq_some (Nat.mul_pos reachPositive halfPositive)
    (Nat.mul_pos (by decide) halfPositive)
    (Nat.mul_pos unitPositive (Nat.pow_pos (by decide))) (nearestOn_of_search found)
  refine ⟨step + zeros, by rw [place]; omega, ?_⟩
  have point : 4 * ((strip 20 digits ((step : Int) - scale)).digits * 10 ^ (step + zeros) * one) =
      digits * (4 * one * 10 ^ step) := by
    rw [Nat.pow_add]
    conv_rhs => rw [same]
    ring
  have number : 4 * (significand * (2 ^ exponent * 10 ^ scale)) =
      4 * significand * (2 ^ exponent * 10 ^ scale) := by rw [Nat.mul_assoc]
  refine ⟨?_, ?_, fun odd => ?_⟩
  · rw [point, number]
    exact lower
  · rw [point, number]
    exact upper
  · rw [point, number]
    exact inside (by simpa using odd)

end Binary64

end RecordFilter
