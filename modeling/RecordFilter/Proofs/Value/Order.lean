import RecordFilter.Proofs.Number.StandIn
import RecordFilter.Value.Compare

/-!
# The order of mixed numbers

Integers, decimals and doubles are compared through conversions: an integer beside a double
is rounded to a double, a double beside a decimal is replaced by the decimal that stands for
it.  A conversion can make two different numbers equal, so equality across kinds is not
transitive (`order_conflates`).  It does nothing else: when no premise takes different
numbers for equal, the order is transitive (`order_transitive`).
-/

namespace RecordFilter

/-! ## Comparing ratios -/

theorem compare_congr {α β : Type} [LinearOrder α] [LinearOrder β] {a b : α} {c d : β}
    (same : a ≤ b ↔ c ≤ d) (same' : b ≤ a ↔ d ≤ c) : compare a b = compare c d := by
  rcases lt_trichotomy a b with less | equal | more
  · have less' : c < d := lt_of_not_ge fun le => not_le_of_gt less (same'.mpr le)
    rw [compare_lt_iff_lt.mpr less, compare_lt_iff_lt.mpr less']
  · have equal' : c = d := le_antisymm (same.mp (le_of_eq equal)) (same'.mp (le_of_eq equal.symm))
    rw [compare_eq_iff_eq.mpr equal, compare_eq_iff_eq.mpr equal']
  · have more' : d < c := lt_of_not_ge fun le => not_le_of_gt more (same.mpr le)
    rw [compare_gt_iff_gt.mpr more, compare_gt_iff_gt.mpr more']

theorem compare_div (n m : Int) {d e : Nat} (positive : 0 < d) (positive' : 0 < e) :
    compare (n * e) (m * d) = compare ((n : ℚ) / d) ((m : ℚ) / e) := by
  have ratio : ∀ (n m : Int) {d e : Nat}, 0 < d → 0 < e →
      (n * e ≤ m * d ↔ (n : ℚ) / d ≤ (m : ℚ) / e) := by
    intro n m d e positive positive'
    rw [div_le_div_iff₀ (Nat.cast_pos.mpr positive) (Nat.cast_pos.mpr positive')]
    exact_mod_cast Iff.rfl
  exact compare_congr (ratio n m positive positive') (ratio m n positive' positive)

theorem map_swap_of_compare {order : Option Ordering} {u v : ℚ}
    (exactly : order = some (compare u v)) : order.map Ordering.swap = some (compare v u) := by
  rw [exactly]
  exact congrArg some Std.OrientedCmp.eq_swap.symm

theorem map_swap_of_equal {order : Option Ordering} (equal : order = some .eq) :
    order.map Ordering.swap = some .eq := by
  rw [equal]
  rfl

theorem Decimal.order_eq (left right : Decimal) :
    left.order right = compare left.toRat right.toRat := by
  have tens : ∀ scale, 0 < 10 ^ scale := fun scale => Nat.pow_pos (by decide)
  have ratio := compare_div left.units right.units (tens left.scale) (tens right.scale)
  rw [Nat.cast_pow, Nat.cast_pow, Nat.cast_pow, Nat.cast_pow] at ratio
  exact ratio

theorem Decimal.toRat_ofInt64 (n : Int64) : (Decimal.ofInt64 n).toRat = n.toInt := by
  have units : (Decimal.ofInt64 n).units = n.toInt := by
    by_cases negative : n.toInt < 0
    · simp only [Decimal.ofInt64, Decimal.units, negative, decide_true, if_true]
      omega
    · simp only [Decimal.ofInt64, Decimal.units, negative, decide_false, Bool.false_eq_true,
        if_false]
      omega
  rw [Decimal.toRat, units]
  simp [Decimal.ofInt64]

namespace Binary64

theorem order_eq {x y : Binary64} {p q : ℚ} (known : x.toRat? = some p)
    (known' : y.toRat? = some q) : x.order y = some (compare p q) := by
  obtain ⟨i, placed, rfl⟩ := Option.map_eq_some_iff.mp known
  obtain ⟨j, placed', rfl⟩ := Option.map_eq_some_iff.mp known'
  have positive : (0 : ℚ) < one := Nat.cast_pos.mpr one_pos
  have units : compare i j = compare ((i : ℚ) / one) ((j : ℚ) / one) :=
    compare_congr (by rw [div_le_div_iff_of_pos_right positive, Int.cast_le])
      (by rw [div_le_div_iff_of_pos_right positive, Int.cast_le])
  unfold order
  rw [placed, placed', ← units]

theorem order_swap (x y : Binary64) : y.order x = (x.order y).map Ordering.swap := by
  unfold order
  cases x.position with
  | none => cases y.position <;> rfl
  | some i =>
    cases y.position with
    | none => rfl
    | some j => exact congrArg some Std.OrientedCmp.eq_swap

/-- Rounding a ratio keeps its order to a double or makes the two equal. -/
theorem order_nearest {x y : Binary64} {p : ℚ} {n : Int} {d : Nat} (known : x.toRat? = some p)
    (rounded : y.position = some (nearest n d)) (positive : 0 < d) :
    x.order y = some (compare p ((n : ℚ) / d)) ∨ x.order y = some .eq := by
  obtain ⟨i, placed, rfl⟩ := Option.map_eq_some_iff.mp known
  have representable := representable_position placed
  have ratio := compare_div i n one_pos positive
  unfold order
  simp only [placed, rounded, Option.some.injEq]
  rw [← ratio]
  rcases lt_trichotomy (i * d) (n * one) with less | equal | more
  · rcases lt_or_eq_of_le (le_nearest representable positive (le_of_lt less)) with below | same
    · left
      rw [compare_lt_iff_lt.mpr less, compare_lt_iff_lt.mpr below]
    · exact .inr (compare_eq_iff_eq.mpr same)
  · right
    exact compare_eq_iff_eq.mpr (le_antisymm (le_nearest representable positive (le_of_eq equal))
      (nearest_le representable positive (le_of_eq equal.symm)))
  · rcases lt_or_eq_of_le (nearest_le representable positive (le_of_lt more)) with above | same
    · left
      rw [compare_gt_iff_gt.mpr more, compare_gt_iff_gt.mpr above]
    · exact .inr (compare_eq_iff_eq.mpr same.symm)

end Binary64

namespace Value

/-- The number a value stands for. -/
def toRat? : Value → Option ℚ
  | int n => some n.toInt
  | float x => x.toRat?
  | decimal d => some d.toRat
  | _ => none

/-- The number that stands for a value beside decimals. -/
def standIn? : Value → Option ℚ
  | int n => some n.toInt
  | float x => x.standIn?
  | decimal d => some d.toRat
  | _ => none

/-- Evaluation takes the left value for less than the right one, or for equal to it. -/
def AtMost (left right : Value) : Prop :=
  left.order right = some .lt ∨ left.order right = some .eq

/-- If evaluation takes the two values for equal, then they are the same number. -/
def Faithful (left right : Value) : Prop :=
  left.order right = some .eq → left.toRat? = right.toRat?

/-- Whether one of two values is a decimal. -/
def BesideDecimal (left right : Value) : Prop :=
  left.kind? = some .decimal ∨ right.kind? = some .decimal

/-- The number of a value and the one that stands for it beside decimals. -/
structure Reads (value : Value) (number standIn : ℚ) : Prop where
  number : value.toRat? = some number
  standIn : value.standIn? = some standIn

theorem exists_reads {value : Value} {p : ℚ} (known : value.toRat? = some p) :
    ∃ s, Reads value p s := by
  cases value with
  | int n => exact ⟨p, known, known⟩
  | decimal d => exact ⟨p, known, known⟩
  | float x =>
    obtain ⟨_, _, _, parts⟩ := Binary64.exists_parts (Binary64.ne_nan_of_toRat? known)
    exact ⟨_, known, parts.standIn⟩
  | _ => cases known

theorem orderFloatDecimal_cases {x : Binary64} {d : Decimal} {p s : ℚ}
    (reads : Reads (float x) p s) :
    orderFloatDecimal x d = some (compare s d.toRat) ∨
      orderFloatDecimal x d = some .eq ∧ s = p := by
  have standIn : x.standIn? = some s := reads.standIn
  unfold orderFloatDecimal
  unfold Binary64.standIn? at standIn
  cases found : Decimal.ofBinary64? x with
  | some approximation =>
    rw [found, Option.some.injEq] at standIn
    left
    rw [← standIn, ← Decimal.order_eq]
  | none =>
    have same : s = p := by
      rw [found] at standIn
      exact Option.some.inj (standIn.symm.trans reads.number)
    have rounded := Binary64.order_nearest reads.number d.position_toBinary64
      (Nat.pow_pos (show 0 < 10 by decide))
    rw [Nat.cast_pow] at rounded
    rcases rounded with exactly | equal
    · left
      rw [same]
      exact exactly
    · exact .inr ⟨equal, same⟩

theorem orderDecimalFloat_eq_swap (d : Decimal) (x : Binary64) :
    orderDecimalFloat d x = (orderFloatDecimal x d).map Ordering.swap := by
  unfold orderDecimalFloat orderFloatDecimal
  cases Decimal.ofBinary64? x with
  | none => exact Binary64.order_swap x d.toBinary64
  | some approximation =>
    simp only [Decimal.order_eq]
    exact congrArg some Std.OrientedCmp.eq_swap

/-- Two doubles, and two numbers of which neither is a double, are compared exactly. -/
theorem order_eq_compare {a b : Value} {p q : ℚ} (left : a.toRat? = some p)
    (right : b.toRat? = some q) (alike : a.kind? = some .float ↔ b.kind? = some .float) :
    a.order b = some (compare p q) := by
  cases a with
  | null | bool | text | dateTime | uuid | list => cases left
  | int n =>
    have value : (n.toInt : ℚ) = p := Option.some.inj left
    cases b with
    | null | bool | text | dateTime | uuid | list => cases right
    | float x => simp [kind?] at alike
    | int n' =>
      have value' : (n'.toInt : ℚ) = q := Option.some.inj right
      rw [← value, ← value', order,
        compare_congr (Int.cast_le (R := ℚ)).symm (Int.cast_le (R := ℚ)).symm]
    | decimal d' =>
      have value' : d'.toRat = q := Option.some.inj right
      rw [← value, ← value', ← Decimal.toRat_ofInt64, ← Decimal.order_eq, order]
  | decimal d =>
    have value : d.toRat = p := Option.some.inj left
    cases b with
    | null | bool | text | dateTime | uuid | list => cases right
    | float x => simp [kind?] at alike
    | int n =>
      have value' : (n.toInt : ℚ) = q := Option.some.inj right
      rw [← value, ← value', ← Decimal.toRat_ofInt64, ← Decimal.order_eq, order]
    | decimal d' =>
      have value' : d'.toRat = q := Option.some.inj right
      rw [← value, ← value', ← Decimal.order_eq, order]
  | float x =>
    cases b with
    | null | bool | text | dateTime | uuid | list => cases right
    | int | decimal => simp [kind?] at alike
    | float y => exact Binary64.order_eq left right

theorem Reads.standIn_eq {value : Value} {p s : ℚ} (reads : Reads value p s)
    (exactly : value.kind? ≠ some .float) : s = p := by
  have same : value.standIn? = value.toRat? := by
    cases value with
    | float x => exact absurd rfl exactly
    | _ => rfl
  exact Option.some.inj (reads.standIn.symm.trans (same.trans reads.number))

/-- Beside a decimal the order is that of what stands for the values.  Where it is not, both
    values stand for themselves and are taken for equal. -/
theorem order_cases_decimal {a b : Value} {p q s t : ℚ} (left : Reads a p s) (right : Reads b q t)
    (beside : BesideDecimal a b) :
    a.order b = some (compare s t) ∨ a.order b = some .eq ∧ s = p ∧ t = q := by
  by_cases float : a.kind? = some .float
  · cases a with
    | float x =>
      cases b with
      | decimal d =>
        have value : d.toRat = t := Option.some.inj right.standIn
        have same : t = q := right.standIn_eq (by simp [kind?])
        rw [← value]
        refine (orderFloatDecimal_cases left).imp_right ?_
        rintro ⟨equal, standing⟩
        exact ⟨equal, standing, value.trans same⟩
      | _ => simp [BesideDecimal, kind?] at beside
    | _ => simp [kind?] at float
  · by_cases float' : b.kind? = some .float
    · cases b with
      | float x =>
        cases a with
        | decimal d =>
          have value : d.toRat = s := Option.some.inj left.standIn
          have same : s = p := left.standIn_eq (by simp [kind?])
          have swapped : (decimal d).order (.float x) = _ := orderDecimalFloat_eq_swap d x
          rw [swapped, ← value]
          refine (orderFloatDecimal_cases right).imp map_swap_of_compare ?_
          rintro ⟨equal, standing⟩
          exact ⟨map_swap_of_equal equal, value.trans same, standing⟩
        | _ => simp [BesideDecimal, kind?] at beside
      | _ => simp [kind?] at float'
    · left
      rw [left.standIn_eq float, right.standIn_eq float']
      exact order_eq_compare left.number right.number (iff_of_false float float')

theorem order_ofInt_cases {x : Binary64} {p : ℚ} (known : x.toRat? = some p) (n : Int64) :
    x.order (.ofInt n.toInt) = some (compare p (n.toInt : ℚ)) ∨
      x.order (.ofInt n.toInt) = some .eq := by
  have nearest := Binary64.order_nearest known (Binary64.position_ofInt n.toInt) Nat.one_pos
  rwa [Nat.cast_one, div_one] at nearest

/-- Without a decimal the order is that of the numbers, or different numbers are taken for
    equal. -/
theorem order_cases {a b : Value} {p q : ℚ} (left : a.toRat? = some p) (right : b.toRat? = some q)
    (without : ¬BesideDecimal a b) : a.order b = some (compare p q) ∨ a.order b = some .eq := by
  by_cases alike : a.kind? = some .float ↔ b.kind? = some .float
  · exact .inl (order_eq_compare left right alike)
  · cases a with
    | float x =>
      cases b with
      | int n =>
        have value : (n.toInt : ℚ) = q := Option.some.inj right
        rw [← value]
        exact order_ofInt_cases left n
      | float y => simp [kind?] at alike
      | decimal d => simp [BesideDecimal, kind?] at without
      | _ => cases right
    | int n =>
      cases b with
      | float x =>
        have value : (n.toInt : ℚ) = p := Option.some.inj left
        have swapped : (int n).order (float x) = _ := Binary64.order_swap x (Binary64.ofInt n.toInt)
        rw [swapped, ← value]
        exact (order_ofInt_cases right n).imp map_swap_of_compare map_swap_of_equal
      | _ => simp [kind?] at alike
    | decimal d => simp [BesideDecimal, kind?] at without
    | _ => cases left

section

variable {a b : Value} {p q s t : ℚ}

theorem atMost_of_compare {u v : ℚ} (ordered : u ≤ v)
    (cases : a.order b = some (compare u v) ∨ a.order b = some .eq) : AtMost a b := by
  rcases cases with exactly | equal
  · rcases lt_or_eq_of_le ordered with less | same
    · exact .inl (by rw [exactly, compare_lt_iff_lt.mpr less])
    · exact .inr (by rw [exactly, compare_eq_iff_eq.mpr same])
  · exact .inr equal

theorem atMost_of_standIn_le (left : Reads a p s) (right : Reads b q t)
    (beside : BesideDecimal a b) (ordered : s ≤ t) : AtMost a b :=
  atMost_of_compare ordered ((order_cases_decimal left right beside).imp_right And.left)

theorem atMost_of_number_le (left : Reads a p s) (right : Reads b q t)
    (without : ¬BesideDecimal a b) (ordered : p ≤ q) : AtMost a b :=
  atMost_of_compare ordered (order_cases left.number right.number without)

theorem number_eq_of_equal (left : Reads a p s) (right : Reads b q t) (faithful : Faithful a b)
    (equal : a.order b = some .eq) : p = q := by
  have same := faithful equal
  rwa [left.number, right.number, Option.some.injEq] at same

theorem standIn_le_of_atMost (left : Reads a p s) (right : Reads b q t)
    (beside : BesideDecimal a b) (faithful : Faithful a b) (atMost : AtMost a b) :
    s ≤ t ∧ (s = t → p = q) := by
  have cases := order_cases_decimal left right beside
  rcases atMost with less | equal
  · rcases cases with exactly | ⟨equal, -⟩
    · have strict : s < t := compare_lt_iff_lt.mp (Option.some.inj (exactly.symm.trans less))
      exact ⟨le_of_lt strict, fun same => absurd same (ne_of_lt strict)⟩
    · rw [equal] at less
      cases less
  · have same := number_eq_of_equal left right faithful equal
    refine ⟨?_, fun _ => same⟩
    rcases cases with exactly | ⟨-, standing, standing'⟩
    · exact le_of_eq (compare_eq_iff_eq.mp (Option.some.inj (exactly.symm.trans equal)))
    · rw [standing, standing', same]

theorem number_le_of_atMost (left : Reads a p s) (right : Reads b q t)
    (without : ¬BesideDecimal a b) (faithful : Faithful a b) (atMost : AtMost a b) : p ≤ q := by
  rcases atMost with less | equal
  · rcases order_cases left.number right.number without with exactly | equal
    · exact le_of_lt (compare_lt_iff_lt.mp (Option.some.inj (exactly.symm.trans less)))
    · rw [equal] at less
      cases less
  · exact le_of_eq (number_eq_of_equal left right faithful equal)

/-- What stands for integers and doubles is in their order. -/
theorem standIn_le_of_number_le (left : Reads a p s) (right : Reads b q t)
    (without : ¬BesideDecimal a b) (ordered : p ≤ q) : s ≤ t := by
  by_cases float : a.kind? = some .float
  · cases a with
    | float x =>
      cases b with
      | float y =>
        exact Binary64.standIn_mono left.number left.standIn right.number right.standIn ordered
      | int n =>
        have value : (n.toInt : ℚ) = q := Option.some.inj right.number
        rw [right.standIn_eq (by simp [kind?]), ← value]
        exact Binary64.standIn_le left.number left.standIn (value ▸ ordered)
      | decimal d => simp [BesideDecimal, kind?] at without
      | _ => cases right.number
    | _ => simp [kind?] at float
  · rw [left.standIn_eq float]
    by_cases float' : b.kind? = some .float
    · cases b with
      | float y =>
        cases a with
        | int n =>
          have value : (n.toInt : ℚ) = p := Option.some.inj left.number
          rw [← value]
          exact Binary64.le_standIn right.number right.standIn (value ▸ ordered)
        | float x => exact absurd rfl float
        | decimal d => simp [BesideDecimal, kind?] at without
        | _ => cases left.number
      | _ => simp [kind?] at float'
    · rwa [right.standIn_eq float']

theorem standIn_le_of_faithful (left : Reads a p s) (right : Reads b q t) (faithful : Faithful a b)
    (atMost : AtMost a b) : s ≤ t := by
  by_cases beside : BesideDecimal a b
  · exact (standIn_le_of_atMost left right beside faithful atMost).1
  · exact standIn_le_of_number_le left right beside
      (number_le_of_atMost left right beside faithful atMost)

end

/-- Less or equal is transitive where no premise takes different numbers for equal. -/
theorem atMost_trans {a b c : Value} {p q r s t u : ℚ} (first : Reads a p s) (second : Reads b q t)
    (third : Reads c r u) (faithful : Faithful a b) (faithful' : Faithful b c)
    (atMost : AtMost a b) (atMost' : AtMost b c) : AtMost a c := by
  have below : s ≤ t := standIn_le_of_faithful first second faithful atMost
  have below' : t ≤ u := standIn_le_of_faithful second third faithful' atMost'
  by_cases ends : BesideDecimal a c
  · exact atMost_of_standIn_le first third ends (le_trans below below')
  · refine atMost_of_number_le first third ends ?_
    by_cases middle : b.kind? = some .decimal
    · -- a double may have passed another one only where all three stand for one number
      by_contra passed
      have back := standIn_le_of_number_le third first (fun beside => ends beside.symm)
        (le_of_not_ge passed)
      have same := (standIn_le_of_atMost first second (.inr middle) faithful atMost).2
        (le_antisymm below (le_trans below' back))
      have same' := (standIn_le_of_atMost second third (.inl middle) faithful' atMost').2
        (le_antisymm below' (le_trans back below))
      exact passed (le_of_eq (same.trans same'))
    · have without : ¬BesideDecimal a b := fun beside =>
        beside.elim (fun decimal => ends (.inl decimal)) middle
      have without' : ¬BesideDecimal b c := fun beside =>
        beside.elim middle (fun decimal => ends (.inr decimal))
      exact le_trans (number_le_of_atMost first second without faithful atMost)
        (number_le_of_atMost second third without' faithful' atMost')

theorem order_isSome {a b : Value} {p q : ℚ} (left : a.toRat? = some p)
    (right : b.toRat? = some q) : (a.order b).isSome := by
  obtain ⟨s, reads⟩ := exists_reads left
  obtain ⟨t, reads'⟩ := exists_reads right
  by_cases beside : BesideDecimal a b
  · rcases order_cases_decimal reads reads' beside with exactly | ⟨equal, -⟩
    · rw [exactly, Option.isSome_some]
    · rw [equal, Option.isSome_some]
  · rcases order_cases left right beside with exactly | equal
    · rw [exactly, Option.isSome_some]
    · rw [equal, Option.isSome_some]

/-- Numbers of all kinds are ordered, and exactly so where both or neither are doubles.
    Less or equal is transitive where no premise takes different numbers for equal. -/
theorem order_transitive {a b c : Value} {p q r : ℚ} (first : a.toRat? = some p)
    (second : b.toRat? = some q) (third : c.toRat? = some r) :
    (a.order b).isSome ∧
      ((a.kind? = some .float ↔ b.kind? = some .float) → a.order b = some (compare p q)) ∧
      (Faithful a b → Faithful b c → AtMost a b → AtMost b c → AtMost a c) := by
  obtain ⟨s, reads⟩ := exists_reads first
  obtain ⟨t, reads'⟩ := exists_reads second
  obtain ⟨u, reads''⟩ := exists_reads third
  exact ⟨order_isSome first second, order_eq_compare first second,
    atMost_trans reads reads' reads''⟩

/-- A decimal close to three tenths between two doubles.  It counts as greater than the first
    double and is less than it. -/
theorem order_transitive_tenths :
    Faithful (float (.finite false 5404319552844596 1020 (by decide +kernel)))
        (decimal ⟨false, 30000000000000001, 17, by decide +kernel⟩) ∧
      Faithful (decimal ⟨false, 30000000000000001, 17, by decide +kernel⟩)
        (float (.finite false 5404319552844597 1020 (by decide +kernel))) ∧
      AtMost (float (.finite false 5404319552844596 1020 (by decide +kernel)))
        (decimal ⟨false, 30000000000000001, 17, by decide +kernel⟩) ∧
      AtMost (decimal ⟨false, 30000000000000001, 17, by decide +kernel⟩)
        (float (.finite false 5404319552844597 1020 (by decide +kernel))) ∧
      AtMost (float (.finite false 5404319552844596 1020 (by decide +kernel)))
        (float (.finite false 5404319552844597 1020 (by decide +kernel))) := by
  have less : (float (.finite false 5404319552844596 1020 (by decide +kernel))).order
      (decimal ⟨false, 30000000000000001, 17, by decide +kernel⟩) = some .lt := by decide +kernel
  have less' : (decimal ⟨false, 30000000000000001, 17, by decide +kernel⟩).order
      (float (.finite false 5404319552844597 1020 (by decide +kernel))) = some .lt := by
    decide +kernel
  have faithful : ∀ {a b : Value}, a.order b = some .lt → Faithful a b := by
    intro a b less equal
    rw [less] at equal
    cases equal
  exact ⟨faithful less, faithful less', .inl less, .inl less',
    (order_transitive rfl rfl rfl).2.2 (faithful less) (faithful less') (.inl less) (.inl less')⟩

/-- Two integers equal one double, and two doubles equal one decimal. -/
theorem order_conflates :
    ((int 9007199254740993).order (float (.ofInt 9007199254740992)) = some .eq ∧
      (float (.ofInt 9007199254740992)).order (int 9007199254740992) = some .eq ∧
      (int 9007199254740993).order (int 9007199254740992) = some .gt) ∧
    ((float (.finite false 5404319552844596 1020 (by decide +kernel))).order
        (decimal ⟨false, 3, 1, by decide⟩) = some .eq ∧
      (decimal ⟨false, 3, 1, by decide⟩).order
        (float (.finite false 5404319552844595 1020 (by decide +kernel))) = some .eq ∧
      (float (.finite false 5404319552844596 1020 (by decide +kernel))).order
        (float (.finite false 5404319552844595 1020 (by decide +kernel))) = some .gt) := by
  decide +kernel

end Value

end RecordFilter
