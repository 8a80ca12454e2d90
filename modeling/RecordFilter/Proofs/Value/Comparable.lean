import RecordFilter.Proofs.Acceptance
import RecordFilter.Proofs.Value.Order

/-!
# Accepted criteria compare comparable values

`Operator.accepts` looks at the declared kind of a property and `Value.order` at the value
that is read from it.  For the kinds that say what is read the two fit together: whatever is
accepted can be compared (`accepts_comparable`), so a criterion never fails for the kinds of
its values.
-/

namespace RecordFilter

namespace Value

/-- Whether this is the double "not a number". -/
def isNaN : Value → Bool
  | float .nan => true
  | _ => false

/-- Values of one kind, or numbers of any kinds. -/
def Comparable (left right : Value) : Prop :=
  left.kind? = right.kind? ∨ left.isNumeric = true ∧ right.isNumeric = true

theorem exists_number {value : Value} (numeric : value.isNumeric = true)
    (number : value.isNaN = false) : ∃ p, value.toRat? = some p := by
  cases value with
  | int n => exact ⟨_, rfl⟩
  | decimal d => exact ⟨_, rfl⟩
  | float x =>
    cases x with
    | nan => simp [isNaN] at number
    | infinity negative => exact ⟨_, rfl⟩
    | finite negative significand exponent canonical => exact ⟨_, rfl⟩
  | _ => simp [isNumeric, kind?, Kind.isNumeric] at numeric

theorem order_nan_left (value : Value) : (float .nan).order value = none := by
  cases value <;> rfl

theorem order_nan_right (value : Value) : value.order (float .nan) = none := by
  have unplaced : ∀ x : Binary64, x.order .nan = none := by
    intro x
    unfold Binary64.order
    cases x.position <;> rfl
  cases value with
  | float x => exact unplaced x
  | int n => exact unplaced (.ofInt n.toInt)
  | decimal d => exact unplaced d.toBinary64
  | _ => rfl

theorem eq_nan_of_isNaN {value : Value} (nan : value.isNaN = true) : value = float .nan := by
  cases value with
  | float x =>
    cases x with
    | nan => rfl
    | _ => simp [isNaN] at nan
  | _ => simp [isNaN] at nan

theorem order_isSome_of_kind {left right : Value} (same : left.kind? = right.kind?)
    (other : left.isNumeric = false) (present : left.isNull = false) (single : right.isList = false)
    (graded : right.isBool = false) : (left.order right).isSome := by
  cases left with
  | null => simp [isNull] at present
  | int | float | decimal => simp [isNumeric, kind?, Kind.isNumeric] at other
  | bool =>
    cases right with
    | bool => simp [isBool] at graded
    | _ => simp [kind?] at same
  | list =>
    cases right with
    | list => simp [isList] at single
    | _ => simp [kind?] at same
  | text =>
    cases right with
    | text => rfl
    | _ => simp [kind?] at same
  | dateTime =>
    cases right with
    | dateTime => rfl
    | _ => simp [kind?] at same
  | uuid =>
    cases right with
    | uuid => rfl
    | _ => simp [kind?] at same

section

variable {left right : Value}

theorem order_isSome_of_comparable (comparable : left.Comparable right)
    (present : left.isNull = false) (single : right.isList = false)
    (graded : right.isBool = false) (number : left.isNaN = false) (number' : right.isNaN = false) :
    (left.order right).isSome := by
  by_cases numeric : left.isNumeric = true ∧ right.isNumeric = true
  · obtain ⟨p, known⟩ := exists_number numeric.1 number
    obtain ⟨q, known'⟩ := exists_number numeric.2 number'
    exact order_isSome known known'
  · have same : left.kind? = right.kind? := comparable.resolve_right numeric
    have alike : left.isNumeric = right.isNumeric := by
      unfold isNumeric
      rw [same]
    have other : left.isNumeric = false := by
      rw [← alike, and_self, Bool.not_eq_true] at numeric
      exact numeric
    exact order_isSome_of_kind same other present single graded

/-- Comparable values are ordered unless one is "not a number" or their kind has no order. -/
theorem order_eq_none_iff (comparable : left.Comparable right) (present : left.isNull = false)
    (single : right.isList = false) (graded : right.isBool = false) :
    left.order right = none ↔ left.isNaN = true ∨ right.isNaN = true := by
  constructor
  · intro unordered
    by_contra numbers
    rw [not_or, Bool.not_eq_true, Bool.not_eq_true] at numbers
    have ordered :=
      order_isSome_of_comparable comparable present single graded numbers.1 numbers.2
    rw [unordered] at ordered
    cases ordered
  · rintro (nan | nan)
    · rw [eq_nan_of_isNaN nan]
      exact order_nan_left right
    · rw [eq_nan_of_isNaN nan]
      exact order_nan_right left

end

end Value

/-- What a kind admits is comparable with a value of the kind. -/
theorem Kind.comparable_of_admits {kind : Kind} {actual expected : Value} (single : kind ≠ .list)
    (declared : kind ≠ .any) (own : actual.kind? = some kind) (present : expected.isNull = false)
    (admitted : kind.admits expected = true) : actual.Comparable expected := by
  unfold Kind.admits at admitted
  cases other : expected.kind? with
  | none =>
    cases expected with
    | null => simp [Value.isNull] at present
    | _ => simp [Value.kind?] at other
  | some other' =>
    simp only [other, Bool.or_eq_true, beq_iff_eq, Bool.and_eq_true] at admitted
    rcases admitted with ((list | any) | same) | numeric
    · exact absurd list single
    · exact absurd any declared
    · left
      rw [own, other, same]
    · right
      simp only [Value.isNumeric, own, other]
      exact ⟨numeric.2, numeric.1⟩

namespace Operator

/-- Where the values are ordered, an ordering fails because its opposite holds. -/
theorem holds_eq_not_opposite {actual expected : Value} {outcome : Ordering}
    (present : actual.isNull = false) (known : actual.order expected = some outcome) :
    lessThan.holds actual expected = !greaterThanOrEqual.holds actual expected ∧
      greaterThan.holds actual expected = !lessThanOrEqual.holds actual expected := by
  simp only [holds, present, known, Bool.not_false, Bool.true_and]
  cases outcome <;> decide

/-- What an operator accepts can be compared with every value of the property's kind.  Unless a
    side is "not a number" an ordering has exactly one outcome, so it fails only because its
    opposite holds.  Equality and membership are asked of values of one kind or of numbers,
    patterns of texts. -/
theorem accepts_comparable {operator : Operator} {kind : Kind} {actual expected : Value}
    (single : kind ≠ .list) (declared : kind ≠ .any) (own : actual.kind? = some kind)
    (present : expected.isNull = false) (accepted : operator.accepts kind expected = .ok ()) :
    (operator.isOrdering = true →
        (actual.order expected = none ↔ actual.isNaN = true ∨ expected.isNaN = true) ∧
        (actual.isNaN = false → expected.isNaN = false →
          (∃! outcome, actual.order expected = some outcome) ∧
            lessThan.holds actual expected = !greaterThanOrEqual.holds actual expected ∧
            greaterThan.holds actual expected = !lessThanOrEqual.holds actual expected)) ∧
      (operator = .equal → actual.Comparable expected) ∧
      (operator = .among → ∃ items, expected = .list items ∧
        ∀ item ∈ items, item.isNull = false → actual.Comparable item) ∧
      (operator.isPattern = true → ∃ subject needle, actual = .text subject ∧
        expected = .text needle) := by
  refine ⟨?_, ?_, ?_, ?_⟩
  · intro ordering
    have plain : operator ≠ .among ∧ operator.isPattern = false := by
      cases operator <;> simp [isOrdering] at ordering <;> simp [isPattern]
    obtain ⟨lone, graded, admitted⟩ := accepts_comparison plain.1 plain.2 accepted
    have comparable := Kind.comparable_of_admits single declared own present admitted
    have actualPresent : actual.isNull = false := by
      cases actual <;> simp [Value.kind?] at own <;> rfl
    have unordered := Value.order_eq_none_iff comparable actualPresent lone (graded ordering)
    refine ⟨unordered, ?_⟩
    intro number number'
    cases known : actual.order expected with
    | none =>
      rcases unordered.mp known with nan | nan
      · rw [number] at nan
        cases nan
      · rw [number'] at nan
        cases nan
    | some outcome =>
      exact ⟨⟨outcome, rfl, fun other same => (Option.some.inj same).symm⟩,
        holds_eq_not_opposite actualPresent known⟩
  · rintro rfl
    obtain ⟨-, -, admitted⟩ := accepts_comparison (by decide) (by decide) accepted
    exact Kind.comparable_of_admits single declared own present admitted
  · rintro rfl
    obtain ⟨items, rfl, each⟩ := accepts_among accepted
    exact ⟨items, rfl, fun item member present =>
      Kind.comparable_of_admits single declared own present (each item member).2⟩
  · intro pattern
    have pattern' : operator = .contains ∨ operator = .startsWith := by
      simpa [isPattern] using pattern
    obtain ⟨textual, needle, rfl⟩ := accepts_pattern pattern' accepted
    have text : kind = .text := textual.resolve_right declared
    cases actual with
    | text subject => exact ⟨subject, needle, rfl, rfl⟩
    | _ => simp [Value.kind?, text] at own

/-- A decimal against an infinity, and an integer among an absent value, a double and a
    decimal. -/
theorem accepts_comparable_mixed :
    (lessThan.accepts .decimal (.float (.infinity false)) = .ok () ∧
      ∃! outcome, (Value.decimal ⟨false, 3, 1, by decide⟩).order (.float (.infinity false)) =
        some outcome) ∧
    (among.accepts .int (.list [.null, .float .nan, .decimal ⟨false, 3, 1, by decide⟩]) = .ok () ∧
      (Value.int 7).Comparable (.float .nan) ∧
      (Value.int 7).Comparable (.decimal ⟨false, 3, 1, by decide⟩)) := by
  have accepted : lessThan.accepts .decimal (.float (.infinity false)) = .ok () := rfl
  have accepted' : among.accepts .int (.list [.null, .float .nan,
      .decimal ⟨false, 3, 1, by decide⟩]) = .ok () := rfl
  have own : (Value.decimal ⟨false, 3, 1, by decide⟩).kind? = some .decimal := rfl
  have own' : (Value.int 7).kind? = some .int := rfl
  have ordered := (accepts_comparable (by decide) (by decide) own rfl accepted).1 rfl
  obtain ⟨items, list, each⟩ :=
    (accepts_comparable (by decide) (by decide) own' rfl accepted').2.2.1 rfl
  cases list
  exact ⟨⟨accepted, (ordered.2 rfl rfl).1⟩, accepted', each _ (by simp) rfl, each _ (by simp) rfl⟩

end Operator

end RecordFilter
