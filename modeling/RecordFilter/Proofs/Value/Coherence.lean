import RecordFilter.Proofs.Value.Comparable

/-!
# Operators that agree with each other

Equality goes through the order for numbers and through the values themselves for everything
else, and the order has an arm of its own for each pair of kinds and each direction.  The arms
fit together: turning the two sides round reverses the order (`Value.order_swap`), and outside
truth values and lists equality is an outcome of the order (`Value.same_eq_order`).  So the
operators say consistent things about any two values (`Operator.holds_coherent`).
-/

namespace RecordFilter

/-! ## The orders of single kinds -/

theorem Decimal.order_swap (left right : Decimal) : right.order left = (left.order right).swap := by
  rw [order, order]
  exact Std.OrientedCmp.eq_swap

theorem Uuid.order_swap (left right : Uuid) : right.order left = (left.order right).swap := by
  rw [order, order]
  exact Std.OrientedCmp.eq_swap

theorem Uuid.order_eq_eq {left right : Uuid} : left.order right = .eq ↔ left = right := by
  rw [order, compare_eq_iff_eq, Uuid.mk.injEq, Fin.ext_iff]

theorem DateTime.order_swap (left right : DateTime) :
    right.order left = (left.order right).swap := by
  have part : ∀ m n : Nat, compare n m = (compare m n).swap := fun _ _ => Std.OrientedCmp.eq_swap
  have year : compare right.year left.year = (compare left.year right.year).swap :=
    Std.OrientedCmp.eq_swap
  simp only [order, Ordering.swap_then]
  rw [year, part left.month, part left.day, part left.hour, part left.minute, part left.second,
    part left.nanosecond]

theorem DateTime.order_eq_eq {left right : DateTime} : left.order right = .eq ↔ left = right := by
  simp only [order, Ordering.then_eq_eq, compare_eq_iff_eq]
  constructor
  · rintro ⟨year, month, day, hour, minute, second, nanosecond⟩
    cases left
    cases right
    cases year; cases month; cases day; cases hour; cases minute; cases second; cases nanosecond
    rfl
  · rintro rfl
    exact ⟨rfl, rfl, rfl, rfl, rfl, rfl, rfl⟩

namespace Value

/-! ## Both directions -/

/-- Turning the sides round reverses the order, and leaves undefined what is. -/
theorem order_swap (left right : Value) :
    right.order left = (left.order right).map Ordering.swap := by
  cases left with
  | null | bool _ | list _ => cases right <;> rfl
  | int a =>
    cases right with
    | int b => exact congrArg some Std.OrientedCmp.eq_swap
    | decimal b => exact congrArg some (Decimal.order_swap (.ofInt64 a) b)
    | float b => exact Binary64.order_swap (.ofInt a.toInt) b
    | _ => rfl
  | decimal a =>
    cases right with
    | int b => exact congrArg some (a.order_swap (.ofInt64 b))
    | decimal b => exact congrArg some (a.order_swap b)
    | float b =>
      have there : (decimal a).order (float b) = _ := orderDecimalFloat_eq_swap a b
      have back : (float b).order (decimal a) = orderFloatDecimal b a := rfl
      rw [there, back]
      cases orderFloatDecimal b a with
      | none => rfl
      | some outcome => exact congrArg some outcome.swap_swap.symm
    | _ => rfl
  | float a =>
    cases right with
    | int b => exact Binary64.order_swap a (.ofInt b.toInt)
    | decimal b => exact orderDecimalFloat_eq_swap b a
    | float b => exact Binary64.order_swap a b
    | _ => rfl
  | text a =>
    cases right with
    | text b => exact congrArg some Std.OrientedCmp.eq_swap
    | _ => rfl
  | dateTime a =>
    cases right with
    | dateTime b => exact congrArg some (a.order_swap b)
    | _ => rfl
  | uuid a =>
    cases right with
    | uuid b => exact congrArg some (a.order_swap b)
    | _ => rfl

theorem map_swap_beq_eq (order : Option Ordering) :
    (order.map Ordering.swap == some .eq) = (order == some .eq) := by
  cases order with
  | none => rfl
  | some outcome => cases outcome <;> rfl

mutual

theorem identical_comm (left right : Value) : right.identical left = left.identical right := by
  cases left with
  | list items =>
    cases right with
    | list items' => exact identicalLists_comm items items'
    | _ => rfl
  | float x =>
    cases right with
    | float y => simp only [identical, Binary64.order_swap x y, map_swap_beq_eq]
    | _ => rfl
  | decimal d =>
    cases right with
    | decimal d' =>
      simp only [identical, d.order_swap d']
      cases d.order d' <;> rfl
    | _ => rfl
  | null => cases right <;> rfl
  | bool | int | text | dateTime | uuid =>
    cases right <;> first | rfl | exact BEq.comm

theorem identicalLists_comm : ∀ left right : List Value,
    identicalLists right left = identicalLists left right
  | [], [] => rfl
  | [], _ :: _ => rfl
  | _ :: _, [] => rfl
  | left :: lefts, right :: rights => by
    rw [identicalLists, identicalLists, identical_comm left right,
      identicalLists_comm lefts rights]

end

theorem same_comm (left right : Value) : right.same left = left.same right := by
  rw [same, same, Bool.or_comm, Bool.and_comm, order_swap left right, map_swap_beq_eq,
    identical_comm left right]

/-! ## Equality as an outcome -/

theorem eq_null_of_isNull {value : Value} (absent : value.isNull = true) : value = null := by
  cases value with
  | null => rfl
  | _ => cases absent

theorem order_of_isNull {left right : Value} (absent : left.isNull = true ∨ right.isNull = true) :
    left.order right = none := by
  rcases absent with absent | absent
  · rw [eq_null_of_isNull absent]
    rfl
  · rw [eq_null_of_isNull absent]
    cases left <;> rfl

theorem bothTexts_of_isNull {left right : Value} (absent : left.isNull = true ∨ right.isNull = true)
    {test : List Char → List Char → Bool} : bothTexts test left right = false := by
  rcases absent with absent | absent
  · rw [eq_null_of_isNull absent]
    rfl
  · rw [eq_null_of_isNull absent]
    cases left <;> rfl

/-- Where the order tells different values apart, equality is one of its outcomes. -/
theorem beq_eq_order {α : Type} [DecidableEq α] {a b : α} {outcome : Ordering}
    (exactly : outcome = .eq ↔ a = b) : (a == b) = (some outcome == some .eq) := by
  rw [Bool.eq_iff_iff, beq_iff_eq, beq_iff_eq, Option.some.injEq, exactly]

/-- Unless both are truth values or lists, two values are the same when the order says so. -/
theorem same_eq_order {left right : Value}
    (ordered : left.isBool = false ∧ left.isList = false ∨
      right.isBool = false ∧ right.isList = false) :
    left.same right = (left.order right == some .eq) := by
  by_cases absent : left.isNull = true ∨ right.isNull = true
  · rw [same, if_pos (Bool.or_eq_true_iff.mpr absent), order_of_isNull absent]
    rfl
  rw [same, if_neg (mt Bool.or_eq_true_iff.mp absent)]
  by_cases numeric : (left.isNumeric && right.isNumeric) = true
  · rw [if_pos numeric]
  rw [if_neg numeric]
  -- values of different kinds are neither the same nor ordered
  cases left with
  | null => simp [isNull] at absent
  | bool | list =>
    cases right with
    | bool | list => simp [isBool, isList] at ordered
    | _ => rfl
  | int | float | decimal =>
    cases right with
    | int | float | decimal => exact absurd rfl numeric
    | _ => rfl
  | text =>
    cases right with
    | text => exact beq_eq_order Std.LawfulEqCmp.compare_eq_iff_eq
    | _ => rfl
  | dateTime =>
    cases right with
    | dateTime => exact beq_eq_order DateTime.order_eq_eq
    | _ => rfl
  | uuid =>
    cases right with
    | uuid => exact beq_eq_order Uuid.order_eq_eq
    | _ => rfl

/-- Values that are the same are not ordered, or ordered as equal. -/
theorem order_of_same {left right : Value} (same : left.same right = true) :
    left.order right = none ∨ left.order right = some .eq := by
  by_cases ordered : left.isBool = false ∧ left.isList = false
  · right
    simpa [same_eq_order (.inl ordered)] using same
  · left
    cases left with
    | bool | list => cases right <;> rfl
    | _ => exact absurd ⟨rfl, rfl⟩ ordered

end Value

namespace Operator

/-- Whether an outcome of the order makes the operator hold. -/
def decides : Operator → Ordering → Bool
  | equal, .eq | lessThan, .lt | greaterThan, .gt => true
  | lessThanOrEqual, .lt | lessThanOrEqual, .eq => true
  | greaterThanOrEqual, .gt | greaterThanOrEqual, .eq => true
  | _, _ => false

variable {operator : Operator} {actual expected : Value}

/-- An ordering holds when the values are ordered with an outcome that decides for it. -/
theorem holds_eq_any (ordering : operator.isOrdering = true) :
    operator.holds actual expected = (actual.order expected).any operator.decides := by
  by_cases absent : actual.isNull = true
  · simp [holds, absent, Value.order_of_isNull (.inl absent)]
  · rw [Bool.not_eq_true] at absent
    simp only [holds, absent, Bool.not_false, Bool.true_and]
    cases actual.order expected with
    | none => cases operator <;> first | rfl | cases ordering
    | some outcome => cases operator <;> cases outcome <;> first | rfl | cases ordering

/-- Two orderings are converses when reversed outcomes decide for them alike. -/
theorem holds_converse {converse : Operator} (ordering : operator.isOrdering = true)
    (ordering' : converse.isOrdering = true)
    (reverses : ∀ outcome, operator.decides outcome = converse.decides outcome.swap) :
    operator.holds actual expected = converse.holds expected actual := by
  rw [holds_eq_any ordering, holds_eq_any ordering', Value.order_swap actual expected,
    Option.any_map]
  exact congrArg (Option.any · (actual.order expected)) (funext reverses)

theorem holds_equal : equal.holds actual expected = actual.same expected := by
  cases absent : actual.isNull with
  | true => simp [holds, Value.same, absent]
  | false => simp [holds, absent]

/-- Of the three that exclude each other, the one that holds is decided for by the outcome;
    without an outcome it is equality. -/
theorem decides_of_holds (member : operator ∈ [lessThan, equal, greaterThan])
    (holds : operator.holds actual expected = true) :
    (actual.order expected = none → operator = equal) ∧
      ∀ outcome, actual.order expected = some outcome → operator.decides outcome = true := by
  by_cases ordering : operator.isOrdering = true
  · rw [holds_eq_any ordering] at holds
    constructor
    · intro unordered
      rw [unordered] at holds
      cases holds
    · intro outcome known
      rwa [known] at holds
  · obtain rfl : operator = equal := by
      simp only [List.mem_cons, List.not_mem_nil, or_false] at member
      rcases member with rfl | rfl | rfl <;> first | rfl | exact absurd rfl ordering
    refine ⟨fun _ => rfl, ?_⟩
    intro outcome known
    rw [holds_equal] at holds
    rcases Value.order_of_same holds with unordered | equal
    · rw [known] at unordered
      cases unordered
    · rw [known, Option.some.injEq] at equal
      rw [equal]
      rfl

/-- The operators agree with each other on any two values.  Turning the sides round reverses the
    order and turns each ordering into its converse, and equality is symmetric.  At most one of
    less, equal and greater holds.  Unless both sides are truth values or lists, equality is both
    weak orderings together, and a weak ordering is the strict one or equality.  An absent value
    on either side fails everything but membership. -/
theorem holds_coherent (left right : Value) :
    (right.order left = (left.order right).map Ordering.swap ∧
      right.same left = left.same right ∧
      lessThan.holds left right = greaterThan.holds right left ∧
      lessThanOrEqual.holds left right = greaterThanOrEqual.holds right left) ∧
    (∀ first ∈ [lessThan, equal, greaterThan], ∀ second ∈ [lessThan, equal, greaterThan],
      first.holds left right = true → second.holds left right = true → first = second) ∧
    (left.isBool = false ∧ left.isList = false ∨ right.isBool = false ∧ right.isList = false →
      equal.holds left right =
        (lessThanOrEqual.holds left right && greaterThanOrEqual.holds left right) ∧
      lessThanOrEqual.holds left right =
        (lessThan.holds left right || equal.holds left right)) ∧
    (left.isNull = true ∨ right.isNull = true →
      ∀ operator : Operator, operator ≠ .among → operator.holds left right = false) := by
  refine ⟨⟨Value.order_swap left right, Value.same_comm left right, ?less, ?atMost⟩, ?exclude,
    ?decided, ?absent⟩
  case less => exact holds_converse rfl rfl fun outcome => by cases outcome <;> rfl
  case atMost => exact holds_converse rfl rfl fun outcome => by cases outcome <;> rfl
  case exclude =>
    intro first member second member' holds holds'
    have decided := decides_of_holds member holds
    have decided' := decides_of_holds member' holds'
    cases known : left.order right with
    | none => rw [decided.1 known, decided'.1 known]
    | some outcome =>
      have exclusive : ∀ first ∈ [lessThan, equal, greaterThan],
          ∀ second ∈ [lessThan, equal, greaterThan], first.decides outcome = true →
            second.decides outcome = true → first = second := by
        cases outcome <;> decide
      exact exclusive first member second member' (decided.2 outcome known)
        (decided'.2 outcome known)
  case decided =>
    intro plain
    rw [holds_equal, Value.same_eq_order plain, holds_eq_any rfl, holds_eq_any rfl,
      holds_eq_any rfl]
    rcases left.order right with _ | outcome
    · exact ⟨rfl, rfl⟩
    · cases outcome <;> exact ⟨rfl, rfl⟩
  case absent =>
    intro absent operator single
    cases operator with
    | among => exact absurd rfl single
    | equal => rw [holds_equal, Value.same, if_pos (Bool.or_eq_true_iff.mpr absent)]
    | contains | startsWith =>
      simp only [holds, Value.bothTexts_of_isNull absent, Bool.and_false]
    | _ =>
      rw [holds_eq_any rfl, Value.order_of_isNull absent]
      rfl

end Operator

end RecordFilter
