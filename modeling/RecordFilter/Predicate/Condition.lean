/-!
# Conditions

A condition is a test together with a label that shows it.  `always` is "no
condition": it holds for everything and drops out of conjunctions.
-/

namespace RecordFilter

/-- A test on values of a type. -/
inductive Condition (α : Type) where
  | always
  | test (label : String) (eval : α → Bool)

namespace Condition

variable {α : Type}

/-- Whether this is "no condition". -/
def isAlways : Condition α → Bool
  | always => true
  | test .. => false

/-- Whether the condition holds. -/
def evaluate : Condition α → α → Bool
  | always, _ => true
  | test _ eval, x => eval x

/-- How the condition is shown. -/
def label : Condition α → String
  | always => "true"
  | test label _ => label

/-- Both conditions hold. -/
def and : Condition α → Condition α → Condition α
  | always, other => other
  | other, always => other
  | left, right =>
    test ("(" ++ left.label ++ " && " ++ right.label ++ ")")
      fun x => left.evaluate x && right.evaluate x

/-- At least one of the conditions holds. -/
def or : Condition α → Condition α → Condition α
  | always, _ => always
  | _, always => always
  | left, right =>
    test ("(" ++ left.label ++ " || " ++ right.label ++ ")")
      fun x => left.evaluate x || right.evaluate x

/-- A conjunction holds when both sides do. -/
theorem evaluate_and (left right : Condition α) (x : α) :
    (left.and right).evaluate x = (left.evaluate x && right.evaluate x) := by
  cases left <;> cases right <;> simp [and, evaluate]

/-- A disjunction holds when one side does. -/
theorem evaluate_or (left right : Condition α) (x : α) :
    (left.or right).evaluate x = (left.evaluate x || right.evaluate x) := by
  cases left <;> cases right <;> simp [or, evaluate]

/-- A conjunction is no condition when neither side is one. -/
theorem isAlways_and (left right : Condition α) :
    (left.and right).isAlways = (left.isAlways && right.isAlways) := by
  cases left <;> cases right <;> rfl

/-- A disjunction is no condition when some side is none. -/
theorem isAlways_or (left right : Condition α) :
    (left.or right).isAlways = (left.isAlways || right.isAlways) := by
  cases left <;> cases right <;> rfl

end Condition

end RecordFilter
