import RecordFilter.Proofs.WellFormed

/-!
# What an accepted criterion looks like

`Operator.accepts` decides by operator, kind and value.  Read backwards, acceptance
leaves three forms: a list of single values under `among`, a text under a pattern
operator, and a single value under a comparison.
-/

namespace RecordFilter

namespace Operator

variable {operator : Operator} {kind : Kind} {value : Value}

theorem accepts_among (accepted : among.accepts kind value = .ok ()) :
    ∃ items, value = .list items ∧
      ∀ item ∈ items, item.isList = false ∧ kind.admits item = true := by
  simp only [accepts] at accepted
  split at accepted
  · rename_i items
    split at accepted
    · cases accepted
    · rename_i flat
      split at accepted
      · rename_i admitted
        refine ⟨items, rfl, ?_⟩
        intro item member
        refine ⟨?_, List.all_eq_true.mp admitted item member⟩
        rw [Bool.not_eq_true, List.any_eq_false] at flat
        simpa using flat item member
      · cases accepted
  · cases accepted

theorem accepts_pattern (pattern : operator = .contains ∨ operator = .startsWith)
    (accepted : operator.accepts kind value = .ok ()) :
    (kind = .text ∨ kind = .any) ∧ ∃ text, value = .text text := by
  have both : (if kind ≠ .text ∧ kind ≠ .any then Except.error .textPropertyExpected
      else if value.text?.isNone then Except.error .textValueExpected
      else Except.ok ()) = (Except.ok () : Except Refusal Unit) := by
    rcases pattern with rfl | rfl <;> exact accepted
  split at both
  · cases both
  · rename_i textual
    split at both
    · cases both
    · rename_i present
      refine ⟨by simpa [Classical.or_iff_not_imp_left] using textual, ?_⟩
      cases value with
      | text text => exact ⟨text, rfl⟩
      | _ => simp [Value.text?] at present

theorem accepts_comparison (single : operator ≠ .among) (plain : operator.isPattern = false)
    (accepted : operator.accepts kind value = .ok ()) :
    value.isList = false ∧ (operator.isOrdering = true → value.isBool = false) ∧
      kind.admits value = true := by
  have same : (if value.isList then Except.error .singleExpected
      else if operator.isOrdering ∧ value.isBool then Except.error .unorderedBool
      else if kind.admits value then Except.ok ()
      else Except.error .valueKind) = (Except.ok () : Except Refusal Unit) := by
    cases operator with
    | contains | startsWith => simp [isPattern] at plain
    | among => contradiction
    | _ => exact accepted
  split at same
  · cases same
  · rename_i notList
    split at same
    · cases same
    · rename_i ordered
      split at same
      · rename_i admitted
        rw [Bool.not_eq_true] at notList
        exact ⟨notList, fun ordering => by simpa [ordering] using ordered, admitted⟩
      · cases same

end Operator

/-- The three forms of a checked criterion. -/
theorem Criterion.Checked.form {criterion : Criterion} (checked : criterion.Checked) :
    (criterion.operator = .among ∧ ∃ items, criterion.value = .list items ∧
      ∀ item ∈ items, item.isList = false) ∨
    ((criterion.operator = .contains ∨ criterion.operator = .startsWith) ∧
      ∃ text, criterion.value = .text text) ∨
    (criterion.operator ≠ .among ∧ criterion.operator.isPattern = false ∧
      criterion.value.isList = false) := by
  by_cases among : criterion.operator = .among
  · have accepted := checked.accepted
    rw [among] at accepted
    obtain ⟨items, value, each⟩ := Operator.accepts_among accepted
    exact .inl ⟨among, items, value, fun item member => (each item member).1⟩
  · by_cases pattern : criterion.operator = .contains ∨ criterion.operator = .startsWith
    · exact .inr (.inl ⟨pattern, (Operator.accepts_pattern pattern checked.accepted).2⟩)
    · have plain : criterion.operator.isPattern = false := by
        simpa [Operator.isPattern] using pattern
      exact .inr (.inr ⟨among, plain,
        (Operator.accepts_comparison among plain checked.accepted).1⟩)

end RecordFilter
