import RecordFilter.Demo
import RecordFilter.Proofs.Compilation.Calls
import RecordFilter.Proofs.Predicate.Meaning
import RecordFilter.Proofs.Sql.Layout

/-!
# Trees without conditions

The predicate backend has a constructor for "no condition"; the SQL backend takes the empty
text for it, although parts of its texts come from the configuration.  Both end without a
condition for the same built trees, those that record no criterion (`unconditional_iff`).
A comparison with an empty list is a condition like any other.
-/

namespace RecordFilter

namespace Tree

/-- A tree is empty when no group records a criterion. -/
theorem isEmpty_iff {tree : Tree} :
    tree.isEmpty = true ↔ ∀ group ∈ tree.groups, group.recorded = [] := by
  rw [isEmpty, decide_eq_true_iff, criterionCount_eq, List.length_eq_zero_iff,
    List.flatMap_eq_nil_iff]

/-- A well-formed tree unfolds to a vacuous root when it is empty, and only then. -/
theorem WellFormed.isVacuous_root {tree : Tree} (wellFormed : tree.WellFormed) {root : Node}
    (unfolds : tree.Unfolds 0 root) : root.isVacuous = tree.isEmpty := by
  rw [Bool.eq_iff_iff, isEmpty_iff]
  simp only [Node.isVacuous, List.all_eq_true, List.isEmpty_iff,
    wellFormed.mem_groups_of_unfolds unfolds]

end Tree

namespace Criterion

/-- The comparison of a property with the items of an empty list. -/
def oneOfNone (property : Property) : Criterion := ⟨property, .list [], .among⟩

/-- A comparison with an empty list is no absent value and is accepted for every property. -/
theorem make_oneOfNone (property : Property) :
    make property (.list []) .among = .ok (some (oneOfNone property)) := rfl

theorem holds_oneOfNone (property : Property) (record : Record) :
    (oneOfNone property).holds record = false := by
  simp [oneOfNone, holds, Operator.holds, Value.items?]

end Criterion

/-- The condition of a built tree is the identity of a solid backend when the tree is empty,
    and only then. -/
theorem Backend.Solid.isIdentity_root {Condition Parameter Result : Type}
    {backend : Backend Condition Parameter Result} (solid : backend.Solid) {tree : Tree}
    (wellFormed : tree.WellFormed) {root : Node} (unfolds : tree.Unfolds 0 root)
    {parameter : Parameter} (answered : backend.Answers parameter root) :
    backend.isIdentity (backend.assemble parameter root) = tree.isEmpty := by
  rw [solid.isIdentity_assemble (unfolds.proper wellFormed) answered,
    wellFormed.isVacuous_root unfolds]

/-- The predicate of an empty list is a test that no record passes. -/
theorem Predicate.comparison_oneOfNone (property : Property) (parameter : Binding) :
    ∃ condition, Predicate.backend.comparison (.oneOfNone property) parameter = .ok condition ∧
      condition.isAlways = false ∧ ∀ record, condition.evaluate record = false := by
  have checked := Criterion.checked_of_make (Criterion.make_oneOfNone property)
  obtain ⟨label, compared⟩ := comparison_of_checked checked parameter
  exact ⟨_, compared, rfl, Criterion.holds_oneOfNone property⟩

namespace Sql.Config

variable {config : Config}

/-- What is written for a tree is not blank, neither for want of criteria nor otherwise. -/
theorem isBlankText_finish (valid : config.validate = .ok ()) {tree : Tree}
    (wellFormed : tree.WellFormed) {root : Node} (unfolds : tree.Unfolds 0 root) {name : String}
    (answered : config.backend.Answers name root) :
    Text.isBlankText (config.backend.finish (config.backend.assemble name root) name) = false := by
  have solid := solid_backend valid
  have proper := unfolds.proper wellFormed
  simp only [backend]
  split
  · exact (isBlankText_of_validate valid).1
  · rename_i present
    refine (keeps_visible valid).assemble solid proper answered ?_
    rw [← solid.isIdentity_assemble proper answered]
    exact Bool.eq_false_iff.mpr present

/-- For a built tree that can be written it is the same that it records no criterion, that its
    predicate is no condition, and that its SQL condition is empty, so that the text which
    always holds is put in its place.  What is written is never blank.  A comparison with an
    empty list is recorded and keeps both backends from that case: SQL gets the condition
    that never holds, and the predicate a test that no record passes. -/
theorem unconditional_iff (config : Config) (valid : config.validate = .ok ())
    (setting : Setting) (steps : List Step) (source name other text : String)
    (compiled : config.backend.compile (setting.built steps) source name = .ok text) :
    let tree := setting.built steps
    ∃ condition predicate, config.backend.compileRoot tree name = .ok condition ∧
      Predicate.backend.compile tree source other = .ok predicate ∧
      (tree.isEmpty = true ↔ ∀ group ∈ tree.groups, group.recorded = []) ∧
      (predicate.isAlways = true ↔ tree.isEmpty = true) ∧
      (condition = "" ↔ tree.isEmpty = true) ∧
      text = (if condition = "" then config.alwaysTrue else condition) ∧
      Text.isBlankText text = false ∧
      ∀ property : Property,
        Criterion.make property (.list []) .among = .ok (some (.oneOfNone property)) ∧
        (∀ group ∈ tree.groups, .oneOfNone property ∈ group.recorded →
          predicate.isAlways = false ∧ condition ≠ "") ∧
        (∀ parameter,
          config.backend.comparison (.oneOfNone property) parameter = .ok config.alwaysFalse) ∧
        Text.isBlankText config.alwaysFalse = false ∧
        ∀ parameter, ∃ test,
          Predicate.backend.comparison (.oneOfNone property) parameter = .ok test ∧
          test.isAlways = false ∧ ∀ record, test.evaluate record = false := by
  intro tree
  obtain ⟨root, node, unfolds, proper⟩ := Tree.exists_root setting steps
  have wellFormed := setting.wellFormed_built steps
  obtain ⟨answered, finished⟩ := config.backend.compile_eq_ok node proper compiled
  have always := Predicate.solid_backend.isIdentity_root wellFormed unfolds
    (Predicate.answers_of_proper proper (Predicate.backend.parameter source other))
  have empty := (solid_backend valid).isIdentity_root wellFormed unfolds answered
  have nothing : config.backend.assemble name root = "" ↔ tree.isEmpty = true := by
    rw [← empty]
    exact String.isEmpty_iff.symm
  refine ⟨config.backend.assemble name root, _, ?_, Predicate.compile_eq_ok node proper source other,
    Tree.isEmpty_iff, Bool.eq_iff_iff.mp always, nothing, ?_, ?_, ?_⟩
  · rw [Backend.compileRoot, node]
    change config.backend.compileNode name root = _
    rw [config.backend.compileNode_eq name proper, outcome_eq_ok]
    exact ⟨List.findSome?_eq_none_iff.mpr answered, rfl⟩
  · rw [← finished]
    simp only [backend, String.isEmpty_iff]
  · rw [← finished]
    exact isBlankText_finish valid wellFormed unfolds answered
  · intro property
    refine ⟨Criterion.make_oneOfNone property, ?_, fun _ => rfl,
      (isBlankText_of_validate valid).2, Predicate.comparison_oneOfNone property⟩
    intro group present member
    have inhabited : ¬tree.isEmpty = true := by
      intro isEmpty
      have none := Tree.isEmpty_iff.mp isEmpty group present
      rw [none] at member
      cases member
    exact ⟨Bool.eq_false_iff.mpr (mt (Bool.eq_iff_iff.mp always).mp inhabited),
      mt nothing.mp inhabited⟩

/-- A property compared with an empty list in a child group, beside a group that stays
    empty. -/
theorem unconditional_iff_emptyList :
    let steps : List Step := [.openAtRoot .or, .openAtRoot .or,
      .add (.named "Status") (.given (.list [])) .among]
    Config.default.validate = .ok () ∧
      Config.default.backend.compile (Demo.setting.built steps) "User" "u" = .ok "1 = 0" ∧
      ∃ predicate, Predicate.backend.compile (Demo.setting.built steps) "User" "x" =
        .ok predicate ∧ predicate.isAlways = false := by
  intro steps
  have valid : Config.default.validate = .ok () := by decide +kernel
  have compiled : Config.default.backend.compile (Demo.setting.built steps) "User" "u" =
      .ok "1 = 0" := by
    dsimp only [steps]
    decide +kernel
  have inhabited : (Demo.setting.built steps).isEmpty = false := by
    dsimp only [steps]
    decide +kernel
  obtain ⟨_, predicate, -, succeeded, -, always, -⟩ :=
    unconditional_iff Config.default valid Demo.setting steps "User" "u" "x" "1 = 0" compiled
  refine ⟨valid, compiled, predicate, succeeded, ?_⟩
  rw [Bool.eq_iff_iff.mpr always, inhabited]

end Sql.Config

end RecordFilter
