import RecordFilter.Demo
import RecordFilter.Proofs.Acceptance
import RecordFilter.Proofs.Predicate.Meaning
import RecordFilter.Proofs.Time.Pattern
import RecordFilter.Sql.Backend

/-!
# What SQL cannot express

A number that is not finite has no SQL literal.  Given a pattern that can write every
date-time, it is the one thing that keeps a built tree from being written: what an
operator cannot compare was refused before it reached the tree.
-/

namespace RecordFilter

/-- The number that a value is, when that has no literal. -/
def Value.nonFinite? : Value → Option Binary64
  | .float x => if x.isFinite then none else some x
  | _ => none

namespace Criterion

/-- The single values of a criterion: the items of a list, or the value itself. -/
def values (criterion : Criterion) : List Value :=
  criterion.value.items?.getD [criterion.value]

/-- The first number without a literal among the values of a criterion. -/
def nonFinite? (criterion : Criterion) : Option Binary64 :=
  criterion.values.findSome? Value.nonFinite?

/-- A criterion carries a number that is not finite, alone or in a list. -/
def CarriesNonFinite (criterion : Criterion) : Prop :=
  ∃ x : Binary64, x.isFinite = false ∧ .float x ∈ criterion.values

/-- An error that names the property and operator of a criterion. -/
def located (criterion : Criterion) (cause : FilterError) : FilterError :=
  (cause.withProperty criterion.property.name).withOperator criterion.operator

theorem values_of_single {criterion : Criterion} (single : criterion.value.isList = false) :
    criterion.values = [criterion.value] := by
  cases value : criterion.value with
  | list items => simp [value, Value.isList] at single
  | _ => simp [values, value, Value.items?]

theorem nonFinite?_isSome {criterion : Criterion} :
    criterion.nonFinite?.isSome ↔ criterion.CarriesNonFinite := by
  rw [nonFinite?, List.findSome?_isSome_iff]
  constructor
  · rintro ⟨value, member, found⟩
    cases value with
    | float x =>
      cases finite : x.isFinite with
      | true => simp [Value.nonFinite?, finite] at found
      | false => exact ⟨x, finite, member⟩
    | _ => simp [Value.nonFinite?] at found
  · rintro ⟨x, infinite, member⟩
    exact ⟨.float x, member, by simp [Value.nonFinite?, infinite]⟩

theorem nonFinite?_eq_none {criterion : Criterion} :
    criterion.nonFinite? = none ↔ ¬criterion.CarriesNonFinite := by
  rw [← nonFinite?_isSome, Option.not_isSome_iff_eq_none]

end Criterion

namespace Sql

/-- The error for a number without a literal. -/
def nonFiniteError (x : Binary64) : FilterError :=
  .unrenderableValue backendName ("the non-finite number " ++ x.toText .plain)

/-- The error for a date-time that a pattern cannot write. -/
def patternError (pattern : String) (d : DateTime) : FilterError :=
  .invalidConfiguration ("'" ++ pattern ++ "' cannot format date-time " ++ d.toText ' ')

/-- The error for a list in the place of a single value. -/
def listError : FilterError := .unrenderableValue backendName "a list as a single value"

namespace Config

/-- The pattern of the configuration can write every date-time. -/
def FormatsAll (config : Config) : Prop :=
  ∀ d, (Pattern.format? config.datetimeFormat d).isSome

variable {config : Config}

/-- A single value has no literal for one of two reasons. -/
theorem literal_eq_error {value : Value} {e : FilterError} (single : value.isList = false)
    (failed : config.literal value = .error e) :
    (∃ x, e = nonFiniteError x) ∨ ∃ d, e = patternError config.datetimeFormat d := by
  cases value with
  | list items => cases single
  | float x =>
    simp only [literal] at failed
    split at failed
    · cases failed
    · cases failed
      exact .inl ⟨x, rfl⟩
  | dateTime d =>
    simp only [literal] at failed
    split at failed
    · cases failed
    · cases failed
      exact .inr ⟨d, rfl⟩
  | _ => cases failed

/-- With a pattern for every date-time only numbers lack a literal. -/
theorem failureOf_literal (formats : config.FormatsAll) {value : Value}
    (single : value.isList = false) :
    failureOf (config.literal value) = value.nonFinite?.map nonFiniteError := by
  cases value with
  | list items => cases single
  | float x =>
    simp only [literal, Value.nonFinite?]
    split <;> rfl
  | dateTime d =>
    obtain ⟨text, written⟩ := Option.isSome_iff_exists.mp (formats d)
    simp [literal, written, Value.nonFinite?]
  | _ => rfl

/-- Literals fail with the first item that has none. -/
theorem failureOf_literals (items : List Value) :
    failureOf (config.literals items) =
      items.findSome? fun item => failureOf (config.literal item) := by
  rw [literals, failureOf_map, failureOf_mapM]

/-- The values of a checked criterion are single values. -/
theorem isList_of_mem_values {criterion : Criterion} (checked : criterion.Checked) :
    ∀ value ∈ criterion.values, value.isList = false := by
  intro value member
  rcases checked.form with
    ⟨-, items, list, flat⟩ | ⟨-, text, isText⟩ | ⟨-, -, notList⟩
  · rw [Criterion.values, list] at member
    exact flat value member
  · rw [Criterion.values, isText] at member
    rw [List.mem_singleton.mp member]
    rfl
  · rw [Criterion.values_of_single notList, List.mem_singleton] at member
    rwa [member]

/-- A checked comparison fails with the first of its values that has no literal. -/
theorem failureOf_comparison {criterion : Criterion} (checked : criterion.Checked)
    (parameter : String) :
    failureOf (config.comparison criterion parameter) =
      (criterion.values.findSome? fun value => failureOf (config.literal value)).map
        criterion.located := by
  rcases checked.form with
    ⟨operator, items, value, -⟩ | ⟨operator, text, value⟩ | ⟨other, plain, notList⟩
  · have values : criterion.values = items := by rw [Criterion.values, value]; rfl
    rw [values, ← failureOf_literals]
    cases items with
    | nil =>
      simp only [comparison, operator, value, Value.items?]
      rfl
    | cons first rest =>
      simp only [comparison, operator, value, Value.items?, failureOf_map, failureOf_mapError]
      rw [← operator]
      rfl
  · rcases operator with operator | operator <;>
      simp [comparison, operator, value, Criterion.values, Value.items?, Value.text?, literal]
  · rw [Criterion.values_of_single notList, List.findSome?_singleton]
    cases operator : criterion.operator with
    | among => contradiction
    | contains | startsWith => simp [operator, Operator.isPattern] at plain
    | _ =>
      simp only [comparison, operator, failureOf_map, failureOf_mapError]
      rw [← operator]
      rfl

/-- With a pattern for every date-time, a checked comparison fails with the first of
    its values that is not finite. -/
theorem failureOf_comparison_of_formats (formats : config.FormatsAll) {criterion : Criterion}
    (checked : criterion.Checked) (parameter : String) :
    failureOf (config.comparison criterion parameter) =
      criterion.nonFinite?.map fun x => criterion.located (nonFiniteError x) := by
  have literals : (criterion.values.findSome? fun value => failureOf (config.literal value)) =
      criterion.nonFinite?.map nonFiniteError := by
    rw [Criterion.nonFinite?, List.map_findSome?]
    have single := isList_of_mem_values checked
    generalize criterion.values = values at single
    induction values with
    | nil => rfl
    | cons value rest ih =>
      have here := failureOf_literal formats (single value List.mem_cons_self)
      have later := ih fun other member => single other (List.mem_cons_of_mem _ member)
      rw [List.findSome?_cons, List.findSome?_cons, here, later]
      rfl
  rw [failureOf_comparison checked, literals, Option.map_map]
  rfl

/-- What a checked comparison can fail with, whatever the configuration. -/
theorem comparison_eq_error {criterion : Criterion} (checked : criterion.Checked)
    {parameter : String} {e : FilterError}
    (failed : config.comparison criterion parameter = .error e) :
    (∃ x, e = criterion.located (nonFiniteError x)) ∨
      ∃ d, e = criterion.located (patternError config.datetimeFormat d) := by
  have failure := @failureOf_comparison config _ checked parameter
  rw [failed, failureOf_error, eq_comm, Option.map_eq_some_iff] at failure
  obtain ⟨cause, found, rfl⟩ := failure
  obtain ⟨before, value, after, split, literalFailed, -⟩ := List.findSome?_eq_some_iff.mp found
  have member : value ∈ criterion.values := by simp [split]
  have single := isList_of_mem_values checked value member
  have isError : config.literal value = .error cause := failureOf_eq_some.mp literalFailed
  rcases literal_eq_error single isError with ⟨x, rfl⟩ | ⟨d, rfl⟩
  · exact .inl ⟨x, rfl⟩
  · exact .inr ⟨d, rfl⟩

theorem message_nonFiniteError_ne (x : Binary64) :
    (nonFiniteError x).message ≠ listError.message := by
  intro equal
  have texts := congrArg String.toList equal
  simp [nonFiniteError, listError, FilterError.unrenderableValue, FilterError.plain] at texts

theorem message_patternError_ne (pattern : String) (d : DateTime) :
    (patternError pattern d).message ≠ listError.message := by
  intro equal
  have texts := congrArg String.toList equal
  simp [patternError, listError, FilterError.invalidConfiguration,
    FilterError.unrenderableValue, FilterError.plain] at texts

/-- The default pattern can write every date-time. -/
theorem formatsAll_default : Config.default.FormatsAll := by
  intro d
  rw [Pattern.isSome_format?]
  decide +kernel

/-- With a pattern for every date-time, a tree fails to compile with the error for its first
    number that is not finite. -/
theorem compile_eq_error_of_formats (formats : config.FormatsAll) {tree : Tree} {root : Node}
    (node : tree.node? = some root) (proper : root.Proper) {source name : String}
    {e : FilterError} :
    config.backend.compile tree source name = .error e ↔
      (root.recorded.findSome? fun criterion =>
        criterion.nonFinite?.map fun x => criterion.located (nonFiniteError x)) = some e := by
  rw [config.backend.compile_eq node proper, outcome_eq_error,
    config.backend.findSome?_asks fun criterion member parameter =>
      failureOf_comparison_of_formats formats (proper.checked criterion member) parameter]

/-- What a tree can fail to compile with, whatever the configuration. -/
theorem exists_located_of_compile {tree : Tree} {root : Node} (node : tree.node? = some root)
    (proper : root.Proper) {source name : String} {e : FilterError}
    (failed : config.backend.compile tree source name = .error e) :
    ∃ criterion : Criterion, (∃ x, e = criterion.located (nonFiniteError x)) ∨
      ∃ d, e = criterion.located (patternError config.datetimeFormat d) := by
  rw [config.backend.compile_eq node proper, outcome_eq_error] at failed
  obtain ⟨ask, asked, here⟩ := List.exists_of_findSome?_eq_some failed
  have recorded : ask.1 ∈ root.recorded := by
    rw [← config.backend.map_fst_asks name root]
    exact List.mem_map_of_mem asked
  have compared : config.comparison ask.1 ask.2 = .error e := by
    have answer := config.backend.comparison_eq ask.1 ask.2
    rw [here] at answer
    exact answer
  exact ⟨ask.1, comparison_eq_error (proper.checked ask.1 recorded) compared⟩

/-- A built tree always compiles to a predicate.  With a pattern for every date-time it
    fails to compile to SQL exactly when a criterion carries a number that is not finite,
    and the error says that a value cannot be rendered and names the property and the operator
    of the first such criterion in the order of compilation.  Whatever the configuration, no
    operator goes unsupported, no group goes missing and no list stands for a single value. -/
theorem compile_eq_error_iff (config : Config) (formats : config.FormatsAll)
    (setting : Setting) (steps : List Step) (source name : String) :
    let tree := setting.built steps
    ∃ root, tree.Unfolds 0 root ∧
      (∃ predicate, Predicate.backend.compile tree source name = .ok predicate) ∧
      ((∃ e, config.backend.compile tree source name = .error e) ↔
        ∃ group ∈ tree.groups, ∃ criterion ∈ group.recorded, criterion.CarriesNonFinite) ∧
      (∀ e, config.backend.compile tree source name = .error e →
        ∃ before criterion after x, root.recorded = before ++ criterion :: after ∧
          (∀ earlier ∈ before, ¬earlier.CarriesNonFinite) ∧ criterion.CarriesNonFinite ∧
          e.code = .unrenderableValue ∧ e.property = some criterion.property.name ∧
          e.operator = some criterion.operator ∧
          criterion.nonFinite? = some x ∧ e = criterion.located (nonFiniteError x)) ∧
      ∀ (other : Config) (e : FilterError),
        other.backend.compile tree source name = .error e →
          e.code ≠ .unsupportedOperator ∧ e.code ≠ .internal ∧
            e.message ≠ listError.message := by
  intro tree
  obtain ⟨root, node, unfolds, proper⟩ := Tree.exists_root setting steps
  have wellFormed := setting.wellFormed_built steps
  have failed : ∀ e, config.backend.compile tree source name = .error e ↔ _ := fun _ =>
    compile_eq_error_of_formats formats node proper
  refine ⟨root, unfolds, ⟨_, Predicate.compile_eq_ok node proper source name⟩, ?_, ?_, ?_⟩
  · simp only [failed, ← Option.isSome_iff_exists, List.findSome?_isSome_iff, Option.isSome_map,
      Criterion.nonFinite?_isSome, wellFormed.mem_recorded unfolds]
    constructor
    · rintro ⟨criterion, ⟨group, present, member⟩, carries⟩
      exact ⟨group, present, criterion, member, carries⟩
    · rintro ⟨group, present, criterion, member, carries⟩
      exact ⟨criterion, ⟨group, present, member⟩, carries⟩
  · intro e failure
    obtain ⟨before, criterion, after, split, here, none⟩ :=
      List.findSome?_eq_some_iff.mp ((failed e).mp failure)
    obtain ⟨x, found, rfl⟩ := Option.map_eq_some_iff.mp here
    have carries := Criterion.nonFinite?_isSome.mp (Option.isSome_of_eq_some found)
    refine ⟨before, criterion, after, x, split, ?_, carries, rfl, rfl, rfl, found, rfl⟩
    intro earlier member
    exact Criterion.nonFinite?_eq_none.mp (Option.map_eq_none_iff.mp (none earlier member))
  · intro other e failure
    obtain ⟨criterion, ⟨x, rfl⟩ | ⟨d, rfl⟩⟩ := exists_located_of_compile node proper failure
    · exact ⟨nofun, nofun, message_nonFiniteError_ne x⟩
    · exact ⟨nofun, nofun, message_patternError_ne other.datetimeFormat d⟩

/-- Both a list in a child group and a criterion of the root carry a number that is not finite.
    The root's comes first, though it was added last. -/
theorem compile_eq_error_infinity :
    let added (name : String) (value : Value) (operator : Operator) : Step :=
      .add (.descriptor ⟨"User", name, .float, fun _ => .null⟩) (.given value) operator
    let steps := [.openGroup .or, added "Score" (.list [.int 1, .float .nan]) .among, .toRoot,
      added "Ratio" (.float (.infinity false)) .greaterThan]
    Config.default.FormatsAll ∧
      ∃ e, Config.default.backend.compile (Demo.setting.built steps) "User" "x" = .error e ∧
        e.code = .unrenderableValue ∧ e.property = some "Ratio" ∧
        e.operator = some .greaterThan := by
  intro added steps
  obtain ⟨root, unfolds, -, fails, first, -⟩ :=
    compile_eq_error_iff Config.default formatsAll_default Demo.setting steps "User" "x"
  let score : Criterion :=
    ⟨⟨"User", "Score", .float, fun _ => .null⟩, .list [.int 1, .float .nan], .among⟩
  let ratio : Criterion :=
    ⟨⟨"User", "Ratio", .float, fun _ => .null⟩, .float (.infinity false), .greaterThan⟩
  have carries : ratio.CarriesNonFinite := ⟨.infinity false, rfl, List.mem_cons_self⟩
  have recorded : root.recorded = [ratio, score] :=
    (Demo.setting.wellFormed_built steps).read_root unfolds Node.recorded rfl
  obtain ⟨e, failed⟩ := fails.mpr ⟨_, List.mem_cons_self, ratio, List.mem_cons_self, carries⟩
  obtain ⟨before, criterion, after, x, split, finite, -, code, property, operator, -⟩ :=
    first e failed
  rw [recorded] at split
  cases before with
  | nil =>
    obtain ⟨rfl, -⟩ := List.cons.inj split
    exact ⟨formatsAll_default, e, failed, code, property, operator⟩
  | cons earlier rest =>
    obtain ⟨rfl, -⟩ := List.cons.inj split
    exact absurd carries (finite ratio List.mem_cons_self)

end Config

end Sql

end RecordFilter
