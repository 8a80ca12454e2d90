import RecordFilter.Converters
import RecordFilter.Proofs.Sql.Rendering

/-!
# What validation promises

Validation judges a pattern by one sample.  That is enough: a pattern that writes one
date-time writes them all (`formatsAll_iff`).  So no configuration that went through
validation makes a tree fail for its date-times (`validate_iff_formatsAll`).
-/

namespace RecordFilter.Sql.Config

variable {config : Config}

/-! ## One sample -/

/-- Any sample tells whether a pattern can write every date-time. -/
theorem formatsAll_iff (sample : DateTime) :
    config.FormatsAll ↔ (Pattern.format? config.datetimeFormat sample).isSome = true := by
  constructor
  · intro formats
    exact formats sample
  · intro written d
    rw [Pattern.isSome_format?] at written ⊢
    exact written

theorem isUsableFormat_iff :
    isUsableFormat config.datetimeFormat = true ↔
      config.datetimeFormat ≠ "" ∧ config.FormatsAll := by
  rw [isUsableFormat, Bool.and_eq_true, ← formatsAll_iff, Bool.not_eq_true',
    String.isEmpty_eq_false_iff]

theorem validate_eq_ok :
    config.validate = .ok () ↔
      Text.isBlankText config.alwaysTrue = false ∧ Text.isBlankText config.alwaysFalse = false ∧
        config.datetimeFormat ≠ "" ∧ config.FormatsAll := by
  rw [← isUsableFormat_iff, validate]
  cases Text.isBlankText config.alwaysTrue with
  | true => simp
  | false =>
    cases Text.isBlankText config.alwaysFalse with
    | true => simp
    | false => cases isUsableFormat config.datetimeFormat <;> simp

/-! ## Where configurations come from -/

/-- The configuration was built, read from a document or from variables, or taken from
    converters that were built. -/
inductive Obtained : Config → Prop
  | options {options config : Config} (built : options.build = .ok config) : Obtained config
  | document {text : String} {config : Config} (read : fromDocument text = .ok config) :
      Obtained config
  | environment {lookup : String → Option String} {config : Config}
      (read : fromVariables lookup = .ok config) : Obtained config
  | converters {options : Config} {converters : Converters}
      (built : Converters.build options = .ok converters) : Obtained converters.config
  | convertersOfEnvironment {lookup : String → Option String} {converters : Converters}
      (read : Converters.fromVariables lookup = .ok converters) : Obtained converters.config

theorem validate_of_build {options : Config} (built : options.build = .ok config) :
    config.validate = .ok () := by
  obtain ⟨⟨⟩, valid, rfl⟩ := Except.map_eq_ok.mp built
  exact valid

theorem validate_of_converters {options : Config} {converters : Converters}
    (built : Converters.build options = .ok converters) :
    converters.config.validate = .ok () := by
  obtain ⟨config, configBuilt, rfl⟩ := Except.map_eq_ok.mp built
  exact validate_of_build configBuilt

/-- Every way to a configuration ends with its validation. -/
theorem Obtained.valid (obtained : config.Obtained) : config.validate = .ok () := by
  cases obtained with
  | options built => exact validate_of_build built
  | document read =>
    unfold fromDocument at read
    split at read
    · exact validate_of_build read
    · cases read
  | environment read =>
    unfold fromVariables at read
    -- the flag is read only where its variable is set; both ways end in `build`
    split at read
    · obtain ⟨_, -, built⟩ := Except.bind_eq_ok.mp read
      exact validate_of_build built
    · obtain ⟨_, -, built⟩ := Except.bind_eq_ok.mp read
      exact validate_of_build built
  | converters built => exact validate_of_converters built
  | convertersOfEnvironment read =>
    obtain ⟨_, -, built⟩ := Except.bind_eq_ok.mp read
    exact validate_of_converters built

/-! ## Why writing fails -/

/-- With a pattern for every date-time a literal fails for its value only. -/
theorem code_of_literal (formats : config.FormatsAll) {value : Value} {e : FilterError}
    (failed : config.literal value = .error e) : e.code = .unrenderableValue := by
  cases value with
  | dateTime d =>
    obtain ⟨moment, written⟩ := Option.isSome_iff_exists.mp (formats d)
    rw [literal, written] at failed
    cases failed
  | float x =>
    rw [literal] at failed
    split at failed
    · cases failed
    · cases failed
      rfl
  | list items =>
    cases failed
    rfl
  | _ => cases failed

/-- The literals of a comparison fail with the code of one of them. -/
theorem code_of_located (formats : config.FormatsAll) {criterion : Criterion}
    {result : Except FilterError String} {e : FilterError}
    (failed : result.mapError (fun cause =>
      (cause.withProperty criterion.property.name).withOperator criterion.operator) = .error e)
    (literals : ∀ cause, result = .error cause →
      ∃ value, config.literal value = .error cause) : e.code = .unrenderableValue := by
  obtain ⟨cause, caused, rfl⟩ := Except.mapError_eq_error.mp failed
  obtain ⟨value, valueFailed⟩ := literals cause caused
  have code := code_of_literal formats valueFailed
  exact code

/-- With a pattern for every date-time a comparison, checked or not, fails for its operator
    or for a value. -/
theorem code_of_comparison (formats : config.FormatsAll) {criterion : Criterion}
    {parameter : String} {e : FilterError}
    (failed : config.comparison criterion parameter = .error e) :
    e.code = .unsupportedOperator ∨ e.code = .unrenderableValue := by
  cases operator : criterion.operator with
  | contains | startsWith =>
    simp only [comparison, operator] at failed
    split at failed
    · cases failed
    · cases failed
      exact .inl rfl
  | among =>
    simp only [comparison, operator] at failed
    split at failed
    · cases failed
    · rename_i items _ _
      rw [← operator] at failed
      refine .inr (code_of_located formats (Except.map_eq_error.mp failed) ?_)
      intro cause caused
      rw [← failureOf_eq_some, failureOf_literals] at caused
      obtain ⟨value, -, valueFailed⟩ := List.exists_of_findSome?_eq_some caused
      exact ⟨value, failureOf_eq_some.mp valueFailed⟩
    · cases failed
      exact .inl rfl
  | _ =>
    simp only [comparison, operator] at failed
    rw [← operator] at failed
    exact .inr (code_of_located formats (Except.map_eq_error.mp failed)
      fun cause caused => ⟨_, caused⟩)

/-- No tree, built or not, fails to compile for its configuration. -/
theorem code_of_compile (formats : config.FormatsAll) {tree : Tree} {source name : String}
    {e : FilterError} (failed : config.backend.compile tree source name = .error e) :
    e.code ≠ .invalidConfiguration := by
  rcases config.backend.compile_eq_error failed with ⟨criterion, parameter, compared⟩ | code
  · rcases code_of_comparison formats compared with code | code <;> simp [code]
  · simp [code]

/-- With conditions that are not blank, validation accepts exactly the patterns that are not
    empty and can write every date-time, though it tries one only.  A configuration that was
    obtained in any of the ways there are is valid, so it never keeps a tree from being
    written. -/
theorem validate_iff_formatsAll (config : Config) :
    (config.validate = .ok () ↔
      Text.isBlankText config.alwaysTrue = false ∧ Text.isBlankText config.alwaysFalse = false ∧
        config.datetimeFormat ≠ "" ∧
        ∀ d, (Pattern.format? config.datetimeFormat d).isSome = true) ∧
    (config.Obtained → ∀ (tree : Tree) (source : String) (name : Option String)
      (e : FilterError), (Converters.mk config).toSql tree source name = .error e →
        e.code ≠ .invalidConfiguration) := by
  refine ⟨validate_eq_ok, fun obtained tree source name e failed => ?_⟩
  obtain ⟨-, -, -, formats⟩ := validate_eq_ok.mp obtained.valid
  exact code_of_compile formats failed

/-- A date-time in a leap second is written, and the number beside it is what fails. -/
theorem validate_iff_formatsAll_leapSecond :
    let config : Config := { default with datetimeFormat := "%G-W%V-%u %T%.f" }
    let leap : DateTime := ⟨2016, 12, 31, 23, 59, 59, 1500000000, by decide⟩
    let property : Property := ⟨"User", "Seen", .dateTime, fun _ => .null⟩
    let criterion : Criterion := ⟨property, .list [.dateTime leap, .float .nan], .among⟩
    let tree : Tree := ⟨[(Group.empty 0 .and none).addCriterion criterion]⟩
    config.build = .ok config ∧
      ∃ e, (Converters.mk config).toSql tree "User" none = .error e ∧
        e.code ≠ .invalidConfiguration := by
  intro config leap property criterion tree
  have built : config.build = .ok config := by decide +kernel
  have failed : failureOf ((Converters.mk config).toSql tree "User" none) ≠ none := by
    decide +kernel
  obtain ⟨e, error⟩ := Option.ne_none_iff_exists'.mp failed
  rw [failureOf_eq_some] at error
  exact ⟨built, e, error, (validate_iff_formatsAll config).2 (.options built) tree "User" none e
    error⟩

end RecordFilter.Sql.Config
