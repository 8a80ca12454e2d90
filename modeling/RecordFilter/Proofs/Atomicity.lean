import RecordFilter.Proofs.Session

/-!
# What a step changes

A step that adds a criterion fails for an unknown property, does nothing for an absent
value, fails for a value that the operator refuses, and otherwise has the group of the
cursor gain one criterion.  `Step.apply_atomic` puts this together with what holds of every
step: one that fails changes nothing, and one that succeeds changes one group, beside the
one that it may open.
-/

namespace RecordFilter

/-! ## Adding one criterion -/

namespace PropertyChoice

variable {schema : Schema}

/-- The choice names a property that the type does not declare. -/
def Unknown (schema : Schema) (choice : PropertyChoice) : Prop :=
  ∃ name, choice = .named name ∧ ∀ property ∈ schema.properties, property.name ≠ name

/-- The property that is chosen: a descriptor itself, or the first that the type declares
    with a name. -/
def Denotes (schema : Schema) : PropertyChoice → Property → Prop
  | named name, property => ∃ before after, schema.properties = before ++ property :: after ∧
      property.name = name ∧ ∀ other ∈ before, other.name ≠ name
  | descriptor chosen, property => chosen = property

theorem resolve_eq_ok {choice : PropertyChoice} {property : Property} :
    choice.resolve schema = .ok property ↔ choice.Denotes schema property := by
  cases choice with
  | descriptor chosen => simp [resolve, Denotes]
  | named name =>
    have found : (PropertyChoice.named name).resolve schema = .ok property ↔
        schema.property? name = some property := by
      rw [resolve]
      cases schema.property? name <;> simp
    rw [found, Schema.property?, List.find?_eq_some_iff_append, Denotes]
    simp only [beq_iff_eq, Bool.not_eq_true', beq_eq_false_iff_ne]
    constructor
    · rintro ⟨same, before, after, split, earlier⟩
      exact ⟨before, after, split, same, earlier⟩
    · rintro ⟨before, after, split, same, earlier⟩
      exact ⟨same, before, after, split, earlier⟩

theorem resolve_eq_error {choice : PropertyChoice} {e : FilterError} :
    choice.resolve schema = .error e ↔ ∃ name, choice = .named name ∧
      (∀ property ∈ schema.properties, property.name ≠ name) ∧
      e = .invalidProperty schema.name name := by
  cases choice with
  | descriptor chosen => simp [resolve]
  | named name =>
    rw [resolve]
    cases found : schema.property? name with
    | some property =>
      have declared := List.mem_of_find?_eq_some found
      have same : property.name = name := by simpa using List.find?_some found
      simp only [reduceCtorEq, false_iff]
      rintro ⟨other, equal, undeclared, -⟩
      cases equal
      exact undeclared property declared same
    | none =>
      have undeclared : ∀ property ∈ schema.properties, property.name ≠ name := by
        simpa [Schema.property?] using found
      simp only [Except.error.injEq]
      constructor
      · rintro rfl
        exact ⟨name, rfl, undeclared, rfl⟩
      · rintro ⟨other, equal, -, rfl⟩
        cases equal
        rfl

/-- A choice that is not unknown denotes a property. -/
theorem exists_denotes {choice : PropertyChoice} (known : ¬choice.Unknown schema) :
    ∃ property, choice.Denotes schema property := by
  cases resolved : choice.resolve schema with
  | ok property => exact ⟨property, resolve_eq_ok.mp resolved⟩
  | error e =>
    obtain ⟨name, named, undeclared, -⟩ := resolve_eq_error.mp resolved
    exact absurd ⟨name, named, undeclared⟩ known

end PropertyChoice

namespace Criterion

variable {property : Property} {value : Value} {operator : Operator}

theorem make_of_isNull (absent : value.isNull = true) :
    make property value operator = .ok none := by
  rw [make, if_pos absent]

theorem make_eq_error {e : FilterError} : make property value operator = .error e ↔
    value.isNull = false ∧ ∃ reason, operator.accepts property.kind value = .error reason ∧
      e = .invalidCriterion property.name operator reason.message := by
  rw [make]
  split
  · rename_i absent
    simp [absent]
  · rename_i present
    split
    · rename_i accepted
      simp [accepted]
    · rename_i reason refused
      simp [present, refused, eq_comm]

theorem make_of_accepted (present : value.isNull = false)
    (accepted : operator.accepts property.kind value = .ok ()) :
    make property value operator = .ok (some ⟨property, value, operator⟩) :=
  make_eq_some.mpr ⟨present, accepted, rfl⟩

end Criterion

/-- A criterion comes last in the entry of its collection; a collection without an entry
    gets one at the end. -/
inductive CollectionCriteria.Gains (collection : Collection) (criterion : Criterion) :
    List CollectionCriteria → List CollectionCriteria → Prop
  | known {before after : List CollectionCriteria} {entry : CollectionCriteria} :
    (∀ other ∈ before, other.collection.name ≠ collection.name) →
      entry.collection.name = collection.name →
        Gains collection criterion (before ++ entry :: after)
          (before ++ { entry with criteria := entry.criteria ++ [criterion] } :: after)
  | new {entries : List CollectionCriteria} :
    (∀ entry ∈ entries, entry.collection.name ≠ collection.name) →
      Gains collection criterion entries (entries ++ [⟨collection, [criterion]⟩])

theorem CollectionCriteria.gains_insert (collection : Collection) (criterion : Criterion)
    (entries : List CollectionCriteria) :
    Gains collection criterion entries (insert collection criterion entries) := by
  induction entries with
  | nil => exact .new (by simp)
  | cons entry rest ih =>
    rw [insert]
    split
    · rename_i same
      have first : ∀ other ∈ ([] : List CollectionCriteria),
          other.collection.name ≠ collection.name := by simp
      exact .known first same
    · rename_i other
      generalize insert collection criterion rest = inserted at ih
      cases ih with
      | @known before after found earlier same =>
        have apart : ∀ e ∈ entry :: before, e.collection.name ≠ collection.name :=
          List.forall_mem_cons.mpr ⟨other, earlier⟩
        exact .known apart same
      | new fresh => exact .new (List.forall_mem_cons.mpr ⟨other, fresh⟩)

/-- A group gains a criterion: at the end of its own, or in the entry of a collection. -/
def Group.Gains (collection? : Option Collection) (criterion : Criterion) (before after : Group) :
    Prop :=
  match collection? with
  | none => after = { before with criteria := before.criteria ++ [criterion] }
  | some collection => ∃ entries, after = { before with collections := entries } ∧
      CollectionCriteria.Gains collection criterion before.collections entries

/-- The parts of a step that adds one criterion. -/
structure Adding where
  /-- The type whose property is compared. -/
  schema : Schema
  property : PropertyChoice
  value : ValueChoice
  operator : Operator
  /-- The collection whose elements are compared; none when it is the record itself. -/
  collection? : Option Collection

namespace Step

variable {setting : Setting}

/-- The parts of an adding step. -/
def adding? (setting : Setting) : Step → Option Adding
  | add property value operator => some ⟨setting.source, property, value, operator, none⟩
  | addElement collection element property value operator =>
    some ⟨element, property, value, operator, some collection⟩
  | _ => none

/-- An adding step whose property is known makes the criterion and has the group of the
    cursor gain it. -/
theorem apply_of_denotes {step : Step} {adding : Adding}
    (adds : step.adding? setting = some adding) (b : Building) {property : Property}
    (denotes : adding.property.Denotes adding.schema property) :
    ∃ (skipped added : Event) (gain : Criterion → Group → Group),
      (∀ criterion group, Group.Gains adding.collection? criterion group (gain criterion group)) ∧
      step.apply setting b =
        (Criterion.make property (adding.value.value setting.filter) adding.operator).map fun
          | some criterion => (b.change (gain criterion), [added])
          | none => (b, [skipped]) := by
  have resolved := PropertyChoice.resolve_eq_ok.mpr denotes
  cases step with
  | add choice value operator =>
    cases adds
    rw [apply, resolved]
    exact ⟨_, _, Group.addCriterion, fun _ _ => rfl, rfl⟩
  | addElement collection element choice value operator =>
    cases adds
    rw [apply, resolved]
    exact ⟨_, _, Group.addElementCriterion collection,
      fun criterion group => ⟨_, rfl, CollectionCriteria.gains_insert _ _ _⟩, rfl⟩
  | _ => cases adds

/-- An adding step fails for an unknown property when the name is not declared, and only
    then. -/
theorem apply_eq_invalidProperty {step : Step} {adding : Adding}
    (adds : step.adding? setting = some adding) (b : Building) :
    (∃ e, step.apply setting b = .error e ∧ e.code = .invalidProperty) ↔
      adding.property.Unknown adding.schema := by
  constructor
  · rintro ⟨e, failed, code⟩
    by_contra known
    obtain ⟨property, denotes⟩ := PropertyChoice.exists_denotes known
    obtain ⟨skipped, added, gain, -, applied⟩ := apply_of_denotes adds b denotes
    rw [applied, Except.map_eq_error, Criterion.make_eq_error] at failed
    obtain ⟨-, reason, -, rfl⟩ := failed
    cases code
  · rintro ⟨name, named, undeclared⟩
    have resolved : adding.property.resolve adding.schema =
        .error (.invalidProperty adding.schema.name name) :=
      PropertyChoice.resolve_eq_error.mpr ⟨name, named, undeclared, rfl⟩
    refine ⟨.invalidProperty adding.schema.name name, ?_, rfl⟩
    cases step with
    | add choice value operator =>
      cases adds
      rw [apply, resolved]
      rfl
    | addElement collection element choice value operator =>
      cases adds
      rw [apply, resolved]
      rfl
    | _ => cases adds

/-- With a known property an adding step fails for the criterion when the value is present and
    refused, and only then. -/
theorem apply_eq_invalidCriterion {step : Step} {adding : Adding}
    (adds : step.adding? setting = some adding) (b : Building) {property : Property}
    (denotes : adding.property.Denotes adding.schema property) :
    (∃ e, step.apply setting b = .error e ∧ e.code = .invalidCriterion) ↔
      (adding.value.value setting.filter).isNull = false ∧
        ∃ reason, adding.operator.accepts property.kind (adding.value.value setting.filter) =
          .error reason := by
  obtain ⟨skipped, added, gain, -, applied⟩ := apply_of_denotes adds b denotes
  simp only [applied, Except.map_eq_error, Criterion.make_eq_error]
  constructor
  · rintro ⟨e, ⟨present, reason, refused, -⟩, -⟩
    exact ⟨present, reason, refused⟩
  · rintro ⟨present, reason, refused⟩
    exact ⟨_, ⟨present, reason, refused, rfl⟩, rfl⟩

/-- With a known property and an absent value an adding step changes nothing. -/
theorem apply_of_isNull {step : Step} {adding : Adding}
    (adds : step.adding? setting = some adding) (b : Building) {property : Property}
    (denotes : adding.property.Denotes adding.schema property)
    (absent : (adding.value.value setting.filter).isNull = true) :
    ∃ events, step.apply setting b = .ok (b, events) := by
  obtain ⟨skipped, added, gain, -, applied⟩ := apply_of_denotes adds b denotes
  exact ⟨_, by rw [applied, Criterion.make_of_isNull absent]; rfl⟩

/-- With a known property and a value that is present and accepted, the group of the cursor
    gains one criterion. -/
theorem apply_of_accepted {step : Step} {adding : Adding}
    (adds : step.adding? setting = some adding) {b : Building} (wellFormed : b.WellFormed)
    {property : Property} (denotes : adding.property.Denotes adding.schema property)
    (present : (adding.value.value setting.filter).isNull = false)
    (accepted : adding.operator.accepts property.kind (adding.value.value setting.filter) =
      .ok ()) :
    ∃ b' events before after, step.apply setting b = .ok (b', events) ∧ b'.cursor = b.cursor ∧
      b.current? = some before ∧ b'.current? = some after ∧
      before.Gains adding.collection?
        ⟨property, adding.value.value setting.filter, adding.operator⟩ after := by
  obtain ⟨skipped, added, gain, gains, applied⟩ := apply_of_denotes adds b denotes
  obtain ⟨before, here⟩ := Tree.exists_group wellFormed.cursor
  rw [Criterion.make_of_accepted present accepted] at applied
  refine ⟨_, _, _, _, applied, rfl, here, ?_, gains _ _⟩
  change (b.tree.modify b.cursor _).group? b.cursor = _
  rw [Tree.group?_modify, here]
  simp

/-- A step that succeeds leaves every group as it was, except the one it acts on. -/
theorem group?_after_of_ne (step : Step) {b : Building} {i : Nat}
    (bound : i < b.tree.groups.length) (other : i ≠ step.target b) :
    (step.after setting b).tree.group? i = b.tree.group? i := by
  cases opened : step.opened? with
  | some operator =>
    obtain ⟨group, found⟩ := Tree.exists_group bound
    rw [after_of_opened opened, Tree.group?_addGroup_of_found found, if_neg other.symm, found]
  | none =>
    have still := opened?_eq_none.mp opened
    rw [target_of_not_opens still] at other
    rw [tree_after step b still, Tree.group?_modify]
    simp [other.symm]

/-- In every reachable state an adding step fails for an unknown name, does nothing for an
    absent value, fails for a value that the operator refuses, and otherwise has the group of
    the cursor gain one criterion.  Whatever the step, when it fails nothing was changed or
    reported on the way, and when it succeeds no group but the one it acts on was changed;
    a step that opens a group adds one at the end, without members, and links it there. -/
theorem apply_atomic (setting : Setting) (steps : List Step) :
    let b := run setting steps .start
    let size := b.tree.groups.length
    (∀ (step : Step) (adding : Adding), step.adding? setting = some adding →
      let value := adding.value.value setting.filter
      ((∃ e, step.apply setting b = .error e ∧ e.code = .invalidProperty) ↔
        adding.property.Unknown adding.schema) ∧
      (¬adding.property.Unknown adding.schema →
        ∃ property, adding.property.Denotes adding.schema property ∧
        (value.isNull = true → ∃ events, step.apply setting b = .ok (b, events)) ∧
        (value.isNull = false →
          ((∃ e, step.apply setting b = .error e ∧ e.code = .invalidCriterion) ↔
            ∃ reason, adding.operator.accepts property.kind value = .error reason) ∧
          (adding.operator.accepts property.kind value = .ok () →
            ∃ b' events before after, step.apply setting b = .ok (b', events) ∧
              b'.cursor = b.cursor ∧ b.current? = some before ∧ b'.current? = some after ∧
              before.Gains adding.collection? ⟨property, value, adding.operator⟩ after)))) ∧
    ∀ step : Step,
      (∀ e, step.apply setting b = .error e →
        ∀ events, (step.perform setting).run ⟨b, events⟩ = .error e ⟨b, events⟩) ∧
      ∀ b' new, step.apply setting b = .ok (b', new) →
        (∀ events, (step.perform setting).run ⟨b, events⟩ = .ok () ⟨b', events ++ new⟩) ∧
        b'.tree.groups.length = size + (if step.opens then 1 else 0) ∧
        (∀ i < size, i ≠ step.target b → b'.tree.group? i = b.tree.group? i) ∧
        ∀ operator, step.opened? = some operator →
          b'.cursor = size ∧
          b'.tree.group? size = some (.empty size operator (some (step.target b))) ∧
          b'.tree.group? (step.target b) =
            (b.tree.group? (step.target b)).map (Group.addChild size) := by
  intro b size
  have wellFormed : b.WellFormed := wellFormed_run Building.wellFormed_start steps
  refine ⟨?_, ?_⟩
  · intro step adding adds value
    refine ⟨apply_eq_invalidProperty adds b, ?_⟩
    intro known
    obtain ⟨property, denotes⟩ := PropertyChoice.exists_denotes known
    refine ⟨property, denotes, apply_of_isNull adds b denotes, ?_⟩
    intro present
    refine ⟨?_, apply_of_accepted adds wellFormed denotes present⟩
    rw [apply_eq_invalidCriterion adds b denotes]
    exact and_iff_right present
  · intro step
    refine ⟨?_, ?_⟩
    · intro e failed events
      rw [run_perform step wellFormed, failed]
      rfl
    · intro b' new succeeded
      have after : step.after setting b = b' := by rw [Step.after, succeeded]
      subst after
      refine ⟨?_, length_after step b, fun i bound other => group?_after_of_ne step bound other, ?_⟩
      · intro events
        rw [run_perform step wellFormed, succeeded]
        rfl
      · intro operator opened
        obtain ⟨parent, found⟩ := Tree.exists_group (step.target_lt wellFormed)
        rw [after_of_opened opened]
        refine ⟨rfl, Tree.group?_addGroup_length _ _ _, ?_⟩
        rw [Tree.group?_addGroup_of_found found, found]
        simp [size]

end Step

end RecordFilter
