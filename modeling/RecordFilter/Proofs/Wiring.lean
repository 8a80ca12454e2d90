import Mathlib.Data.List.Forall2
import RecordFilter.Proofs.Atomicity
import RecordFilter.Proofs.Outcome

/-!
# Wiring

Wiring goes through a list of properties and adds a criterion for each that the filter has
a value for.  `Setting.Wires` says which criterion that is, and `Setting.WiresAll` what
becomes of a list: properties without a criterion are skipped, the others add theirs in
order.  `Step.wire_adds_in_order` says that wiring never fails, adds just that to the group
of the cursor, and that names are wired like the properties they resolve to.
-/

namespace RecordFilter

/-! ## One property -/

/-- The operator that fits a property and a value of the filter. -/
inductive Property.FitsWith (property : Property) (value : Value) : Operator → Prop
  | list : value.isList = true → FitsWith property value .among
  | text : value.isList = false → property.kind = .text → FitsWith property value .contains
  | other : value.isList = false → property.kind ≠ .text → FitsWith property value .equal

/-- The criterion that wiring adds for a property: the filter type declares a property of
    this name, the filter holds a value there, and the operator that fits takes it. -/
structure Setting.Wires (setting : Setting) (property : Property) (criterion : Criterion) :
    Prop where
  compares : criterion.property = property
  declared : ∃ source, (PropertyChoice.named property.name).Denotes setting.filterType source ∧
    criterion.value = source.get setting.filter
  present : criterion.value.isNull = false
  fits : property.FitsWith criterion.value criterion.operator
  accepted : criterion.operator.accepts property.kind criterion.value = .ok ()

/-- What wiring adds for a list of properties, in order. -/
inductive Setting.WiresAll (setting : Setting) : List Property → List Criterion → Prop
  | nil : WiresAll setting [] []
  | wired {property : Property} {criterion : Criterion} {properties : List Property}
    {criteria : List Criterion} : setting.Wires property criterion →
      WiresAll setting properties criteria →
        WiresAll setting (property :: properties) (criterion :: criteria)
  | skipped {property : Property} {properties : List Property} {criteria : List Criterion} :
    (∀ criterion, ¬setting.Wires property criterion) →
      WiresAll setting properties criteria → WiresAll setting (property :: properties) criteria

namespace Setting

variable {setting : Setting}

theorem fitsWith_iff {property : Property} {value : Value} {operator : Operator} :
    property.FitsWith value operator ↔ wiringOperator property value = operator := by
  unfold wiringOperator Operator.defaultFor Kind.isText
  constructor
  · rintro (list | ⟨single, textual⟩ | ⟨single, other⟩)
    · simp [list]
    · simp [single, textual]
    · simp [single, other]
  · rintro rfl
    cases list : value.isList with
    | true => exact .list list
    | false =>
      by_cases textual : property.kind = .text
      · simpa [textual] using Property.FitsWith.text list textual
      · simpa [textual] using Property.FitsWith.other list textual

theorem property?_eq_some {schema : Schema} {name : String} {property : Property} :
    schema.property? name = some property ↔
      (PropertyChoice.named name).Denotes schema property := by
  rw [← PropertyChoice.resolve_eq_ok, PropertyChoice.resolve]
  cases schema.property? name <;> simp

theorem wireOne_eq_ok {property : Property} {criterion : Criterion} :
    setting.wireOne property = some (.ok criterion) ↔ setting.Wires property criterion := by
  have step : setting.wireOne property = some (.ok criterion) ↔
      ∃ source, setting.filterType.property? property.name = some source ∧
        Criterion.make property (source.get setting.filter)
          (wiringOperator property (source.get setting.filter)) = .ok (some criterion) := by
    rw [wireOne]
    cases setting.filterType.property? property.name with
    | none => simp
    | some source =>
      simp only [Option.some.injEq, exists_eq_left']
      cases Criterion.make property (source.get setting.filter)
        (wiringOperator property (source.get setting.filter)) with
      | error e => simp
      | ok criterion? => simp
  rw [step]
  constructor
  · rintro ⟨source, found, made⟩
    obtain ⟨present, accepted, rfl⟩ := Criterion.make_eq_some.mp made
    exact ⟨rfl, ⟨source, property?_eq_some.mp found, rfl⟩, present, fitsWith_iff.mpr rfl, accepted⟩
  · rintro ⟨same, ⟨source, declared, value⟩, present, fits, accepted⟩
    refine ⟨source, property?_eq_some.mpr declared, Criterion.make_eq_some.mpr ?_⟩
    rw [← value, fitsWith_iff.mp fits]
    refine ⟨present, accepted, ?_⟩
    cases criterion
    cases same
    rfl

/-! ## A list of properties -/

theorem wired_cons_of_wires {property : Property} {criterion : Criterion}
    (wires : setting.Wires property criterion) (rest : List Property) :
    setting.wired (property :: rest) = criterion :: setting.wired rest := by
  simp [wired, wireOne_eq_ok.mpr wires]

theorem wired_cons_of_not {property : Property}
    (nothing : ∀ criterion, ¬setting.Wires property criterion) (rest : List Property) :
    setting.wired (property :: rest) = setting.wired rest := by
  cases outcome : setting.wireOne property with
  | none => simp [wired, outcome]
  | some answer =>
    cases answer with
    | ok criterion => exact absurd (wireOne_eq_ok.mp outcome) (nothing criterion)
    | error refusal => simp [wired, outcome]

/-- The criteria that are wired are those that the properties call for. -/
theorem wiresAll_wired (properties : List Property) :
    setting.WiresAll properties (setting.wired properties) := by
  induction properties with
  | nil => exact .nil
  | cons property rest ih =>
    by_cases wires : ∃ criterion, setting.Wires property criterion
    · obtain ⟨criterion, wires⟩ := wires
      rw [wired_cons_of_wires wires]
      exact .wired wires ih
    · rw [not_exists] at wires
      rw [wired_cons_of_not wires]
      exact .skipped wires ih

theorem WiresAll.eq_wired {properties : List Property} {criteria : List Criterion}
    (each : setting.WiresAll properties criteria) : criteria = setting.wired properties := by
  induction each with
  | nil => rfl
  | wired wires _ ih => rw [wired_cons_of_wires wires, ih]
  | skipped nothing _ ih => rw [wired_cons_of_not nothing, ih]

theorem wiresAll_iff {properties : List Property} {criteria : List Criterion} :
    setting.WiresAll properties criteria ↔ criteria = setting.wired properties :=
  ⟨WiresAll.eq_wired, fun same => same ▸ wiresAll_wired properties⟩

end Setting

/-! ## Steps that wire -/

/-- The group of the cursor takes in criteria at its end, and nothing else changes. -/
structure Building.Appends (criteria : List Criterion) (b b' : Building) : Prop where
  cursor : b'.cursor = b.cursor
  here : ∃ group, b.current? = some group ∧
    b'.current? = some { group with criteria := group.criteria ++ criteria }
  elsewhere : ∀ i ≠ b.cursor, b'.tree.group? i = b.tree.group? i

theorem Building.appends_wire {setting : Setting} {b : Building} (wellFormed : b.WellFormed)
    (properties : List Property) :
    b.Appends (setting.wired properties) (setting.wire b properties).1 := by
  obtain ⟨group, found⟩ := Tree.exists_group wellFormed.cursor
  rw [Setting.wire_eq]
  refine ⟨rfl, ⟨group, found, ?_⟩, ?_⟩
  · change (b.tree.modify b.cursor _).group? b.cursor = _
    rw [Tree.group?_modify, found]
    simp [Group.extend]
  · intro i other
    change (b.tree.modify b.cursor _).group? i = _
    rw [Tree.group?_modify]
    simp [other.symm]

/-- Of names that are looked up one after the other, the first that is unknown counts. -/
theorem PropertyChoice.mapM_resolve (schema : Schema) (names : List String) :
    (∃ before name after, names = before ++ name :: after ∧
      (∀ known ∈ before, ¬(named known).Unknown schema) ∧ (named name).Unknown schema ∧
      names.mapM (fun name => (named name).resolve schema) =
        .error (.invalidProperty schema.name name)) ∨
    ∃ properties, List.Forall₂ (fun name property => (named name).Denotes schema property)
        names properties ∧
      names.mapM (fun name => (named name).resolve schema) = .ok properties := by
  have failures := failureOf_mapM (fun name => (named name).resolve schema) names
  cases looked : names.mapM fun name => (named name).resolve schema with
  | ok properties =>
    refine .inr ⟨properties, (forall₂_of_mapM looked).imp ?_, rfl⟩
    exact fun name property resolved => resolve_eq_ok.mp resolved
  | error e =>
    rw [looked, failureOf_error, eq_comm, List.findSome?_eq_some_iff] at failures
    obtain ⟨before, name, after, split, failed, earlier⟩ := failures
    obtain ⟨other, same, undeclared, rfl⟩ := resolve_eq_error.mp (failureOf_eq_some.mp failed)
    cases same
    refine .inl ⟨before, name, after, split, ?_, ⟨name, rfl, undeclared⟩, rfl⟩
    rintro known member ⟨other, same, unknown⟩
    cases same
    have resolved := earlier known member
    rw [failureOf_eq_some.mpr (resolve_eq_error.mpr ⟨known, rfl, unknown, rfl⟩)] at resolved
    cases resolved

namespace Step

/-- In every reachable state wiring a list of properties succeeds and has the group of the
    cursor take in, in order, one criterion for each property that the filter has a fitting
    value for; carried out property by property it does the same.  Wiring everything is
    wiring the properties of the source.  Wiring names fails with the first that the source
    does not declare and adds nothing, or is wiring the properties they denote. -/
theorem wire_adds_in_order (setting : Setting) (steps : List Step) :
    let b := run setting steps .start
    (∀ properties, ∃ b' new criteria, (wire properties).apply setting b = .ok (b', new) ∧
      (∀ events, ((wire properties).perform setting).run ⟨b, events⟩ =
        .ok () ⟨b', events ++ new⟩) ∧
      (∀ listed, setting.WiresAll properties listed ↔ listed = criteria) ∧
      b.Appends criteria b') ∧
    wireAll.apply setting b = (wire setting.source.properties).apply setting b ∧
    ∀ names,
      (∃ before name after, names = before ++ name :: after ∧
        (∀ known ∈ before, ¬(PropertyChoice.named known).Unknown setting.source) ∧
        (PropertyChoice.named name).Unknown setting.source ∧
        let e := .invalidProperty setting.source.name name
        (wireNames names).apply setting b = .error e ∧
          ∀ events, ((wireNames names).perform setting).run ⟨b, events⟩ = .error e ⟨b, events⟩) ∨
      ∃ properties,
        List.Forall₂ (fun name property =>
          (PropertyChoice.named name).Denotes setting.source property) names properties ∧
        (wireNames names).apply setting b = (wire properties).apply setting b := by
  intro b
  have wellFormed : b.WellFormed := wellFormed_run Building.wellFormed_start steps
  refine ⟨?_, rfl, ?_⟩
  · intro properties
    refine ⟨_, _, setting.wired properties, rfl, ?_, fun listed => Setting.wiresAll_iff,
      Building.appends_wire wellFormed properties⟩
    intro events
    exact run_perform (wire properties) wellFormed
  · intro names
    rcases PropertyChoice.mapM_resolve setting.source names with
      ⟨before, name, after, split, known, unknown, failed⟩ | ⟨properties, denoted, resolved⟩
    · have fails : (wireNames names).apply setting b =
          .error (.invalidProperty setting.source.name name) := by
        rw [apply, failed]
        rfl
      refine .inl ⟨before, name, after, split, known, unknown, fails, ?_⟩
      intro events
      rw [run_perform (wireNames names) wellFormed, fails]
      rfl
    · refine .inr ⟨properties, denoted, ?_⟩
      simp only [apply, resolved]
      rfl

end Step

end RecordFilter
