import RecordFilter.Proofs.WellFormed

/-!
# What steps add

A step opens a group, adds criteria to the group of the cursor, or changes no group at
all.  `Step.additions` lists what it adds and `Step.tree_after` says that nothing else
happens to the tree.  A step is `Idle` when it adds nothing to any tree.
-/

namespace RecordFilter

/-- What a step adds to the group of the cursor: own criteria, and criteria on the
    elements of collections. -/
structure Additions where
  own : List Criterion
  elements : List (Collection × Criterion)

/-- Nothing is added. -/
def Additions.none : Additions := ⟨[], []⟩

/-- The group with additions. -/
def Group.extend (additions : Additions) (group : Group) : Group where
  id := group.id
  operator := group.operator
  criteria := group.criteria ++ additions.own
  children := group.children
  collections := additions.elements.foldl
    (fun entries added => CollectionCriteria.insert added.1 added.2 entries) group.collections
  parent := group.parent

theorem Group.extend_none (group : Group) : group.extend .none = group := by
  simp [extend, Additions.none]

theorem Group.extend_element (collection : Collection) (criterion : Criterion) (group : Group) :
    group.extend ⟨[], [(collection, criterion)]⟩ =
      group.addElementCriterion collection criterion := by
  simp [extend, addElementCriterion]

theorem Tree.modify_extend_none (tree : Tree) (id : Nat) :
    tree.modify id (Group.extend .none) = tree := by
  have same : Group.extend .none = fun group => group := funext Group.extend_none
  rw [same, modify]
  exact congrArg mk (List.modify_id _ _)

/-- Own criteria that are added one by one. -/
theorem Group.foldl_addCriterion (criteria : List Criterion) (group : Group) :
    criteria.foldl (fun group c => group.addCriterion c) group = group.extend ⟨criteria, []⟩ := by
  induction criteria generalizing group with
  | nil => exact group.extend_none.symm
  | cons criterion rest ih =>
    rw [List.foldl_cons, ih]
    simp [extend, addCriterion]

/-- The criterion that is made for a choice of property and of value; none when the
    property is unknown, the value is absent or they cannot be compared. -/
def Setting.chosen (setting : Setting) (schema : Schema) (property : PropertyChoice)
    (value : ValueChoice) (operator : Operator) : Option Criterion :=
  match (property.resolve schema).bind fun property =>
    Criterion.make property (value.value setting.filter) operator with
  | .ok criterion? => criterion?
  | .error _ => none

/-- An absent value makes no criterion. -/
theorem Setting.chosen_of_isNull {setting : Setting} {value : ValueChoice}
    (absent : (value.value setting.filter).isNull = true) (schema : Schema)
    (property : PropertyChoice) (operator : Operator) :
    setting.chosen schema property value operator = none := by
  unfold chosen
  cases property.resolve schema with
  | error e => rfl
  | ok property => simp [Except.bind, Criterion.make, absent]

/-- The criteria that wiring properties adds. -/
def Setting.wired (setting : Setting) (properties : List Property) : List Criterion :=
  (properties.filterMap setting.wireOne).filterMap fun
    | .ok criterion => some criterion
    | .error _ => none

/-- The refusals that wiring properties reports. -/
def Setting.refusals (setting : Setting) (properties : List Property) : List Event :=
  (properties.filterMap setting.wireOne).filterMap fun
    | .ok _ => none
    | .error event => some event

theorem Setting.wire_eq (setting : Setting) (b : Building) (properties : List Property) :
    setting.wire b properties =
      (b.change (Group.extend ⟨setting.wired properties, []⟩),
        setting.refusals properties ++
          [.wired b.cursor setting.source.name setting.filterType.name
            (setting.wired properties).length]) := by
  simp only [wire, Group.foldl_addCriterion]
  rfl

namespace Step

variable {setting : Setting}

/-- What a step adds. -/
def additions (setting : Setting) (tree : Tree) : Step → Additions
  | add property value operator =>
    ⟨(setting.chosen setting.source property value operator).toList, []⟩
  | addElement collection element property value operator =>
    ⟨[], (setting.chosen element property value operator).toList.map (collection, ·)⟩
  | wire properties => ⟨setting.wired properties, []⟩
  | wireAll => ⟨setting.wired setting.source.properties, []⟩
  | wireUnused => ⟨setting.wired (setting.unused tree), []⟩
  | wireNames names =>
    match names.mapM fun name => (PropertyChoice.named name).resolve setting.source with
    | .ok properties => ⟨setting.wired properties, []⟩
    | .error _ => .none
  | openGroup _ | closeGroup | toRoot | goTo _ | openAtRoot _ => .none

/-- Whether a step opens a group. -/
def opens : Step → Bool
  | openGroup _ | openAtRoot _ => true
  | _ => false

/-- The operator of the group that a step opens. -/
def opened? : Step → Option GroupOperator
  | openGroup operator | openAtRoot operator => some operator
  | _ => none

/-- The group that a step acts on: the root for a step that opens a child there, and that of
    the cursor otherwise. -/
def target (b : Building) : Step → Nat
  | openAtRoot _ => 0
  | _ => b.cursor

/-- Whether a step acts on the group of the cursor. -/
def actsHere : Step → Bool
  | closeGroup | toRoot | goTo _ | openAtRoot _ => false
  | _ => true

theorem opened?_isSome (step : Step) : step.opened?.isSome = step.opens := by
  cases step <;> rfl

theorem opens_of_opened {step : Step} {operator : GroupOperator}
    (opened : step.opened? = some operator) : step.opens = true := by
  rw [← opened?_isSome, opened]
  rfl

theorem opened?_eq_none {step : Step} : step.opened? = none ↔ step.opens = false := by
  rw [← opened?_isSome, Option.isSome_eq_false_iff, Option.isNone_iff_eq_none]

theorem target_of_not_opens {step : Step} (still : step.opens = false) (b : Building) :
    step.target b = b.cursor := by
  cases step with
  | openAtRoot operator => cases still
  | _ => rfl

theorem cases_opens (step : Step) : (∃ operator, step = openGroup operator) ∨
    (∃ operator, step = openAtRoot operator) ∨ step.opens = false := by
  cases step <;> simp [opens]

/-- A step that opens a group opens it under the group it acts on, and moves into it. -/
theorem after_of_opened {step : Step} {operator : GroupOperator}
    (opened : step.opened? = some operator) (b : Building) :
    step.after setting b =
      ⟨b.tree.addGroup (step.target b) operator, b.tree.groups.length⟩ := by
  cases step with
  | openGroup operator =>
    cases opened
    rfl
  | openAtRoot operator =>
    cases opened
    rfl
  | _ => cases opened

/-- A step that opens no group adds to the group of the cursor, and changes nothing else
    in the tree. -/
theorem tree_after (step : Step) (b : Building) (still : step.opens = false) :
    (step.after setting b).tree =
      b.tree.modify b.cursor (Group.extend (step.additions setting b.tree)) := by
  have unchanged := (b.tree.modify_extend_none b.cursor).symm
  have wires : ∀ properties, (setting.wire b properties).1.tree =
      b.tree.modify b.cursor (Group.extend ⟨setting.wired properties, []⟩) :=
    fun properties => congrArg (fun wired => wired.1.tree) (setting.wire_eq b properties)
  cases step with
  | add property value operator =>
    simp only [after, apply, additions, Setting.chosen, Building.addCriterion]
    cases property.resolve setting.source with
    | error e => exact unchanged
    | ok property =>
      simp only [Except.bind]
      cases Criterion.make property (value.value setting.filter) operator with
      | error e => exact unchanged
      | ok criterion? =>
        cases criterion? with
        | none => exact unchanged
        | some criterion => rfl
  | addElement collection element property value operator =>
    simp only [after, apply, additions, Setting.chosen, Building.addElementCriterion]
    cases property.resolve element with
    | error e => exact unchanged
    | ok property =>
      simp only [Except.bind]
      cases Criterion.make property (value.value setting.filter) operator with
      | error e => exact unchanged
      | ok criterion? =>
        cases criterion? with
        | none => exact unchanged
        | some criterion =>
          have extended : Group.extend ⟨[], [(collection, criterion)]⟩ =
              Group.addElementCriterion collection criterion :=
            funext (Group.extend_element collection criterion)
          simp [Except.map, Building.change, extended]
  | wire properties => exact wires _
  | wireAll => exact wires _
  | wireUnused => exact wires _
  | wireNames names =>
    simp only [after, apply, additions]
    cases names.mapM fun name => (PropertyChoice.named name).resolve setting.source with
    | error e => exact unchanged
    | ok properties => exact wires properties
  | closeGroup => exact unchanged
  | toRoot => exact unchanged
  | goTo id =>
    simp only [after, apply]
    split <;> exact unchanged
  | openGroup operator => cases still
  | openAtRoot operator => cases still

theorem tree_after_of_none {step : Step} {b : Building} (still : step.opens = false)
    (idle : step.additions setting b.tree = .none) : (step.after setting b).tree = b.tree := by
  rw [tree_after step b still, idle, Tree.modify_extend_none]

/-- A step acts on a group of the tree. -/
theorem target_lt {b : Building} (wellFormed : b.WellFormed) (step : Step) :
    step.target b < b.tree.groups.length := by
  cases step with
  | openAtRoot operator => exact Nat.zero_lt_of_lt wellFormed.cursor
  | _ => exact wellFormed.cursor

/-- A step adds at most one group. -/
theorem length_after (step : Step) (b : Building) : (step.after setting b).tree.groups.length =
    b.tree.groups.length + if step.opens then 1 else 0 := by
  cases opened : step.opened? with
  | some operator =>
    rw [after_of_opened opened, Tree.length_addGroup, if_pos (opens_of_opened opened)]
  | none =>
    have still := opened?_eq_none.mp opened
    rw [tree_after step b still, if_neg (by simp [still])]
    simp [Tree.modify]

/-- A step that records nothing, whatever the tree. -/
def Idle (setting : Setting) (step : Step) : Prop :=
  ∀ tree, step.additions setting tree = .none

/-- Adding an absent value is idle. -/
theorem idle_add {property : PropertyChoice} {value : ValueChoice} {operator : Operator}
    (absent : (value.value setting.filter).isNull = true) :
    (add property value operator).Idle setting := by
  intro tree
  rw [additions, Setting.chosen_of_isNull absent]
  rfl

/-- Adding an absent value to the elements of a collection is idle. -/
theorem idle_addElement {collection : Collection} {element : Schema} {property : PropertyChoice}
    {value : ValueChoice} {operator : Operator}
    (absent : (value.value setting.filter).isNull = true) :
    (addElement collection element property value operator).Idle setting := by
  intro tree
  rw [additions, Setting.chosen_of_isNull absent]
  rfl

/-- Opening a group is idle as long as it stays empty. -/
theorem idle_openGroup (operator : GroupOperator) : (openGroup operator).Idle setting :=
  fun _ => rfl

end Step

end RecordFilter
