import RecordFilter.Proofs.Additions

/-!
# Steps piece by piece

`Step.perform` carries a step out piece by piece, the way it is written: names are looked
up, criteria are checked, events are reported and groups are changed one after the other,
and what was done before an error stays done.  It comes to the same as `Step.apply`
(`run_perform`), so a step that fails did nothing before it failed.
-/

namespace RecordFilter

/-- A building with the events reported on it. -/
structure Session where
  building : Building
  events : List Event

/-- Work on a session.  What was done before an error stays done. -/
abbrev Work (α : Type) := EStateM FilterError Session α

/-- The session after an operation that is done as a whole or not at all. -/
def Session.commit (session : Session) :
    Except FilterError (Building × List Event) → EStateM.Result FilterError Session Unit
  | .ok (building, events) => .ok () ⟨building, session.events ++ events⟩
  | .error e => .error e session

namespace Work

/-- Reports an event. -/
def report (event : Event) : Work Unit :=
  modify fun session => { session with events := session.events ++ [event] }

/-- Changes the building. -/
def change (f : Building → Building) : Work Unit :=
  modify fun session => { session with building := f session.building }

/-- The building as it is now. -/
def building : Work Building := do
  return (← get).building

/-- Goes on with a result, or stops with its error. -/
def demand {α : Type} : Except FilterError α → Work α
  | .ok value => pure value
  | .error e => throw e

/-- Adds a criterion to the group of the cursor unless its value is absent. -/
def addCriterion (property : Property) (value : Value) (operator : Operator) : Work Unit := do
  match ← demand (Criterion.make property value operator) with
  | some criterion =>
    report (.criterionAdded (← building).cursor property.name operator)
    change fun b => b.change (Group.addCriterion criterion)
  | none => report (.criterionSkipped property.name)

/-- Adds a criterion on the elements of a collection unless its value is absent. -/
def addElementCriterion (collection : Collection) (property : Property) (value : Value)
    (operator : Operator) : Work Unit := do
  match ← demand (Criterion.make property value operator) with
  | some criterion =>
    report (.elementCriterionAdded (← building).cursor collection.name property.name operator)
    change fun b => b.change (Group.addElementCriterion collection criterion)
  | none => report (.elementCriterionSkipped collection.name property.name)

/-- Puts a group at the end, then links it to its parent, then moves into it. -/
def openGroup (operator : GroupOperator) : Work Unit := do
  let b ← building
  let id := b.tree.groups.length
  change fun b => { b with tree := ⟨b.tree.groups ++ [.empty id operator (some b.cursor)]⟩ }
  change fun b => b.change (Group.addChild id)
  report (.groupOpened id b.cursor operator)
  change fun b => { b with cursor := id }

/-- Moves to the parent. -/
def closeGroup : Work Unit := do
  let b ← building
  let parent := (b.current?.bind Group.parent).getD b.cursor
  report (.groupClosed b.cursor parent)
  change fun b => { b with cursor := parent }

/-- Wires properties one by one and counts the criteria that are added. -/
def wireEach (setting : Setting) : List Property → Nat → Work Nat
  | [], added => pure added
  | property :: rest, added =>
    match setting.wireOne property with
    | some (.ok criterion) => do
      change fun b => b.change (Group.addCriterion criterion)
      wireEach setting rest (added + 1)
    | some (.error refusal) => do
      report refusal
      wireEach setting rest added
    | none => wireEach setting rest added

/-- Wires properties and reports how many criteria were added. -/
def wire (setting : Setting) (properties : List Property) : Work Unit := do
  let added ← wireEach setting properties 0
  report (.wired (← building).cursor setting.source.name setting.filterType.name added)

end Work

namespace Step

open Work

/-- Carries a step out piece by piece. -/
def perform (setting : Setting) : Step → Work Unit
  | add property value operator => do
    let property ← demand (property.resolve setting.source)
    Work.addCriterion property (value.value setting.filter) operator
  | addElement collection element property value operator => do
    let property ← demand (property.resolve element)
    Work.addElementCriterion collection property (value.value setting.filter) operator
  | openGroup operator => Work.openGroup operator
  | closeGroup => Work.closeGroup
  | toRoot => change fun b => { b with cursor := 0 }
  | goTo id => change fun b => if id < b.tree.groups.length then { b with cursor := id } else b
  | openAtRoot operator => do
    change fun b => { b with cursor := 0 }
    Work.openGroup operator
  | wire properties => Work.wire setting properties
  | wireAll => Work.wire setting setting.source.properties
  | wireUnused => do
    let unused := setting.unused (← building).tree
    Work.wire setting unused
  | wireNames names => do
    let properties ← demand (names.mapM fun name =>
      (PropertyChoice.named name).resolve setting.source)
    Work.wire setting properties

end Step

section Perform

variable {setting : Setting}

theorem run_addCriterion (property : Property) (value : Value) (operator : Operator)
    (session : Session) : (Work.addCriterion property value operator).run session =
      session.commit (session.building.addCriterion property value operator) := by
  simp only [Work.addCriterion, Building.addCriterion]
  cases Criterion.make property value operator with
  | error e => rfl
  | ok criterion? => cases criterion? <;> rfl

theorem run_addElementCriterion (collection : Collection) (property : Property) (value : Value)
    (operator : Operator) (session : Session) :
    (Work.addElementCriterion collection property value operator).run session =
      session.commit (session.building.addElementCriterion collection property value operator) := by
  simp only [Work.addElementCriterion, Building.addElementCriterion]
  cases Criterion.make property value operator with
  | error e => rfl
  | ok criterion? => cases criterion? <;> rfl

/-- A change before the end of a list does not reach what is put at the end. -/
theorem modify_append_of_lt {α : Type} {items : List α} {i : Nat} (bound : i < items.length)
    (f : α → α) (last : List α) : (items ++ last).modify i f = items.modify i f ++ last := by
  refine List.ext_getElem? fun j => ?_
  rw [List.getElem?_modify, List.getElem?_append, List.getElem?_append, List.length_modify,
    List.getElem?_modify]
  by_cases before : j < items.length
  · simp [before]
  · have apart : i ≠ j := by omega
    simp [before, apart]

/-- It makes no difference whether the new group is linked before or after it is put at the
    end, for its parent stands before it. -/
theorem run_openGroup (operator : GroupOperator) {session : Session}
    (wellFormed : session.building.WellFormed) : (Work.openGroup operator).run session =
      session.commit (.ok (session.building.openGroup operator)) := by
  have linked := modify_append_of_lt wellFormed.cursor
    (Group.addChild session.building.tree.groups.length)
    [.empty session.building.tree.groups.length operator (some session.building.cursor)]
  simp only [Session.commit, Building.openGroup, Tree.addGroup, ← linked]
  rfl

theorem change_change (b : Building) (f g : Group → Group) :
    (b.change f).change g = b.change (g ∘ f) := by
  simp [Building.change, Tree.modify, List.modify_modify_eq]

/-- Properties that are wired one by one add what wiring adds, and report what it refuses. -/
theorem run_wireEach (properties : List Property) (added : Nat) (session : Session) :
    (Work.wireEach setting properties added).run session =
      .ok (added + (setting.wired properties).length)
        ⟨session.building.change (Group.extend ⟨setting.wired properties, []⟩),
          session.events ++ setting.refusals properties⟩ := by
  induction properties generalizing added session with
  | nil =>
    have same : session.building.change (Group.extend ⟨[], []⟩) = session.building :=
      congrArg (Building.mk · _) (Tree.modify_extend_none _ _)
    simp [Work.wireEach, Setting.wired, Setting.refusals, same]
  | cons property rest ih =>
    rw [Work.wireEach]
    cases outcome : setting.wireOne property with
    | none =>
      have wired : setting.wired (property :: rest) = setting.wired rest := by
        simp [Setting.wired, outcome]
      have refused : setting.refusals (property :: rest) = setting.refusals rest := by
        simp [Setting.refusals, outcome]
      rw [wired, refused]
      exact ih added session
    | some answer =>
      cases answer with
      | error refusal =>
        have wired : setting.wired (property :: rest) = setting.wired rest := by
          simp [Setting.wired, outcome]
        have refused : setting.refusals (property :: rest) =
            refusal :: setting.refusals rest := by
          simp [Setting.refusals, outcome]
        have later := ih added ⟨session.building, session.events ++ [refusal]⟩
        rw [List.append_assoc] at later
        rw [wired, refused]
        exact later
      | ok criterion =>
        have wired : setting.wired (property :: rest) = criterion :: setting.wired rest := by
          simp [Setting.wired, outcome]
        have refused : setting.refusals (property :: rest) = setting.refusals rest := by
          simp [Setting.refusals, outcome]
        have extended : Group.extend ⟨setting.wired rest, []⟩ ∘ Group.addCriterion criterion =
            Group.extend ⟨criterion :: setting.wired rest, []⟩ := by
          funext group
          simp [Group.extend, Group.addCriterion]
        have later := ih (added + 1)
          ⟨session.building.change (Group.addCriterion criterion), session.events⟩
        have count : added + (criterion :: setting.wired rest).length =
            added + 1 + (setting.wired rest).length := by
          rw [List.length_cons]
          omega
        rw [change_change, extended] at later
        rw [wired, refused, count]
        exact later

theorem run_wire (properties : List Property) (session : Session) :
    (Work.wire setting properties).run session =
      session.commit (.ok (setting.wire session.building properties)) := by
  have wired := @run_wireEach setting properties 0 session
  rw [Work.wire, EStateM.run_bind, wired, Setting.wire_eq, Nat.zero_add, Session.commit,
    ← List.append_assoc]
  rfl

/-- A step that is carried out piece by piece is done as a whole or not at all. -/
theorem run_perform (step : Step) {session : Session}
    (wellFormed : session.building.WellFormed) : (step.perform setting).run session =
      session.commit (step.apply setting session.building) := by
  cases step with
  | add property value operator =>
    simp only [Step.perform, Step.apply]
    cases property.resolve setting.source with
    | error e => rfl
    | ok property => exact run_addCriterion property _ operator session
  | addElement collection element property value operator =>
    simp only [Step.perform, Step.apply]
    cases property.resolve element with
    | error e => rfl
    | ok property => exact run_addElementCriterion collection property _ operator session
  | openGroup operator => exact run_openGroup operator wellFormed
  | closeGroup => rfl
  | toRoot =>
    simp only [Step.apply, Session.commit, List.append_nil]
    rfl
  | goTo id =>
    simp only [Step.apply, Session.commit, List.append_nil]
    rfl
  | openAtRoot operator => exact run_openGroup operator wellFormed.toRoot
  | wire properties => exact run_wire properties session
  | wireAll => exact run_wire setting.source.properties session
  | wireUnused => exact run_wire (setting.unused session.building.tree) session
  | wireNames names =>
    simp only [Step.perform, Step.apply]
    cases names.mapM fun name => (PropertyChoice.named name).resolve setting.source with
    | error e => rfl
    | ok properties => exact run_wire properties session

end Perform

end RecordFilter
