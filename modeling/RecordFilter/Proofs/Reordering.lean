import RecordFilter.Demo
import RecordFilter.Predicate
import RecordFilter.Proofs.Compilation.Calls
import RecordFilter.Proofs.History

/-!
# The order of steps

The steps of a run that open groups, those that add own criteria to one group and those
that add criteria on elements to one group are independent of each other.  Two runs in
which these sequences are the same, and take turns differently, come to the same tree, and
each step comes to the same in both (`run_reordered`).
-/

namespace RecordFilter

namespace History

/-- Two histories open the same groups and add the same to each. -/
structure SameAdditions (left right : History) : Prop where
  openings : left.openings = right.openings
  additions : ∀ i, left.additionsAt i = right.additionsAt i

/-- Two histories open the same groups and take the same steps in each lane of each group. -/
structure SameSteps (left right : History) : Prop where
  openings : left.openings = right.openings
  steps : ∀ lane i, (left.taken lane i).map (·.step) = (right.taken lane i).map (·.step)

/-- The steps that two histories share came to the same in both. -/
structure SameOutcomes (left right : History) : Prop where
  openings : (left.filter (·.step.opens)).map (·.outcome) =
    (right.filter (·.step.opens)).map (·.outcome)
  deeds : ∀ lane i, left.taken lane i = right.taken lane i

end History

/-! ## What does not depend on the building -/

section Reports

variable (b : Building) (property : Property) (value : Value) (operator : Operator)

/-- What is reported when a criterion is added names the group of the cursor, and nothing else
    of the building. -/
theorem Building.report_addCriterion : (b.addCriterion property value operator).map Prod.snd =
    (Criterion.make property value operator).map fun
      | some _ => [.criterionAdded b.cursor property.name operator]
      | none => [.criterionSkipped property.name] := by
  rw [addCriterion]
  cases Criterion.make property value operator with
  | error e => rfl
  | ok criterion? => cases criterion? <;> rfl

theorem Building.report_addElementCriterion (collection : Collection) :
    (b.addElementCriterion collection property value operator).map Prod.snd =
      (Criterion.make property value operator).map fun
        | some _ => [.elementCriterionAdded b.cursor collection.name property.name operator]
        | none => [.elementCriterionSkipped collection.name property.name] := by
  rw [addElementCriterion]
  cases Criterion.make property value operator with
  | error e => rfl
  | ok criterion? => cases criterion? <;> rfl

end Reports

namespace Step

variable {setting : Setting}

/-- An adding step acts on the group of the cursor. -/
theorem target_of_lane {step : Step} {lane : Lane} (adds : step.lane? = some lane)
    (b : Building) : step.target b = b.cursor := by
  cases step with
  | openAtRoot operator => cases adds
  | _ => rfl

/-- What an adding step comes to depends on the group it acts on only, unless it reads the
    tree. -/
theorem deed_of_lane {step : Step} {lane : Lane} (adds : step.lane? = some lane)
    (fixed : step ≠ wireUnused) (b : Building) :
    step.deed setting b = step.deed setting ⟨.empty, b.cursor⟩ := by
  cases step with
  | add property value operator =>
    simp only [deed, apply, target, additions]
    cases property.resolve setting.source with
    | error e => rfl
    | ok property =>
      simp only [Except.bind, Building.report_addCriterion]
  | addElement collection element property value operator =>
    simp only [deed, apply, target, additions]
    cases property.resolve element with
    | error e => rfl
    | ok property =>
      simp only [Except.bind, Building.report_addElementCriterion]
  | wire properties => rfl
  | wireAll => rfl
  | wireUnused => exact absurd rfl fixed
  | wireNames names =>
    simp only [deed, apply, target, additions]
    cases names.mapM fun name => (PropertyChoice.named name).resolve setting.source with
    | error e => rfl
    | ok properties => rfl
  | _ => cases adds

/-- A step adds own criteria in the lane of those only. -/
theorem own_additions {step : Step} (other : step.lane? ≠ some .own) (tree : Tree) :
    (step.additions setting tree).own = [] := by
  cases step with
  | addElement collection element property value operator => rfl
  | openGroup operator => rfl
  | closeGroup => rfl
  | toRoot => rfl
  | goTo id => rfl
  | openAtRoot operator => rfl
  | _ => exact absurd rfl other

/-- A step adds criteria on elements in the lane of those only. -/
theorem element_additions {step : Step} (other : step.lane? ≠ some .elements) (tree : Tree) :
    (step.additions setting tree).elements = [] := by
  cases step with
  | addElement collection element property value operator => exact absurd rfl other
  | wireNames names =>
    rw [additions]
    split <;> rfl
  | _ => rfl

/-- Opening a group reports its position, its parent and its operator. -/
theorem outcome_of_opened {step : Step} {operator : GroupOperator}
    (opened : step.opened? = some operator) (b : Building) : (step.deed setting b).outcome =
      .ok [.groupOpened b.tree.groups.length (step.target b) operator] := by
  cases step with
  | openGroup operator =>
    cases opened
    rfl
  | openAtRoot operator =>
    cases opened
    rfl
  | _ => cases opened

end Step

/-- Items that give nothing may be dropped. -/
theorem flatMap_filter_of_nil {α β : Type} {items : List α} {keeps : α → Bool} {f : α → List β}
    (nothing : ∀ item ∈ items, keeps item = false → f item = []) :
    (items.filter keeps).flatMap f = items.flatMap f := by
  induction items with
  | nil => rfl
  | cons item rest ih =>
    have later := ih fun other member => nothing other (List.mem_cons_of_mem _ member)
    cases kept : keeps item with
    | true => simp [kept, later]
    | false => simp [kept, later, nothing item List.mem_cons_self kept]

namespace Step

variable {setting : Setting}

/-- What is added to a group is added in its two lanes. -/
theorem additionsAt_history (steps : List Step) (b : Building) (i : Nat) :
    (history setting steps b).additionsAt i =
      ⟨((history setting steps b).taken .own i).flatMap (·.additions.own),
        ((history setting steps b).taken .elements i).flatMap (·.additions.elements)⟩ := by
  have split : ∀ lane, (history setting steps b).taken lane i =
      ((history setting steps b).filter (·.group = i)).filter (·.step.lane? = some lane) := by
    intro lane
    simp [History.taken, List.filter_filter]
  have genuine : ∀ deed ∈ (history setting steps b).filter (·.group = i),
      ∃ (step : Step) (b' : Building), deed = step.deed setting b' := by
    intro deed member
    obtain ⟨step, -, b', made⟩ := exists_of_mem_history (List.mem_filter.mp member).1
    exact ⟨step, b', made⟩
  have own : ((history setting steps b).taken .own i).flatMap (·.additions.own) =
      ((history setting steps b).filter (·.group = i)).flatMap (·.additions.own) := by
    rw [split]
    refine flatMap_filter_of_nil fun deed member other => ?_
    obtain ⟨step, b', rfl⟩ := genuine deed member
    exact own_additions (of_decide_eq_false other) b'.tree
  have elements : ((history setting steps b).taken .elements i).flatMap (·.additions.elements) =
      ((history setting steps b).filter (·.group = i)).flatMap (·.additions.elements) := by
    rw [split]
    refine flatMap_filter_of_nil fun deed member other => ?_
    obtain ⟨step, b', rfl⟩ := genuine deed member
    exact element_additions (of_decide_eq_false other) b'.tree
  rw [own, elements]
  rfl

/-- The deeds of a lane are determined by its steps. -/
theorem taken_history {steps : List Step} (fixed : wireUnused ∉ steps) (b : Building)
    (lane : Lane) (i : Nat) : (history setting steps b).taken lane i =
      (((history setting steps b).taken lane i).map (·.step)).map fun step =>
        step.deed setting ⟨.empty, i⟩ := by
  rw [List.map_map]
  symm
  refine (List.map_congr_left ?_).trans (List.map_id _)
  intro deed member
  obtain ⟨present, here⟩ := List.mem_filter.mp member
  obtain ⟨step, listed, b', rfl⟩ := exists_of_mem_history present
  obtain ⟨adds, target⟩ : step.lane? = some lane ∧ step.target b' = i :=
    of_decide_eq_true here
  have known : step ≠ wireUnused := fun unused => fixed (unused ▸ listed)
  rw [target_of_lane adds] at target
  rw [deed_of_lane adds known b', target]
  rfl

/-- The groups that a run opens are numbered in order. -/
theorem outcomes_opened (setting : Setting) (steps : List Step) :
    ((history setting steps .start).filter (·.step.opens)).map (·.outcome) =
      (history setting steps .start).openings.mapIdx fun k opening =>
        .ok [.groupOpened (k + 1) opening.1 opening.2] := by
  induction steps using List.reverseRecOn with
  | nil => rfl
  | append_singleton steps step ih =>
    have size := (tells_run setting steps).size
    rw [history_concat, List.filter_append, List.map_append, ih, History.openings_concat,
      List.mapIdx_append]
    congr 1
    -- only the last step is left, and of the building before it only the size counts
    generalize run setting steps .start = b at size ⊢
    cases opened : step.opened? with
    | some operator =>
      have opens := opens_of_opened opened
      have outcome : (step.deed setting b).outcome = _ := outcome_of_opened opened b
      rw [size] at outcome
      simp only [deed] at outcome
      simp [deed, opens, opened, outcome]
    | none =>
      have still := opened?_eq_none.mp opened
      simp [deed, still, opened]

/-- The tree is determined by the groups that are opened and what is added to each. -/
theorem built_eq_of_sameAdditions {first second : List Step}
    (same : (history setting first .start).SameAdditions (history setting second .start)) :
    setting.built first = setting.built second := by
  refine Tree.ext_group? fun i => ?_
  rw [Setting.built, Setting.built, (tells_run setting first).groups,
    (tells_run setting second).groups, same.openings, same.additions]

/-- Runs that take the same steps in each lane add the same, and each of the steps comes to
    the same in both, unless a step reads the tree. -/
theorem same_of_sameSteps {first second : List Step} (fixed : wireUnused ∉ first)
    (fixed' : wireUnused ∉ second)
    (same : (history setting first .start).SameSteps (history setting second .start)) :
    (history setting first .start).SameAdditions (history setting second .start) ∧
      (history setting first .start).SameOutcomes (history setting second .start) := by
  have deeds : ∀ lane i, (history setting first .start).taken lane i =
      (history setting second .start).taken lane i := by
    intro lane i
    rw [taken_history fixed, taken_history fixed', same.steps]
  refine ⟨⟨same.openings, ?_⟩, ⟨?_, deeds⟩⟩
  · intro i
    rw [additionsAt_history, additionsAt_history, deeds, deeds]
  · rw [outcomes_opened, outcomes_opened, same.openings]

/-- The order of independent steps does not matter.  Runs that open the same groups and take
    the same adding steps at each group, own criteria and criteria on elements apart, come to
    the same in each step and add the same.  Runs that add the same come to the same tree,
    which every backend compiles to the same.  Whenever they were added, compiling asks for the
    comparisons of the own criteria of a group first, then those below it, then those on
    elements, up to the first that fails. -/
theorem run_reordered (setting : Setting) (first second : List Step) :
    let left := history setting first .start
    let right := history setting second .start
    let tree := setting.built first
    (wireUnused ∉ first → wireUnused ∉ second → left.SameSteps right →
      left.SameOutcomes right ∧ left.SameAdditions right) ∧
    (left.SameAdditions right → tree = setting.built second ∧
      ∀ {Condition Parameter Result : Type} (backend : Backend Condition Parameter Result)
        (source name : String), backend.compile tree source name =
          backend.compile (setting.built second) source name) ∧
    ∀ {Condition Parameter Result : Type} (backend : Backend Condition Parameter Result)
      (parameter : Parameter) (spare : Nat),
      let walk := backend.walk tree parameter (tree.groups.length + spare)
      (walk 0).result = (backend.compileRoot tree parameter).mapError .failed ∧
      ∀ {i group children}, tree.Unfolds i (.mk group children) →
        let ordered := (left.additionsAt i).own.map (·, parameter) ++
          backend.asksOf parameter children ++
            (CollectionCriteria.entries (left.additionsAt i).elements).flatMap fun entry =>
              entry.criteria.map (·, backend.elementParameter entry.collection)
        backend.asks parameter (.mk group children) = ordered ∧
          (walk i).calls.filterMap Call.compare? = upToFailure backend.failure? ordered := by
  intro left right tree
  refine ⟨?_, ?_, ?_⟩
  · intro fixed fixed' same
    exact (same_of_sameSteps fixed fixed' same).symm
  · intro same
    have equal : tree = setting.built second := built_eq_of_sameAdditions same
    exact ⟨equal, fun backend source name => by rw [equal]⟩
  · intro Condition Parameter Result backend parameter spare walk
    obtain ⟨root, -, unfoldsRoot, -⟩ := Tree.exists_root setting first
    have wellFormed := setting.wellFormed_built first
    refine ⟨backend.result_walk wellFormed unfoldsRoot parameter spare, ?_⟩
    intro i group children unfolds ordered
    have asked : backend.asks parameter (.mk group children) = ordered := by
      obtain ⟨own, elements⟩ := (tells_run setting first).group unfolds.1
      rw [Backend.asks, own, elements]
    refine ⟨asked, ?_⟩
    rw [← asked]
    exact backend.compare?_walk wellFormed unfolds parameter spare

/-- Two runs that take turns differently; in one of them criteria are added to the root after
    its child was opened, and one of these fails.  The properties are compared in the order of
    the tree. -/
theorem run_reordered_query :
    let logins : Collection := ⟨"User", "Logins", "Login", fun _ => []⟩
    let email : Step := .add (.named "Email") (.given (.text "x")) .equal
    let undeclared : Step := .add (.named "Age") (.given (.int 7)) .equal
    let id : Step := .add (.named "Id") (.given (.int 7)) .greaterThan
    let name : Step := .add (.named "LastName") (.given (.text "y")) .equal
    let login : Step :=
      .addElement logins Demo.login.schema (.named "LoginValue") (.given (.text "z")) .equal
    let first := [email, undeclared, login, .openGroup .or, id, name]
    let second :=
      [.openAtRoot .or, id, .closeGroup, login, email, .goTo 1, name, .toRoot, undeclared]
    let left := history Demo.setting first .start
    let right := history Demo.setting second .start
    let walk := Predicate.backend.walk (Demo.setting.built second) ⟨"x", "User"⟩ 2 0
    left.SameOutcomes right ∧ Demo.setting.built first = Demo.setting.built second ∧
      (walk.calls.filterMap Call.compare?).map (·.1.property.name) =
        ["Email", "Id", "LastName", "LoginValue"] ∧
      (right.taken .own 0).map (·.outcome) = [.ok [.criterionAdded 0 "Email" .equal],
        .error (.invalidProperty "User" "Age")] := by
  intro logins email undeclared id name login first second left right walk
  have same : left.SameSteps right := by
    refine ⟨rfl, ?_⟩
    intro lane i
    match lane, i with
    | .own, 0 => rfl
    | .own, 1 => rfl
    | .own, i + 2 => rfl
    | .elements, 0 => rfl
    | .elements, 1 => rfl
    | .elements, i + 2 => rfl
  obtain ⟨steps, additions, -⟩ := run_reordered Demo.setting first second
  obtain ⟨outcomes, sameAdditions⟩ := steps (by simp [first, email, undeclared, login, id, name])
    (by simp [second, email, undeclared, login, id, name]) same
  exact ⟨outcomes, (additions sameAdditions).1, by decide +kernel, rfl⟩

end Step

end RecordFilter
