import RecordFilter.Demo
import RecordFilter.Predicate
import RecordFilter.Proofs.Acceptance
import RecordFilter.Proofs.Compilation.Solid

/-!
# Meaning of predicates

`Node.holds` is what a tree says about a record: a group combines under its operator
its own criteria, its children that are not vacuous, and one statement about the
elements of each collection.  The predicate compiled from a built tree decides just
that, and a tree without criteria holds for every record.
-/

namespace RecordFilter

/-- Whether some element of the collection satisfies the criteria of an entry together. -/
def CollectionCriteria.holds (operator : GroupOperator) (record : Record)
    (entry : CollectionCriteria) : Bool :=
  (entry.collection.items record).any fun element =>
    operator.holds (entry.criteria.map (·.holds element))

namespace Node

mutual

/-- Whether a node that is not vacuous holds for a record.  The operator of a criterion compares
    what its property reads, from the record or from an element, with the criterion's value. -/
def holds (record : Record) : Node → Bool
  | mk group children =>
    group.operator.holds
      ((group.criteria.map fun criterion =>
          criterion.operator.holds (criterion.property.get record) criterion.value) ++
        holdsEach record children ++
        group.collections.map fun entry =>
          (entry.collection.items record).any fun element =>
            group.operator.holds (entry.criteria.map fun criterion =>
              criterion.operator.holds (criterion.property.get element) criterion.value))

/-- Whether each of the nodes that are not vacuous holds. -/
def holdsEach (record : Record) : List Node → List Bool
  | [] => []
  | node :: rest =>
    if node.isVacuous then holdsEach record rest
    else holds record node :: holdsEach record rest

end

theorem holdsEach_eq (record : Record) (nodes : List Node) :
    holdsEach record nodes = (live nodes).map (holds record) := by
  induction nodes with
  | nil => rfl
  | cons node rest ih =>
    cases vacuous : node.isVacuous with
    | true => simp [holdsEach, live, vacuous, ih]
    | false => simp [holdsEach, live, vacuous, ih]

theorem holds_mk (record : Record) (group : Group) (children : List Node) :
    (mk group children).holds record =
      group.operator.holds (group.criteria.map (·.holds record) ++ holdsEach record children ++
        group.collections.map (·.holds group.operator record)) := by
  rw [holds]
  rfl

end Node

namespace Predicate

/-- No condition but the identity holds for want of a condition. -/
theorem solid_backend : backend.Solid where
  identity := rfl
  comparison := by
    intro criterion parameter condition compared
    simp only [backend, comparison] at compared
    split at compared
    · cases compared
      rfl
    · cases compared
  combine := by
    intro operator left right leftTest rightTest
    have tests : left.isAlways = false ∧ right.isAlways = false := ⟨leftTest, rightTest⟩
    cases operator with
    | and => simp [Backend.combine, backend, Condition.isAlways_and, tests]
    | or => simp [Backend.combine, backend, Condition.isAlways_or, tests]
  anyElement := fun _ => rfl
  formatGroup := id

/-- A checked criterion has the shape its operator asks for. -/
theorem hasShape_of_checked {criterion : Criterion} (checked : criterion.Checked) :
    hasShape criterion.operator criterion.value = true := by
  rcases checked.form with
    ⟨among, items, value, -⟩ | ⟨pattern, text, value⟩ | ⟨single, plain, notList⟩
  · rw [among, value]
    rfl
  · rw [value]
    rcases pattern with operator | operator <;> rw [operator] <;> rfl
  · cases operator : criterion.operator with
    | among => contradiction
    | contains | startsWith => simp [operator, Operator.isPattern] at plain
    | _ => simp [hasShape, notList]

/-- A checked criterion is compared without fail, by what it says of a record. -/
theorem comparison_of_checked {criterion : Criterion} (checked : criterion.Checked)
    (parameter : Binding) :
    ∃ label, backend.comparison criterion parameter = .ok (.test label criterion.holds) := by
  simp only [backend, comparison, hasShape_of_checked checked, if_true]
  exact ⟨_, rfl⟩

/-- A proper node compiles without fail. -/
theorem answers_of_proper {node : Node} (proper : node.Proper) (parameter : Binding) :
    backend.Answers parameter node := by
  intro ask asked
  have recorded : ask.1 ∈ node.recorded := by
    rw [← backend.map_fst_asks parameter node]
    exact List.mem_map_of_mem asked
  obtain ⟨label, compared⟩ := comparison_of_checked (proper.checked ask.1 recorded) ask.2
  simp [Backend.failure?, compared]

/-- Compiling a built tree gives the condition of its root. -/
theorem compile_eq_ok {tree : Tree} {root : Node} (node : tree.node? = some root)
    (proper : root.Proper) (source name : String) :
    let parameter := backend.parameter source name
    backend.compile tree source name = .ok ⟨backend.assemble parameter root, parameter⟩ := by
  intro parameter
  rw [backend.compile_eq node proper, outcome_eq_ok]
  exact ⟨List.findSome?_eq_none_iff.mpr (answers_of_proper proper parameter), rfl⟩

theorem evaluate_settled {criterion : Criterion} {parameter : Binding} (record : Record)
    (answered : backend.failure? (criterion, parameter) = none) :
    (backend.settled criterion parameter).evaluate record = criterion.holds record := by
  have compared := backend.failure?_eq_none.mp answered
  simp only [backend, comparison] at compared
  split at compared
  · have same := Except.ok.inj compared
    simp only [backend]
    rw [← same]
    rfl
  · cases compared

/-- Joined conditions hold together when their values do. -/
theorem evaluate_join (operator : GroupOperator) {conditions : List (Condition Record)}
    (nonempty : conditions ≠ []) (record : Record) :
    (backend.join operator conditions).evaluate record =
      operator.holds (conditions.map (·.evaluate record)) := by
  cases conditions with
  | nil => contradiction
  | cons first rest =>
    clear nonempty
    simp only [Backend.join]
    induction rest generalizing first with
    | nil => cases operator <;> simp [GroupOperator.holds]
    | cons second rest ih =>
      rw [List.foldl_cons, ih]
      cases operator with
      | and =>
        simp [GroupOperator.holds, Backend.combine, backend, Condition.evaluate_and, Bool.and_assoc]
      | or =>
        simp [GroupOperator.holds, Backend.combine, backend, Condition.evaluate_or, Bool.or_assoc]

/-- The condition on the elements of a collection holds when some element satisfies
    the criteria of its entry together. -/
theorem evaluate_elementCondition (operator : GroupOperator) (parameter : Binding)
    {entry : CollectionCriteria} (inhabited : entry.criteria ≠ [])
    (answered : ∀ criterion ∈ entry.criteria,
      backend.failure? (criterion, backend.elementParameter entry.collection) = none)
    (record : Record) :
    (backend.elementCondition operator parameter entry).evaluate record =
      entry.holds operator record := by
  simp only [Backend.elementCondition]
  refine congrArg (List.any _) (funext fun element => ?_)
  rw [evaluate_join operator (by simpa using inhabited), List.map_map]
  refine congrArg _ (List.map_congr_left fun criterion member => ?_)
  exact evaluate_settled element (answered criterion member)

/-- The condition of a proper node that is not vacuous decides whether the node holds. -/
theorem evaluate_assemble {parameter : Binding} (record : Record) {node : Node} :
    node.Proper → node.isVacuous = false →
      (backend.assemble parameter node).evaluate record = node.holds record := by
  induction node using Node.inductionOn with
  | mk group children ih =>
    intro proper fruitful
    have answered := answers_of_proper proper parameter
    obtain ⟨own, nested, related⟩ := Backend.Solid.answers_mk.mp answered
    have populated := mt (backend.members_eq_nil parameter proper.1).mp
      (Bool.eq_false_iff.mp fruitful)
    have ownValues : group.criteria.map
        (fun criterion => (backend.settled criterion parameter).evaluate record) =
        group.criteria.map (·.holds record) :=
      List.map_congr_left fun criterion member => evaluate_settled record (own criterion member)
    have nestedValues : (Node.live children).map
        (fun node => (backend.assemble parameter node).evaluate record) =
        (Node.live children).map (Node.holds record) := by
      refine List.map_congr_left fun node member => ?_
      obtain ⟨child, nonvacuous⟩ := List.mem_filter.mp member
      obtain ⟨-, nodeProper⟩ := Node.properAll_iff.mp proper.2.2 node child
      exact ih node child nodeProper (by simpa using nonvacuous)
    have elementValues : group.collections.map
        (fun entry => (backend.elementCondition group.operator parameter entry).evaluate record) =
        group.collections.map (·.holds group.operator record) :=
      List.map_congr_left fun entry member =>
        evaluate_elementCondition group.operator parameter (proper.1.inhabited entry member)
          (related entry member) record
    rw [solid_backend.assemble_mk proper answered, if_neg (Bool.eq_false_iff.mp fruitful)]
    change (backend.join group.operator (backend.members parameter group children)).evaluate record
      = _
    rw [evaluate_join group.operator populated, Node.holds_mk, Node.holdsEach_eq]
    simp only [Backend.members, List.map_append, List.map_map, Function.comp_def, ownValues,
      nestedValues, elementValues]

/-- Every built tree compiles to a predicate, and the predicate matches exactly the
    records for which the tree holds; a tree without criteria matches all. -/
theorem isMatch_eq_holds (setting : Setting) (steps : List Step) (source name : String) :
    ∃ root predicate, (setting.built steps).Unfolds 0 root ∧
      backend.compile (setting.built steps) source name = .ok predicate ∧
      ∀ record, predicate.isMatch record = (root.isVacuous || root.holds record) := by
  obtain ⟨root, node, unfolds, proper⟩ := Tree.exists_root setting steps
  have answered := answers_of_proper proper (backend.parameter source name)
  refine ⟨root, _, unfolds, compile_eq_ok node proper source name, ?_⟩
  intro record
  cases vacuous : root.isVacuous with
  | true =>
    have identity := solid_backend.isIdentity_assemble proper answered
    rw [vacuous] at identity
    rw [Bool.true_or, isMatch]
    cases condition : backend.assemble (backend.parameter source name) root with
    | always => rfl
    | test label eval =>
      rw [condition] at identity
      cases identity
  | false =>
    rw [Bool.false_or, isMatch]
    exact evaluate_assemble record proper vacuous

/-- A login decides in an `or` group whose vacuous child says nothing, below an `and` group with
    criteria of its own: the third user matches, the fourth fails by the login and the first by
    the id. -/
theorem isMatch_eq_holds_logins :
    let steps := Demo.steps ++ [.goTo 3, .openGroup .and]
    ∃ predicate, backend.compile (Demo.setting.built steps) "User" "x" = .ok predicate ∧
      predicate.isMatch (Demo.makeUser 3 "Sidorov" "Sergey" "Sergeevich" "IS1" 2) = true ∧
      predicate.isMatch (Demo.makeUser 4 "Popov" "Nikolay" "Nikolaevich" "IS2" 1) = false ∧
      predicate.isMatch (Demo.makeUser 1 "Ivanov" "Ivan" "Ivanovich" "IS1" 1) = false := by
  intro steps
  obtain ⟨root, predicate, unfolds, compiled, match_eq⟩ :=
    isMatch_eq_holds Demo.setting steps "User" "x"
  have decides {record : Record} {value : Bool}
      (held : (Demo.setting.built steps).node?.map
        (fun root => root.isVacuous || root.holds record) = some value) :
      predicate.isMatch record = value :=
    (match_eq record).trans ((Demo.setting.wellFormed_built steps).read_root unfolds _ held)
  exact ⟨predicate, compiled, decides (by decide +kernel), decides (by decide +kernel),
    decides (by decide +kernel)⟩

end Predicate

end RecordFilter
