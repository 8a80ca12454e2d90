import RecordFilter.Demo
import RecordFilter.Proofs.Compilation.Thinning
import RecordFilter.Proofs.Predicate.Meaning

/-!
# Formulas behind predicates

A condition carries its label and its test side by side, and nothing in it ties one to the
other.  A `Formula` has both as functions of one tree: `text` writes it with all parentheses,
`value` gives its value for a record.  An atom has words of its own for operators and constants,
and its value is what the operator says of the property's value and the constant.  The compiled
predicate of a built tree is that of the formula that joins the members of each group from left
to right (`Predicate.label_eq_text`).
-/

namespace RecordFilter

/-- A boolean formula on a record that is bound to a name. -/
inductive Formula where
  /-- Holds for every record. -/
  | always
  /-- The comparison of a criterion. -/
  | compare (binding : String) (criterion : Criterion)
  /-- Both formulas, or at least one. -/
  | connect (operator : GroupOperator) (left right : Formula)
  /-- Some element of a collection, bound to a name of its own, satisfies a formula. -/
  | anyElement (binding : String) (collection : Collection) (element : String) (inner : Formula)

namespace Formula

/-- How an operator is written between two formulas. -/
def symbol : GroupOperator → String
  | .and => " && "
  | .or => " || "

/-- The word for an operator in an atom. -/
def word : Operator → String
  | .equal => "Equal"
  | .lessThan => "LessThan"
  | .greaterThan => "GreaterThan"
  | .lessThanOrEqual => "LessThanOrEqual"
  | .greaterThanOrEqual => "GreaterThanOrEqual"
  | .contains => "Contains"
  | .startsWith => "StartsWith"
  | .among => "In"

mutual

/-- A constant in an atom: a text stands in quotes and a list in brackets, all else is bare. -/
def constant : Value → String
  | .null => "null"
  | .bool true => "true"
  | .bool false => "false"
  | .int n => toString n.toInt
  | .float x => x.toText .plain
  | .decimal d => d.toText
  | .text s => Text.quoted s
  | .dateTime d => d.toText ' '
  | .uuid u => u.toText
  | .list items => "[" ++ ", ".intercalate (constants items) ++ "]"

def constants : List Value → List String
  | [] => []
  | item :: rest => constant item :: constants rest

end

/-- The formula in full parentheses. -/
def text : Formula → String
  | always => "true"
  | compare binding criterion =>
    binding ++ "." ++ criterion.property.name ++ " " ++ word criterion.operator ++ " " ++
      constant criterion.value
  | connect operator left right =>
    "(" ++ left.text ++ symbol operator ++ right.text ++ ")"
  | anyElement binding collection element inner =>
    binding ++ "." ++ collection.name ++ ".any(" ++ element ++ " => " ++ inner.text ++ ")"

/-- The value of the formula for a record. -/
def value : Formula → Record → Bool
  | always, _ => true
  | compare _ criterion, record =>
    criterion.operator.holds (criterion.property.get record) criterion.value
  | connect operator left right, record => operator.holds [left.value record, right.value record]
  | anyElement _ collection _ inner, record => (collection.items record).any inner.value

/-- Formulas connected from left to right. -/
def leftToRight (operator : GroupOperator) : List Formula → Formula
  | [] => always
  | first :: rest => rest.foldl (connect operator) first

/-- The formula on the elements of one collection. -/
def ofEntry (operator : GroupOperator) (binding : String) (entry : CollectionCriteria) : Formula :=
  let element := String.ofList (Text.lowercase entry.collection.name.toList)
  anyElement binding entry.collection element
    (leftToRight operator (entry.criteria.map (compare element)))

end Formula

namespace Node

mutual

/-- The formula of a node: own criteria, children that are not vacuous and collections, from
    left to right. -/
def formula (binding : String) : Node → Formula
  | mk group children =>
    .leftToRight group.operator
      (group.criteria.map (.compare binding) ++ formulas binding children ++
        group.collections.map (.ofEntry group.operator binding))

/-- The formulas of those nodes that are not vacuous. -/
def formulas (binding : String) : List Node → List Formula
  | [] => []
  | node :: rest =>
    if node.isVacuous then formulas binding rest
    else formula binding node :: formulas binding rest

end

theorem formulas_eq (binding : String) (nodes : List Node) :
    formulas binding nodes = (live nodes).map (formula binding) := by
  induction nodes with
  | nil => rfl
  | cons node rest ih =>
    cases vacuous : node.isVacuous with
    | true => simp [formulas, live, vacuous, ih]
    | false => simp [formulas, live, vacuous, ih]

end Node

namespace Formula

theorem word_eq_code (operator : Operator) : word operator = operator.code := by
  cases operator <;> rfl

mutual

theorem constant_eq_shown : (value : Value) → constant value = value.shown
  | .list items => by rw [constant, Value.shown, constants_eq_shownList items]
  | .bool true | .bool false => rfl
  | .null | .int _ | .float _ | .decimal _ | .text _ | .dateTime _ | .uuid _ => rfl

theorem constants_eq_shownList : (items : List Value) → constants items = Value.shownList items
  | [] => rfl
  | item :: rest => by
    rw [constants, Value.shownList, constant_eq_shown item, constants_eq_shownList rest]

end

/-- The condition that shows the text of a formula and tests its value. -/
def condition : Formula → Condition Record
  | always => .always
  | formula => .test formula.text formula.value

theorem condition_eq_test {formula : Formula} (proper : formula ≠ always) :
    formula.condition = .test formula.text formula.value := by
  cases formula with
  | always => contradiction
  | _ => rfl

theorem label_condition (formula : Formula) : formula.condition.label = formula.text := by
  cases formula <;> rfl

theorem evaluate_condition (formula : Formula) (record : Record) :
    formula.condition.evaluate record = formula.value record := by
  cases formula <;> rfl

theorem isAlways_condition {formula : Formula} :
    formula.condition.isAlways = true ↔ formula = always := by
  cases formula <;> simp [condition, Condition.isAlways]

/-- Conditions are combined like their formulas. -/
theorem combine_condition (operator : GroupOperator) {left right : Formula}
    (leftProper : left ≠ always) (rightProper : right ≠ always) :
    Predicate.backend.combine operator left.condition right.condition =
      (connect operator left right).condition := by
  rw [condition_eq_test leftProper, condition_eq_test rightProper]
  have tests : (connect operator left right).value = fun record =>
      operator.holds [left.value record, right.value record] := rfl
  cases operator with
  | and => simp [Backend.combine, Predicate.backend, Condition.and, condition, text, tests, symbol,
      Condition.label, Condition.evaluate, GroupOperator.holds]
  | or => simp [Backend.combine, Predicate.backend, Condition.or, condition, text, tests, symbol,
      Condition.label, Condition.evaluate, GroupOperator.holds]

/-- Connecting from left to right is what the fold of a group does to conditions. -/
theorem join_condition (operator : GroupOperator) {formulas : List Formula}
    (nonempty : formulas ≠ []) (proper : ∀ formula ∈ formulas, formula ≠ always) :
    leftToRight operator formulas ≠ always ∧
      Predicate.backend.join operator (formulas.map condition) =
        (leftToRight operator formulas).condition := by
  cases formulas with
  | nil => contradiction
  | cons first rest =>
    obtain ⟨firstProper, restProper⟩ := List.forall_mem_cons.mp proper
    clear nonempty proper
    simp only [leftToRight, Backend.join, List.map_cons]
    induction rest generalizing first with
    | nil => exact ⟨firstProper, rfl⟩
    | cons second rest ih =>
      obtain ⟨secondProper, restProper⟩ := List.forall_mem_cons.mp restProper
      rw [List.foldl_cons, List.map_cons, List.foldl_cons,
        combine_condition operator firstProper secondProper]
      exact ih (connect operator first second) (by simp) restProper

theorem settled_condition {criterion : Criterion} {parameter : Binding}
    (answered : Predicate.backend.failure? (criterion, parameter) = none) :
    Predicate.backend.settled criterion parameter =
      (compare parameter.name criterion).condition := by
  have compared := Predicate.backend.failure?_eq_none.mp answered
  simp only [Predicate.backend, Predicate.comparison, ← word_eq_code, ← constant_eq_shown]
    at compared
  split at compared
  · exact (Except.ok.inj compared).symm
  · cases compared

/-- The condition on the elements of a collection is that of its formula. -/
theorem elementCondition_condition (operator : GroupOperator) (parameter : Binding)
    {entry : CollectionCriteria} (inhabited : entry.criteria ≠ [])
    (answered : ∀ criterion ∈ entry.criteria, Predicate.backend.failure?
      (criterion, Predicate.backend.elementParameter entry.collection) = none) :
    Predicate.backend.elementCondition operator parameter entry =
      (ofEntry operator parameter.name entry).condition := by
  let element := Predicate.backend.elementParameter entry.collection
  let formulas := entry.criteria.map (compare element.name)
  have inner : entry.criteria.map (Predicate.backend.settled · element) =
      formulas.map condition := by
    rw [List.map_map]
    exact List.map_congr_left fun criterion member => settled_condition (answered criterion member)
  have nonempty : formulas ≠ [] := by simpa [formulas] using inhabited
  have compares : ∀ formula ∈ formulas, formula ≠ always := by simp [formulas]
  have joined := (join_condition operator nonempty compares).2
  have tests : (leftToRight operator formulas).condition.evaluate =
      (leftToRight operator formulas).value := funext (evaluate_condition _)
  rw [Backend.elementCondition, inner, joined]
  show Predicate.anyElement _ _ _ _ = _
  rw [Predicate.anyElement, label_condition, tests]
  rfl

end Formula

namespace Predicate

/-- A proper node that is not vacuous compiles to the condition of its formula. -/
theorem assemble_eq_condition {parameter : Binding} {node : Node} :
    node.Proper → node.isVacuous = false → node.formula parameter.name ≠ .always ∧
      backend.assemble parameter node = (node.formula parameter.name).condition := by
  induction node using Node.inductionOn with
  | mk group children ih =>
    intro proper fruitful
    have answered := answers_of_proper proper parameter
    obtain ⟨own, nested, related⟩ := Backend.Solid.answers_mk.mp answered
    let formulas := group.criteria.map (.compare parameter.name) ++
      (Node.live children).map (Node.formula parameter.name) ++
      group.collections.map (.ofEntry group.operator parameter.name)
    have below : ∀ node ∈ Node.live children, node.formula parameter.name ≠ .always ∧
        backend.assemble parameter node = (node.formula parameter.name).condition := by
      intro node member
      obtain ⟨child, nonvacuous⟩ := List.mem_filter.mp member
      exact ih node child (proper.of_mem child) (by simpa using nonvacuous)
    have members : backend.members parameter group children =
        formulas.map Formula.condition := by
      simp only [Backend.members, formulas, List.map_append, List.map_map]
      refine congrArg₂ _ (congrArg₂ _ ?_ ?_) ?_
      · exact List.map_congr_left fun criterion member =>
          Formula.settled_condition (own criterion member)
      · exact List.map_congr_left fun node member => (below node member).2
      · exact List.map_congr_left fun entry member => Formula.elementCondition_condition
          group.operator parameter (proper.1.inhabited entry member) (related entry member)
    have formula : (Node.mk group children).formula parameter.name =
        .leftToRight group.operator formulas := by
      rw [Node.formula, Node.formulas_eq]
    have populated : formulas ≠ [] := by
      intro none
      rw [none, List.map_nil, backend.members_eq_nil parameter proper.1, fruitful] at members
      cases members
    have conditional : ∀ formula ∈ formulas, formula ≠ .always := by
      intro formula member
      simp only [formulas, List.mem_append, List.mem_map] at member
      rcases member with (⟨criterion, -, rfl⟩ | ⟨node, present, rfl⟩) | ⟨entry, -, rfl⟩
      · exact Formula.noConfusion
      · exact (below node present).1
      · exact Formula.noConfusion
    obtain ⟨kept, joined⟩ := Formula.join_condition group.operator populated conditional
    rw [formula, solid_backend.assemble_mk proper answered,
      if_neg (Bool.eq_false_iff.mp fruitful), members]
    exact ⟨kept, joined⟩

/-- The formula of a vacuous node is that of no condition. -/
theorem formula_of_isVacuous {node : Node} (proper : node.Proper) (vacuous : node.isVacuous = true)
    (binding : String) : node.formula binding = .always := by
  cases node with
  | mk group children =>
    have memberless := (backend.members_eq_nil ⟨binding, ""⟩ proper.1).mpr vacuous
    simp only [Backend.members, List.append_eq_nil_iff, List.map_eq_nil_iff] at memberless
    obtain ⟨⟨noCriteria, noChildren⟩, noCollections⟩ := memberless
    rw [Node.formula, Node.formulas_eq, noCriteria, noChildren, noCollections]
    rfl

/-- The predicate of a built tree prints the text of one formula and computes its value.  The
    formula connects, from left to right and with the operator of the group, its own criteria,
    the formulas of its children that are not vacuous, and one formula for each collection. -/
theorem label_eq_text (setting : Setting) (steps : List Step) (source name : String) :
    ∃ root predicate, (setting.built steps).Unfolds 0 root ∧
      backend.compile (setting.built steps) source name = .ok predicate ∧
      predicate.condition.label = (root.formula name).text ∧
      predicate.toText = name ++ " => " ++ (root.formula name).text ∧
      (∀ record, predicate.condition.evaluate record = (root.formula name).value record) ∧
      (predicate.isAlways = true ↔ root.formula name = .always) := by
  obtain ⟨root, node, unfolds, proper⟩ := Tree.exists_root setting steps
  let parameter := backend.parameter source name
  have compiled : backend.assemble parameter root = (root.formula name).condition := by
    cases vacuous : root.isVacuous with
    | true =>
      rw [backend.assemble_of_isVacuous rfl parameter proper vacuous,
        formula_of_isVacuous proper vacuous]
      rfl
    | false => exact (assemble_eq_condition proper vacuous).2
  have label : (backend.assemble parameter root).label = (root.formula name).text := by
    rw [compiled, Formula.label_condition]
  refine ⟨root, _, unfolds, compile_eq_ok node proper source name, label,
    congrArg (name ++ " => " ++ ·) label, ?value, ?always⟩
  case value =>
    intro record
    show (backend.assemble parameter root).evaluate record = _
    rw [compiled, Formula.evaluate_condition]
  case always =>
    show (backend.assemble parameter root).isAlways = true ↔ _
    rw [compiled, Formula.isAlways_condition]

/-- Own criteria come before a child group, which here has one formula on elements; the third
    user has the value that the label states, and the fourth has not. -/
theorem label_eq_text_logins :
    ∃ predicate, backend.compile (Demo.setting.built Demo.steps) "User" "x" = .ok predicate ∧
      predicate.condition.label =
        "((x.Id GreaterThan 1 && x.Status In [1, 2, 3]) && x.Logins.any(logins => " ++
          "(logins.LoginValue Equal \"u3\" || logins.LoginProviderName Equal \"IS1\")))" ∧
      predicate.condition.evaluate
        (Demo.makeUser 3 "Sidorov" "Sergey" "Sergeevich" "IS1" 2) = true ∧
      predicate.condition.evaluate
        (Demo.makeUser 4 "Popov" "Nikolay" "Nikolaevich" "IS2" 1) = false := by
  obtain ⟨root, predicate, unfolds, compiled, label, -, values, -⟩ :=
    label_eq_text Demo.setting Demo.steps "User" "x"
  have wellFormed := Demo.setting.wellFormed_built Demo.steps
  refine ⟨predicate, compiled, label.trans ?text, (values _).trans ?third, (values _).trans ?fourth⟩
  case text =>
    exact wellFormed.read_root unfolds (fun root => (root.formula "x").text) (by decide +kernel)
  case third =>
    exact wellFormed.read_root unfolds (fun root => (root.formula "x").value _) (by decide +kernel)
  case fourth =>
    exact wellFormed.read_root unfolds (fun root => (root.formula "x").value _) (by decide +kernel)

end Predicate

end RecordFilter
