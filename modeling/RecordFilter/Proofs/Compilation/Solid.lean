import Mathlib.Algebra.BigOperators.Group.List.Basic
import Mathlib.Algebra.Order.Ring.Nat
import RecordFilter.Proofs.Compilation

/-!
# Backends whose identity stands alone

A backend is `Solid` when no comparison, combination, condition on elements or format
ever gives its identity.  Its compiler then drops exactly the vacuous children:
`isIdentity_assemble` says when a node compiles to the identity, and `assemble_mk`
what the condition is otherwise.
-/

namespace RecordFilter

namespace Backend

variable {Condition Parameter Result : Type} (backend : Backend Condition Parameter Result)

/-- The identity comes out of nothing but itself. -/
structure Solid : Prop where
  identity : backend.isIdentity backend.identity = true
  comparison : ∀ {criterion parameter condition},
    backend.comparison criterion parameter = .ok condition → backend.isIdentity condition = false
  combine : ∀ {operator left right}, backend.isIdentity left = false →
    backend.isIdentity right = false →
      backend.isIdentity (backend.combine operator left right) = false
  anyElement : ∀ {outer collection condition inner}, backend.isIdentity condition = false →
    backend.isIdentity (backend.anyElement outer collection condition inner) = false
  formatGroup : ∀ {scope condition}, backend.isIdentity condition = false →
    backend.isIdentity (backend.formatGroup scope condition) = false

/-- What comparisons have, and combinations, conditions on elements and formats do not
    lose. -/
structure Keeps (holds : Condition → Prop) : Prop where
  comparison : ∀ {criterion parameter condition},
    backend.comparison criterion parameter = .ok condition → holds condition
  combine : ∀ {operator left right}, holds left → holds right →
    holds (backend.combine operator left right)
  anyElement : ∀ {outer collection condition inner}, holds condition →
    holds (backend.anyElement outer collection condition inner)
  formatGroup : ∀ {scope condition}, holds condition →
    holds (backend.formatGroup scope condition)

/-- Conditions combined from left to right. -/
def join (operator : GroupOperator) : List Condition → Condition
  | [] => backend.identity
  | first :: rest => rest.foldl (backend.combine operator) first

/-- The members of a fold that do not drop out. -/
def kept (members : List (Condition × Nat)) : List (Condition × Nat) :=
  members.filter fun member => !backend.isIdentity member.1

/-- No comparison that the node asks for fails. -/
def Answers (parameter : Parameter) (node : Node) : Prop :=
  ∀ ask ∈ backend.asks parameter node, backend.failure? ask = none

/-- A tree that compiles has all its comparisons answered. -/
theorem compile_eq_ok {tree : Tree} {root : Node} (node : tree.node? = some root)
    (proper : root.Proper) {source name : String} {result : Result}
    (compiled : backend.compile tree source name = .ok result) :
    let parameter := backend.parameter source name
    backend.Answers parameter root ∧
      backend.finish (backend.assemble parameter root) parameter = result := by
  intro parameter
  rw [backend.compile_eq node proper, outcome_eq_ok] at compiled
  exact ⟨List.findSome?_eq_none_iff.mp compiled.1, compiled.2⟩

/-- The condition on the elements of one collection. -/
def elementCondition (operator : GroupOperator) (parameter : Parameter)
    (entry : CollectionCriteria) : Condition :=
  let inner := backend.elementParameter entry.collection
  backend.anyElement parameter entry.collection
    (backend.join operator (entry.criteria.map fun c => backend.settled c inner)) inner

/-- The members of a group that count: own criteria, children that are not vacuous,
    and one condition for each collection. -/
def members (parameter : Parameter) (group : Group) (children : List Node) : List Condition :=
  group.criteria.map (backend.settled · parameter) ++
    (Node.live children).map (backend.assemble parameter) ++
    group.collections.map (backend.elementCondition group.operator parameter)

/-- A group has members that count exactly when it is not vacuous. -/
theorem members_eq_nil (parameter : Parameter) {group : Group} {children : List Node}
    (sound : group.Sound) :
    backend.members parameter group children = [] ↔ (Node.mk group children).isVacuous := by
  have collections : group.collections.flatMap (·.criteria) = [] ↔ group.collections = [] := by
    rw [List.flatMap_eq_nil_iff, List.eq_nil_iff_forall_not_mem]
    exact ⟨fun none entry member => sound.inhabited entry member (none entry member),
      fun none entry member => absurd member (none entry)⟩
  simp only [members, Node.isVacuous_mk, Node.live, Group.recorded, List.append_eq_nil_iff,
    List.map_eq_nil_iff, List.filter_eq_nil_iff, Bool.and_eq_true, List.isEmpty_iff, collections,
    List.all_eq_true]
  simp [and_right_comm]

variable {backend}

/-- What the conditions of a join have, the join has. -/
theorem Keeps.join {holds : Condition → Prop} (keeps : backend.Keeps holds)
    (operator : GroupOperator) {conditions : List Condition} (nonempty : conditions ≠ [])
    (each : ∀ condition ∈ conditions, holds condition) :
    holds (backend.join operator conditions) := by
  cases conditions with
  | nil => contradiction
  | cons first rest =>
    have head := each first List.mem_cons_self
    have tail := fun c member => each c (List.mem_cons_of_mem _ member)
    clear each nonempty
    simp only [Backend.join]
    induction rest generalizing first with
    | nil => exact head
    | cons second rest ih =>
      exact ih _ (keeps.combine head (tail second List.mem_cons_self))
        fun c member => tail c (List.mem_cons_of_mem _ member)

namespace Solid

theorem keeps (solid : backend.Solid) :
    backend.Keeps fun condition => backend.isIdentity condition = false :=
  ⟨solid.comparison, solid.combine, solid.anyElement, solid.formatGroup⟩

/-- Joining at least one condition, none of them the identity, does not give the
    identity. -/
theorem isIdentity_join (solid : backend.Solid) (operator : GroupOperator)
    {conditions : List Condition} (nonempty : conditions ≠ [])
    (each : ∀ condition ∈ conditions, backend.isIdentity condition = false) :
    backend.isIdentity (backend.join operator conditions) = false :=
  solid.keeps.join operator nonempty each

/-- A fold that has begun combines what is kept and adds up its weights. -/
theorem foldl_push {operator : GroupOperator} (solid : backend.Solid)
    (members : List (Condition × Nat)) (folded : Condition × Nat)
    (begun : backend.isIdentity folded.1 = false) :
    members.foldl (backend.push operator) folded =
      (((backend.kept members).map Prod.fst).foldl (backend.combine operator) folded.1,
        folded.2 + ((backend.kept members).map fun member => max 1 member.2).sum) := by
  induction members generalizing folded with
  | nil => simp [kept]
  | cons member rest ih =>
    rw [List.foldl_cons]
    cases dropped : backend.isIdentity member.1 with
    | true =>
      have same : backend.push operator folded member = folded := by simp [push, dropped]
      rw [same, ih folded begun]
      simp [kept, dropped]
    | false =>
      have pushed : backend.push operator folded member =
          (backend.combine operator folded.1 member.1, folded.2 + max 1 member.2) := by
        simp [push, dropped, begun]
      rw [pushed, ih _ (solid.combine begun dropped)]
      simp [kept, dropped, Nat.add_assoc]

/-- A fold joins what is kept and adds up its weights. -/
theorem fold_eq (solid : backend.Solid) (operator : GroupOperator)
    (members : List (Condition × Nat)) :
    backend.fold operator members =
      (backend.join operator ((backend.kept members).map Prod.fst),
        ((backend.kept members).map fun member => max 1 member.2).sum) := by
  unfold fold
  induction members with
  | nil => simp [kept, join]
  | cons member rest ih =>
    rw [List.foldl_cons]
    cases dropped : backend.isIdentity member.1 with
    | true =>
      have same : backend.push operator (backend.identity, 0) member = (backend.identity, 0) := by
        simp [push, dropped]
      rw [same, ih]
      simp [kept, dropped]
    | false =>
      have pushed : backend.push operator (backend.identity, 0) member =
          (member.1, max 1 member.2) := by
        simp [push, dropped, solid.identity]
      rw [pushed, solid.foldl_push rest (member.1, max 1 member.2) dropped]
      simp [kept, dropped, join]

theorem isIdentity_settled (solid : backend.Solid) {criterion : Criterion}
    {parameter : Parameter} (answered : backend.failure? (criterion, parameter) = none) :
    backend.isIdentity (backend.settled criterion parameter) = false :=
  solid.comparison (backend.failure?_eq_none.mp answered)

/-- Comparisons that do not fail are all kept. -/
theorem kept_settled (solid : backend.Solid) {criteria : List Criterion} {parameter : Parameter}
    (answered : ∀ criterion ∈ criteria, backend.failure? (criterion, parameter) = none) :
    backend.kept (criteria.map fun c => (backend.settled c parameter, 1)) =
      criteria.map fun c => (backend.settled c parameter, 1) := by
  refine List.filter_eq_self.mpr ?_
  intro member present
  obtain ⟨criterion, criterionMember, rfl⟩ := List.mem_map.mp present
  simp [solid.isIdentity_settled (answered criterion criterionMember)]

theorem assembleCollection_eq (solid : backend.Solid) {operator : GroupOperator}
    {parameter : Parameter} {entry : CollectionCriteria}
    (answered : ∀ criterion ∈ entry.criteria,
      backend.failure? (criterion, backend.elementParameter entry.collection) = none) :
    backend.assembleCollection operator parameter entry =
      (backend.elementCondition operator parameter entry, entry.criteria.length) := by
  simp only [assembleCollection, solid.fold_eq, solid.kept_settled answered, List.map_map]
  simp [elementCondition, Function.comp_def, List.map_const']

theorem isIdentity_elementCondition (solid : backend.Solid) {operator : GroupOperator}
    {parameter : Parameter} {entry : CollectionCriteria} (inhabited : entry.criteria ≠ [])
    (answered : ∀ criterion ∈ entry.criteria,
      backend.failure? (criterion, backend.elementParameter entry.collection) = none) :
    backend.isIdentity (backend.elementCondition operator parameter entry) = false := by
  refine solid.anyElement (solid.isIdentity_join _ (by simpa using inhabited) ?_)
  intro condition present
  obtain ⟨criterion, member, rfl⟩ := List.mem_map.mp present
  exact solid.isIdentity_settled (answered criterion member)

/-- What a proper node asks for consists of its own comparisons, those of its
    children and those on elements. -/
theorem answers_mk {parameter : Parameter} {group : Group} {children : List Node} :
    backend.Answers parameter (.mk group children) ↔
      (∀ criterion ∈ group.criteria, backend.failure? (criterion, parameter) = none) ∧
      (∀ node ∈ children, backend.Answers parameter node) ∧
      ∀ entry ∈ group.collections, ∀ criterion ∈ entry.criteria,
        backend.failure? (criterion, backend.elementParameter entry.collection) = none := by
  simp only [Answers, asks, asksOf_eq, List.mem_append, List.mem_map, List.mem_flatMap]
  constructor
  · intro answered
    refine ⟨?_, ?_, ?_⟩
    · intro criterion member
      exact answered _ (.inl (.inl ⟨criterion, member, rfl⟩))
    · intro node member ask asked
      exact answered ask (.inl (.inr ⟨node, member, asked⟩))
    · intro entry member criterion criterionMember
      exact answered _ (.inr ⟨entry, member, criterion, criterionMember, rfl⟩)
  · rintro ⟨own, nested, related⟩ ask
    rintro ((⟨criterion, member, rfl⟩ | ⟨node, member, asked⟩) |
      ⟨entry, member, criterion, criterionMember, rfl⟩)
    · exact own criterion member
    · exact nested node member ask asked
    · exact related entry member criterion criterionMember

theorem kept_append (left right : List (Condition × Nat)) :
    backend.kept (left ++ right) = backend.kept left ++ backend.kept right :=
  List.filter_append _ _

/-- Of the conditions of children those of vacuous ones drop out. -/
theorem kept_assembleAll {parameter : Parameter} {children : List Node}
    (vacuous : ∀ node ∈ children,
      backend.isIdentity (backend.assemble parameter node) = node.isVacuous) :
    backend.kept (backend.assembleAll parameter children) =
      (Node.live children).map fun node => (backend.assemble parameter node, 1) := by
  rw [assembleAll_eq, kept, List.filter_map, Node.live]
  refine congrArg _ (List.filter_congr ?_)
  intro node member
  simp [vacuous node member]

/-- The fold of a group joins the members that count and adds up their terms. -/
theorem fold_members (solid : backend.Solid) {parameter : Parameter} {group : Group}
    {children : List Node} (sound : group.Sound)
    (answered : backend.Answers parameter (.mk group children))
    (vacuous : ∀ node ∈ children,
      backend.isIdentity (backend.assemble parameter node) = node.isVacuous) :
    backend.fold group.operator
        (group.criteria.map (fun c => (backend.settled c parameter, 1)) ++
          backend.assembleAll parameter children ++
          group.collections.map (backend.assembleCollection group.operator parameter)) =
      (backend.join group.operator (backend.members parameter group children),
        group.criteria.length + (Node.live children).length + group.elementCount) := by
  obtain ⟨own, -, related⟩ := answers_mk.mp answered
  have collections : group.collections.map
      (backend.assembleCollection group.operator parameter) =
      group.collections.map fun entry =>
        (backend.elementCondition group.operator parameter entry, entry.criteria.length) :=
    List.map_congr_left fun entry member => solid.assembleCollection_eq (related entry member)
  have keptCollections : backend.kept (group.collections.map fun entry =>
      (backend.elementCondition group.operator parameter entry, entry.criteria.length)) =
      group.collections.map fun entry =>
        (backend.elementCondition group.operator parameter entry, entry.criteria.length) := by
    refine List.filter_eq_self.mpr ?_
    intro member present
    obtain ⟨entry, entryMember, rfl⟩ := List.mem_map.mp present
    simp [solid.isIdentity_elementCondition (sound.inhabited entry entryMember)
      (related entry entryMember)]
  have weights : (group.collections.map fun entry => max 1 entry.criteria.length) =
      group.collections.map fun entry => entry.criteria.length := by
    refine List.map_congr_left ?_
    intro entry member
    have positive := List.length_pos_iff.mpr (sound.inhabited entry member)
    omega
  rw [collections, solid.fold_eq, kept_append, kept_append, solid.kept_settled own,
    kept_assembleAll vacuous, keptCollections]
  simp only [List.map_append, List.map_map, List.sum_append, Function.comp_def, weights]
  simp [members, Group.elementCount, List.map_const']

/-- No member that counts is the identity. -/
theorem isIdentity_of_mem_members (solid : backend.Solid) {parameter : Parameter} {group : Group}
    {children : List Node} (sound : group.Sound)
    (answered : backend.Answers parameter (.mk group children))
    (vacuous : ∀ node ∈ children,
      backend.isIdentity (backend.assemble parameter node) = node.isVacuous) :
    ∀ condition ∈ backend.members parameter group children,
      backend.isIdentity condition = false := by
  obtain ⟨own, -, related⟩ := answers_mk.mp answered
  intro condition present
  simp only [members, List.mem_append, List.mem_map] at present
  rcases present with (⟨criterion, member, rfl⟩ | ⟨node, member, rfl⟩) | ⟨entry, member, rfl⟩
  · exact solid.isIdentity_settled (own criterion member)
  · obtain ⟨child, fruitful⟩ := List.mem_filter.mp member
    rw [vacuous node child]
    simpa using fruitful
  · exact solid.isIdentity_elementCondition (sound.inhabited entry member) (related entry member)

/-- The condition of a group, given that exactly the vacuous children came to the
    identity. -/
theorem assemble_of_children (solid : backend.Solid) {parameter : Parameter} {group : Group}
    {children : List Node} (proper : (Node.mk group children).Proper)
    (answered : backend.Answers parameter (.mk group children))
    (vacuous : ∀ node ∈ children,
      backend.isIdentity (backend.assemble parameter node) = node.isVacuous) :
    backend.assemble parameter (.mk group children) =
      if (Node.mk group children).isVacuous then backend.identity
      else backend.formatGroup
        ⟨group, group.criteria.length + (Node.live children).length + group.elementCount⟩
        (backend.join group.operator (backend.members parameter group children)) := by
  obtain ⟨sound, lengths, -⟩ := proper
  simp only [assemble]
  by_cases empty : group.isEmpty = true
  · have childless : children = [] := by
      simp only [Group.isEmpty, Bool.and_eq_true, List.isEmpty_iff] at empty
      rw [empty.1.2] at lengths
      exact List.length_eq_zero_iff.mp lengths.symm
    have barren : (Node.mk group children).isVacuous = true := by
      simp only [Group.isEmpty, Bool.and_eq_true, List.isEmpty_iff] at empty
      simp [Node.isVacuous_mk, childless, Group.recorded, empty.1.1, empty.2]
    rw [if_pos empty, if_pos barren]
  · rw [if_neg empty, solid.fold_members sound answered vacuous, format]
    by_cases barren : (Node.mk group children).isVacuous = true
    · have memberless := (backend.members_eq_nil parameter sound).mpr barren
      simp [memberless, join, solid.identity, barren]
    · have populated := mt (backend.members_eq_nil parameter sound).mp barren
      have joined := solid.isIdentity_join group.operator populated
        (solid.isIdentity_of_mem_members sound answered vacuous)
      simp [joined, barren]

/-- A proper node compiles to the identity exactly when it is vacuous. -/
theorem isIdentity_assemble (solid : backend.Solid) {parameter : Parameter} {node : Node} :
    node.Proper → backend.Answers parameter node →
      backend.isIdentity (backend.assemble parameter node) = node.isVacuous := by
  induction node using Node.inductionOn with
  | mk group children ih =>
    intro proper answered
    have vacuous : ∀ node ∈ children,
        backend.isIdentity (backend.assemble parameter node) = node.isVacuous :=
      fun node member => ih node member (Node.properAll_iff.mp proper.2.2 node member).2
        ((answers_mk.mp answered).2.1 node member)
    rw [solid.assemble_of_children proper answered vacuous]
    by_cases barren : (Node.mk group children).isVacuous = true
    · rw [if_pos barren, solid.identity, barren]
    · have populated := mt (backend.members_eq_nil parameter proper.1).mp barren
      rw [if_neg barren, Bool.eq_false_iff.mpr barren]
      exact solid.formatGroup (solid.isIdentity_join _ populated
        (solid.isIdentity_of_mem_members proper.1 answered vacuous))

/-- The condition of a group: the identity when it is vacuous, otherwise its members
    that count, joined and formatted. -/
theorem assemble_mk (solid : backend.Solid) {parameter : Parameter} {group : Group}
    {children : List Node} (proper : (Node.mk group children).Proper)
    (answered : backend.Answers parameter (.mk group children)) :
    backend.assemble parameter (.mk group children) =
      if (Node.mk group children).isVacuous then backend.identity
      else backend.formatGroup
        ⟨group, group.criteria.length + (Node.live children).length + group.elementCount⟩
        (backend.join group.operator (backend.members parameter group children)) :=
  solid.assemble_of_children proper answered fun node member =>
    solid.isIdentity_assemble (Node.properAll_iff.mp proper.2.2 node member).2
      ((answers_mk.mp answered).2.1 node member)

end Solid

/-- What comparisons have and the backend does not lose, the condition of a node that is not
    vacuous has. -/
theorem Keeps.assemble {holds : Condition → Prop} (keeps : backend.Keeps holds)
    (solid : backend.Solid) {parameter : Parameter} {node : Node} :
    node.Proper → backend.Answers parameter node → node.isVacuous = false →
      holds (backend.assemble parameter node) := by
  induction node using Node.inductionOn with
  | mk group children ih =>
    intro proper answered fruitful
    obtain ⟨own, nested, related⟩ := Solid.answers_mk.mp answered
    have settled : ∀ criterion parameter, backend.failure? (criterion, parameter) = none →
        holds (backend.settled criterion parameter) :=
      fun _ _ answer => keeps.comparison (backend.failure?_eq_none.mp answer)
    have populated := mt (backend.members_eq_nil parameter proper.1).mp
      (Bool.eq_false_iff.mp fruitful)
    rw [solid.assemble_mk proper answered, if_neg (Bool.eq_false_iff.mp fruitful)]
    refine keeps.formatGroup (keeps.join _ populated ?_)
    intro condition member
    simp only [members, List.mem_append, List.mem_map] at member
    rcases member with (⟨criterion, present, rfl⟩ | ⟨node, present, rfl⟩) | ⟨entry, present, rfl⟩
    · exact settled _ _ (own criterion present)
    · obtain ⟨child, live⟩ := List.mem_filter.mp present
      exact ih node child (Node.properAll_iff.mp proper.2.2 node child).2 (nested node child)
        (by simpa using live)
    · refine keeps.anyElement (keeps.join _ (by simpa using proper.1.inhabited entry present) ?_)
      intro condition member
      obtain ⟨criterion, inside, rfl⟩ := List.mem_map.mp member
      exact settled _ _ (related entry present criterion inside)

end Backend

end RecordFilter
