import RecordFilter.Demo
import RecordFilter.Proofs.Atomicity
import RecordFilter.Proofs.Predicate.Monotone
import RecordFilter.Proofs.Unconditional
import RecordFilter.Proofs.Value.Coherence

/-!
# Membership as a disjunction

To ask that a property is one of several values is to ask that it equals the first of them,
or the second, and so on.  A tree can say it either way: with one criterion, or with an `or`
group that holds one criterion for each value.  Wherever it is said, the compiled predicates
match the same records as long as some value is present (`Predicate.among_eq_anyEqual`).
Without one the criterion holds for no record, while a group without criteria says nothing.
-/

namespace RecordFilter

/-! ## One list and its items -/

/-- The criteria that compare a property with each of several values in turn; an absent value
    makes none. -/
def Criterion.comparing (property : Property) (operator : Operator) (values : List Value) :
    List Criterion :=
  (values.filter (!·.isNull)).map (⟨property, ·, operator⟩)

/-- A property is one of the items when it equals one that is present. -/
theorem Criterion.holds_among (property : Property) (items : List Value) (record : Record) :
    holds ⟨property, .list items, .among⟩ record =
      (comparing property .equal items).any (·.holds record) := by
  have absent : ∀ item : Value, (property.get record).same item =
      (!item.isNull && (property.get record).same item) := by
    intro item
    cases item <;> simp [Value.same, Value.isNull]
  have equals : ∀ item, holds ⟨property, item, .equal⟩ record =
      (property.get record).same item := fun item => Operator.holds_equal
  have among : holds ⟨property, .list items, .among⟩ record =
      items.any (property.get record).same := by
    cases null : (property.get record).isNull with
    | true => simp [holds, Operator.holds, null, Value.same]
    | false => simp [holds, Operator.holds, null, Value.items?]
  rw [among, comparing, List.any_map, List.any_filter]
  exact congrArg (List.any items) (funext fun item => by rw [absent, Function.comp, equals])

/-- What membership in a list accepts is accepted for equality with each item. -/
theorem Operator.accepts_equal_of_mem {kind : Kind} {items : List Value}
    (accepted : among.accepts kind (.list items) = .ok ()) :
    ∀ item ∈ items, equal.accepts kind item = .ok () := by
  intro item member
  obtain ⟨items', same, each⟩ := accepts_among accepted
  cases same
  obtain ⟨single, admitted⟩ := each item member
  simp [accepts, isOrdering, single, admitted]

/-! ## Steps that succeed -/

namespace Step

variable {setting : Setting}

/-- Carries out steps one after the other, and stops with the error of the first that fails. -/
def attempt (setting : Setting) (steps : List Step) (b : Building) :
    Except FilterError Building :=
  steps.foldlM (fun b step => (step.apply setting b).map Prod.fst) b

theorem attempt_cons (step : Step) (rest : List Step) (b : Building) :
    attempt setting (step :: rest) b =
      ((step.apply setting b).map Prod.fst).bind (attempt setting rest) :=
  List.foldlM_cons

theorem attempt_append {first second : List Step} {b b' : Building}
    (attempted : attempt setting first b = .ok b') :
    attempt setting (first ++ second) b = attempt setting second b' := by
  rw [attempt, List.foldlM_append]
  exact congrArg (Except.bind · _) attempted

/-- Steps that all succeed come to what carrying them out comes to. -/
theorem run_of_attempt {steps : List Step} {b b' : Building}
    (attempted : attempt setting steps b = .ok b') : run setting steps b = b' := by
  induction steps generalizing b with
  | nil =>
    cases attempted
    rfl
  | cons step rest ih =>
    rw [attempt_cons] at attempted
    obtain ⟨next, applied, later⟩ := Except.bind_eq_ok.mp attempted
    obtain ⟨⟨after, events⟩, carried, rfl⟩ := Except.map_eq_ok.mp applied
    have stepped : step.after setting b = after := by rw [Step.after, carried]
    rw [run, List.foldl_cons, stepped]
    exact ih later

/-- Comparing a property with values that are accepted succeeds, and the group of the cursor
    gains the criteria. -/
theorem attempt_adds {choice : PropertyChoice} {property : Property} {operator : Operator}
    (resolved : choice.resolve setting.source = .ok property) {values : List ValueChoice}
    (accepted : ∀ value ∈ values,
      operator.accepts property.kind (value.value setting.filter) = .ok ()) (b : Building) :
    attempt setting (values.map (.add choice · operator)) b =
      .ok (b.change (Group.extend ⟨Criterion.comparing property operator
        (values.map (·.value setting.filter)), []⟩)) := by
  induction values generalizing b with
  | nil =>
    have unchanged : b.change (Group.extend .none) = b :=
      congrArg (Building.mk · b.cursor) (b.tree.modify_extend_none b.cursor)
    exact congrArg Except.ok unchanged.symm
  | cons value rest ih =>
    have later := ih fun other member => accepted other (List.mem_cons_of_mem _ member)
    rw [List.map_cons, attempt_cons, apply, resolved, Except.bind, Building.addCriterion]
    cases absent : (value.value setting.filter).isNull with
    | true =>
      rw [Criterion.make_of_isNull absent]
      simpa [Except.map, Except.bind, Criterion.comparing, absent] using later b
    | false =>
      rw [Criterion.make_of_accepted absent (accepted value List.mem_cons_self)]
      simp only [Except.map, Except.bind]
      rw [later, change_change]
      simp only [List.map_cons, Criterion.comparing, absent, Bool.not_false,
        List.filter_cons_of_pos]
      refine congrArg (fun change => Except.ok (b.change change)) (funext fun group => ?_)
      simp [Group.extend, Group.addCriterion]

end Step

/-! ## A criterion and a group in its place -/

theorem GroupOperator.holds_of_perm (operator : GroupOperator) {values values' : List Bool}
    (perm : values.Perm values') : operator.holds values = operator.holds values' := by
  cases operator with
  | and => exact perm.all_eq
  | or => exact perm.any_eq

/-- Members none of which holds do not hold together, if there is one. -/
theorem GroupOperator.holds_of_forall_false (operator : GroupOperator) {values : List Bool}
    (nonempty : values ≠ []) (each : ∀ value ∈ values, value = false) :
    operator.holds values = false := by
  cases operator with
  | and =>
    obtain ⟨value, member⟩ := List.exists_mem_of_ne_nil values nonempty
    exact List.all_eq_false.mpr ⟨value, member, by simp [each value member]⟩
  | or => exact List.any_eq_false.mpr fun value member => by simp [each value member]

namespace Node

/-- Two nodes that say the same of every record. -/
structure Alike (left right : Node) : Prop where
  isVacuous : left.isVacuous = right.isVacuous
  holds : ∀ record, left.holds record = right.holds record

theorem all_isVacuous_of_alike {nodes nodes' : List Node}
    (alike : List.Forall₂ Alike nodes nodes') : nodes.all isVacuous = nodes'.all isVacuous := by
  induction alike with
  | nil => rfl
  | cons first _ ih => rw [List.all_cons, List.all_cons, first.isVacuous, ih]

theorem holdsEach_of_alike {nodes nodes' : List Node} (alike : List.Forall₂ Alike nodes nodes')
    (record : Record) : holdsEach record nodes = holdsEach record nodes' := by
  induction alike with
  | nil => rfl
  | cons first _ ih => simp only [holdsEach, first.isVacuous, first.holds record, ih]

/-- A group whose children are exchanged for such that say the same. -/
theorem alike_mk (group : Group) {children children' : List Node}
    (alike : List.Forall₂ Alike children children') :
    (mk group children).Alike (mk group children') := by
  refine ⟨?_, fun record => ?_⟩
  · rw [isVacuous_mk, isVacuous_mk, all_isVacuous_of_alike alike]
  · rw [holds_mk, holds_mk, holdsEach_of_alike alike]

/-- Own criteria may stand in a child group of their own that says the same. -/
theorem alike_extend (group : Group) {own : List Criterion} {leaf : Node} (id : Nat)
    (empty : own = [] ↔ leaf.isVacuous = true)
    (same : ∀ record, own.map (·.holds record) = holdsEach record [leaf])
    {children children' : List Node} (alike : List.Forall₂ Alike children children') :
    (mk (group.extend ⟨own, []⟩) children).Alike
      (mk (group.addChild id) (children' ++ [leaf])) := by
  refine ⟨?_, fun record => ?_⟩
  · rw [Bool.eq_iff_iff, isVacuous_mk, isVacuous_mk, all_isVacuous_of_alike alike]
    simp only [Group.recorded, Group.extend, Group.addChild, List.foldl_nil, Bool.and_eq_true,
      List.isEmpty_iff, List.append_eq_nil_iff, List.all_append, List.all_cons, List.all_nil,
      Bool.and_true, empty]
    tauto
  · have split : holdsEach record (children' ++ [leaf]) =
        holdsEach record children' ++ holdsEach record [leaf] := by
      simp [holdsEach_eq, live]
    rw [holds_mk, holds_mk, holdsEach_of_alike alike, split, ← same]
    simp only [Group.extend, Group.addChild, List.foldl_nil, List.map_append]
    refine group.operator.holds_of_perm (List.Perm.append_right _ ?_)
    rw [List.append_assoc]
    exact List.perm_append_comm.append_left _

end Node

namespace Tree

variable {tree : Tree}

theorem unfoldsAll_concat {ids : List Nat} {id : Nat} {nodes : List Node}
    (unfolds : tree.UnfoldsAll (ids ++ [id]) nodes) :
    ∃ before last, nodes = before ++ [last] ∧ tree.UnfoldsAll ids before ∧
      tree.Unfolds id last := by
  have reversed := List.forall₂_reverse_iff.mpr (unfoldsAll_iff.mp unfolds)
  rw [List.reverse_append] at reversed
  obtain ⟨last, rest, here, later, split⟩ := List.forall₂_cons_left_iff.mp reversed
  refine ⟨rest.reverse, last, ?_, unfoldsAll_iff.mpr ?_, here⟩
  · rw [← nodes.reverse_reverse, split, List.reverse_cons]
  · rwa [← List.forall₂_reverse_iff, List.reverse_reverse]

/-- The tree with a new child group that holds criteria. -/
def nest (tree : Tree) (place : Nat) (operator : GroupOperator) (criteria : List Criterion) :
    Tree :=
  (tree.addGroup place operator).modify tree.groups.length (Group.extend ⟨criteria, []⟩)

/-- The node of a group that holds nothing but criteria. -/
def leaf (id place : Nat) (operator : GroupOperator) (criteria : List Criterion) : Node :=
  .mk ((Group.empty id operator (some place)).extend ⟨criteria, []⟩) []

theorem unfolds_nest {place : Nat} {operator : GroupOperator} {criteria : List Criterion} :
    (tree.nest place operator criteria).Unfolds tree.groups.length
      (leaf tree.groups.length place operator criteria) := by
  refine ⟨?_, trivial⟩
  rw [nest, group?_modify, group?_addGroup_length, Option.map_some, if_pos rfl]

theorem group?_nest {place id : Nat} {operator : GroupOperator} {criteria : List Criterion}
    {group : Group} (found : tree.group? id = some group) :
    (tree.nest place operator criteria).group? id =
      some (if place = id then group.addChild tree.groups.length else group) := by
  rw [nest, group?_modify, group?_addGroup_of_found found, Option.map_some,
    if_neg (Nat.ne_of_gt (group?_isSome found))]

/-- Criteria that join a group, or a new child of it, make trees whose nodes say the same if
    the node of that child says the same as the criteria. -/
theorem WellFormed.alike_nest (wellFormed : tree.WellFormed) {place : Nat}
    {operator : GroupOperator} {own nested : List Criterion}
    (empty : own = [] ↔ (leaf tree.groups.length place operator nested).isVacuous = true)
    (same : ∀ record, own.map (·.holds record) =
      Node.holdsEach record [leaf tree.groups.length place operator nested]) {node : Node} :
    ∀ {id : Nat} {node' : Node}, (tree.modify place (Group.extend ⟨own, []⟩)).Unfolds id node →
      (tree.nest place operator nested).Unfolds id node' → id < tree.groups.length →
        node.Alike node' := by
  induction node using Node.inductionOn with
  | mk group children ih =>
    intro id node' unfolds unfolds' bound
    cases node' with
    | mk group' children' =>
    -- the new group is not met here: it is listed by `place` only, as the last child
    obtain ⟨before, found⟩ := exists_group bound
    have grown := unfolds.1
    have linked := unfolds'.1
    rw [group?_modify, found, Option.map_some, Option.some.injEq] at grown
    rw [group?_nest found, Option.some.injEq] at linked
    have below : ∀ {kids : List Node}, group.children = before.children →
        (tree.nest place operator nested).UnfoldsAll before.children kids →
          List.Forall₂ Node.Alike children kids := by
      intro kids links unfoldsKids
      refine forall₂_of_unfolds (unfoldsAll_iff.mp (links ▸ unfolds.2))
        (unfoldsAll_iff.mp unfoldsKids) ?_
      intro child listed kid present kid' unfoldsKid unfoldsKid'
      exact ih kid present unfoldsKid unfoldsKid' (wellFormed.child_lt found listed).2
    by_cases here : place = id
    · rw [if_pos here] at grown linked
      subst grown linked
      obtain ⟨kids, last, rfl, unfoldsKids, unfoldsLast⟩ := unfoldsAll_concat unfolds'.2
      rw [unfoldsLast.unique unfolds_nest]
      exact Node.alike_extend before _ empty same (below rfl unfoldsKids)
    · rw [if_neg here] at grown linked
      subst grown linked
      exact Node.alike_mk before (below rfl unfolds'.2)

end Tree

namespace Node

theorem isVacuous_leaf {id place : Nat} {operator : GroupOperator} {criteria : List Criterion} :
    (Tree.leaf id place operator criteria).isVacuous = true ↔ criteria = [] := by
  simp [Tree.leaf, isVacuous_mk, Group.recorded, Group.extend, Group.empty]

theorem holds_leaf (record : Record) (id place : Nat) (operator : GroupOperator)
    (criteria : List Criterion) : (Tree.leaf id place operator criteria).holds record =
      operator.holds (criteria.map (·.holds record)) := by
  simp [Tree.leaf, holds_mk, holdsEach, Group.extend, Group.empty]

/-- A node with criteria none of which ever holds does not hold either. -/
theorem holds_of_never {node : Node} :
    node.Proper → (∀ criterion ∈ node.recorded, ∀ record, criterion.holds record = false) →
      node.isVacuous = false → ∀ record, node.holds record = false := by
  induction node using Node.inductionOn with
  | mk group children ih =>
    intro proper never fruitful record
    simp only [recorded, recordedOf_eq, List.mem_append, List.mem_flatMap] at never
    rw [holds_mk]
    refine group.operator.holds_of_forall_false ?nonempty ?each
    case nonempty =>
      intro none
      simp only [List.append_eq_nil_iff, List.map_eq_nil_iff, holdsEach_eq, live,
        List.filter_eq_nil_iff, Bool.not_eq_true', Bool.not_eq_false] at none
      obtain ⟨⟨noCriteria, noLive⟩, noCollections⟩ := none
      have vacuous : (mk group children).isVacuous = true := by
        rw [isVacuous_mk, List.all_eq_true.mpr noLive]
        simp [Group.recorded, noCriteria, noCollections]
      rw [fruitful] at vacuous
      cases vacuous
    case each =>
      intro value member
      rw [holdsEach_eq, List.mem_append, List.mem_append] at member
      rcases member with (own | nested) | related
      · obtain ⟨criterion, here, rfl⟩ := List.mem_map.mp own
        exact never criterion (.inl (.inl here)) record
      · obtain ⟨node, isLive, rfl⟩ := List.mem_map.mp nested
        obtain ⟨child, fruitful⟩ := List.mem_filter.mp isLive
        have neverBelow := fun criterion below => never criterion (.inl (.inr ⟨node, child, below⟩))
        exact ih node child (proper.of_mem child) neverBelow (by simpa using fruitful) record
      · obtain ⟨entry, here, rfl⟩ := List.mem_map.mp related
        have inhabited := proper.1.inhabited entry here
        refine List.any_eq_false.mpr fun element _ => ?_
        rw [Bool.not_eq_true]
        refine group.operator.holds_of_forall_false (by simpa using inhabited) ?_
        intro value member
        obtain ⟨criterion, inside, rfl⟩ := List.mem_map.mp member
        exact never criterion (.inr ⟨entry, here, inside⟩) element

end Node

namespace Tree

variable {tree : Tree}

/-- A new child group without criteria says nothing. -/
theorem WellFormed.alike_nest_nil (wellFormed : tree.WellFormed) {place : Nat}
    {operator : GroupOperator} {root root' : Node} (unfolds : tree.Unfolds 0 root)
    (unfolds' : (tree.nest place operator []).Unfolds 0 root') : root.Alike root' := by
  have vacuous : (leaf tree.groups.length place operator []).isVacuous = true :=
    Node.isVacuous_leaf.mpr rfl
  rw [← tree.modify_extend_none place] at unfolds
  refine wellFormed.alike_nest (by simp [vacuous]) ?_ unfolds unfolds'
    (List.length_pos_iff.mpr wellFormed.nonempty)
  intro record
  simp [Node.holdsEach, vacuous]

/-- Where some value is present, a new child `or` group of equalities says the same as
    membership. -/
theorem WellFormed.alike_nest_equals (wellFormed : tree.WellFormed) {place : Nat}
    {property : Property} {values : List Value} (present : ∃ value ∈ values, value.isNull = false)
    {root root' : Node} (unfolds : (tree.modify place
      (Group.extend ⟨[⟨property, .list values, .among⟩], []⟩)).Unfolds 0 root)
    (unfolds' : (tree.nest place .or
      (Criterion.comparing property .equal values)).Unfolds 0 root') : root.Alike root' := by
  obtain ⟨value, member, notNull⟩ := present
  have equality : ⟨property, value, .equal⟩ ∈ Criterion.comparing property .equal values :=
    List.mem_map_of_mem (List.mem_filter.mpr ⟨member, by simp [notNull]⟩)
  have fruitful : (leaf tree.groups.length place .or
      (Criterion.comparing property .equal values)).isVacuous = false := by
    rw [Bool.eq_false_iff]
    exact mt Node.isVacuous_leaf.mp (List.ne_nil_of_mem equality)
  refine wellFormed.alike_nest (by simp [fruitful]) ?_ unfolds unfolds'
    (List.length_pos_iff.mpr wellFormed.nonempty)
  intro record
  rw [List.map_singleton, Criterion.holds_among]
  simp [Node.holdsEach, fruitful, Node.holds_leaf, GroupOperator.holds]

/-- Criteria that join a group of a tree without criteria are all that the tree holds. -/
theorem mem_recorded_of_isEmpty (empty : tree.isEmpty = true) {place : Nat}
    (bound : place < tree.groups.length) {own : List Criterion} {criterion : Criterion} :
    (∃ group ∈ (tree.modify place (Group.extend ⟨own, []⟩)).groups, criterion ∈ group.recorded) ↔
      criterion ∈ own := by
  have recorded : ∀ {i group}, tree.group? i = some group →
      (group.extend ⟨own, []⟩).recorded = own := by
    intro i group found
    have nothing := isEmpty_iff.mp empty group (List.mem_of_getElem? found)
    obtain ⟨noCriteria, noElements⟩ := List.append_eq_nil_iff.mp nothing
    rw [Group.recorded, Group.extend, noCriteria, List.foldl_nil, noElements, List.nil_append,
      List.append_nil]
  constructor
  · rintro ⟨group, member, holdsIt⟩
    obtain ⟨i, found⟩ := List.mem_iff_getElem?.mp member
    change (tree.modify place _).group? i = some group at found
    rw [group?_modify] at found
    obtain ⟨before, foundBefore, rfl⟩ := Option.map_eq_some_iff.mp found
    split at holdsIt
    · rwa [recorded foundBefore] at holdsIt
    · rw [isEmpty_iff.mp empty before (List.mem_of_getElem? foundBefore)] at holdsIt
      cases holdsIt
  · intro member
    obtain ⟨group, found⟩ := exists_group bound
    have grown : (tree.modify place (Group.extend ⟨own, []⟩)).group? place =
        some (group.extend ⟨own, []⟩) := by
      rw [group?_modify, found, Option.map_some, if_pos rfl]
    exact ⟨_, List.mem_of_getElem? grown, by rwa [recorded found]⟩

/-- A criterion that never holds makes a tree without other criteria match nothing. -/
theorem WellFormed.fails_alone {place : Nat} {criterion : Criterion} {root : Node}
    (wellFormed : (tree.modify place (Group.extend ⟨[criterion], []⟩)).WellFormed)
    (empty : tree.isEmpty = true) (bound : place < tree.groups.length)
    (never : ∀ record, criterion.holds record = false)
    (unfolds : (tree.modify place (Group.extend ⟨[criterion], []⟩)).Unfolds 0 root) :
    root.isVacuous = false ∧ ∀ record, root.holds record = false := by
  have only : ∀ other, other ∈ root.recorded ↔ other = criterion := by
    intro other
    rw [wellFormed.mem_recorded unfolds]
    exact (mem_recorded_of_isEmpty empty bound).trans List.mem_singleton
  have fruitful : root.isVacuous = false := by
    rw [Bool.eq_false_iff, Ne, Node.isVacuous_iff]
    exact List.ne_nil_of_mem ((only criterion).mpr rfl)
  refine ⟨fruitful, Node.holds_of_never (unfolds.proper wellFormed) ?_ fruitful⟩
  intro other member
  rw [(only other).mp member]
  exact never

end Tree

/-- A well-formed tree compiles to a predicate that matches the records for which its root
    holds, or all when the root is vacuous. -/
theorem Predicate.exists_compile {tree : Tree} (wellFormed : tree.WellFormed)
    (source name : String) :
    ∃ root predicate, tree.Unfolds 0 root ∧ backend.compile tree source name = .ok predicate ∧
      ∀ record, predicate.isMatch record = (root.isVacuous || root.holds record) := by
  obtain ⟨root, node, unfolds⟩ := wellFormed.unfolds_node?
  have proper := unfolds.proper wellFormed
  exact ⟨root, _, unfolds, compile_eq_ok node proper source name, evaluate_root proper _⟩

/-- The steps that ask for one of several values with a group of equalities. -/
def Step.anyEqual (choice : PropertyChoice) (values : List ValueChoice) : List Step :=
  .openGroup .or :: values.map (.add choice · .equal) ++ [.closeGroup]

/-- A group of equalities can be built wherever the cursor stands, and the cursor comes back. -/
theorem Step.attempt_anyEqual {setting : Setting} {choice : PropertyChoice} {property : Property}
    (resolved : choice.resolve setting.source = .ok property) {values : List ValueChoice}
    (accepted : ∀ value ∈ values,
      Operator.equal.accepts property.kind (value.value setting.filter) = .ok ()) (b : Building) :
    attempt setting (anyEqual choice values) b =
      .ok ⟨b.tree.nest b.cursor .or (Criterion.comparing property .equal
        (values.map (·.value setting.filter))), b.cursor⟩ := by
  let criteria := Criterion.comparing property .equal (values.map (·.value setting.filter))
  let inside : Building := ⟨b.tree.nest b.cursor .or criteria, b.tree.groups.length⟩
  have opened : attempt setting (anyEqual choice values) b =
      attempt setting (values.map (.add choice · .equal) ++ [.closeGroup]) (b.openGroup .or).1 :=
    attempt_cons _ _ _
  have added : attempt setting (values.map (.add choice · .equal)) (b.openGroup .or).1 =
      .ok inside := attempt_adds resolved accepted _
  have parent : (inside.current?.bind Group.parent).getD inside.cursor = b.cursor := by
    rw [Building.current?, Tree.unfolds_nest.1]
    rfl
  rw [opened, attempt_append added, attempt_cons]
  exact congrArg (fun cursor => Except.ok (Building.mk inside.tree cursor)) parent

/-- Membership says the same as a group of equalities.  In every reachable state, for every
    property and every list that membership accepts for it, the criterion can be added to the
    group of the cursor, and so can a child `or` group with an equality for each item; the cursor
    ends where it was.  When some item is present both trees compile to predicates that match the
    same records.  Otherwise the criterion holds for no record while the group is dropped: in a
    tree without other criteria one predicate matches nothing and the other everything. -/
theorem Predicate.among_eq_anyEqual (setting : Setting) (history : List Step)
    {choice : PropertyChoice} {property : Property}
    (resolved : choice.resolve setting.source = .ok property)
    {list : ValueChoice} {items : List ValueChoice}
    (listed : list.value setting.filter = .list (items.map (·.value setting.filter)))
    (accepted : Operator.among.accepts property.kind (list.value setting.filter) = .ok ())
    (source name : String) :
    let b := Step.run setting history .start
    ∃ b₁ b₂ among anyEqual, Step.attempt setting [.add choice list .among] b = .ok b₁ ∧
      Step.attempt setting (Step.anyEqual choice items) b = .ok b₂ ∧
      b₁.cursor = b.cursor ∧ b₂.cursor = b.cursor ∧
      backend.compile b₁.tree source name = .ok among ∧
      backend.compile b₂.tree source name = .ok anyEqual ∧
      ((∃ item ∈ items, (item.value setting.filter).isNull = false) →
        ∀ record, among.isMatch record = anyEqual.isMatch record) ∧
      ((∀ item ∈ items, (item.value setting.filter).isNull = true) →
        (∀ record, Criterion.holds ⟨property, list.value setting.filter, .among⟩ record = false) ∧
        (∃ before, backend.compile b.tree source name = .ok before ∧
          ∀ record, anyEqual.isMatch record = before.isMatch record) ∧
        (b.tree.isEmpty = true →
          ∀ record, among.isMatch record = false ∧ anyEqual.isMatch record = true)) := by
  intro b
  have wellFormed : b.WellFormed := Step.wellFormed_run Building.wellFormed_start history
  rw [listed] at accepted
  let values := items.map (·.value setting.filter)
  let criterion : Criterion := ⟨property, .list values, .among⟩
  let equals := Criterion.comparing property .equal values
  let b₁ := b.change (Group.extend ⟨[criterion], []⟩)
  let b₂ : Building := ⟨b.tree.nest b.cursor .or equals, b.cursor⟩
  have first : Step.attempt setting [.add choice list .among] b = .ok b₁ := by
    have single := @Step.attempt_adds setting choice property .among resolved [list]
      (by simpa [listed] using accepted) b
    simpa [listed, Criterion.comparing, Value.isNull] using single
  have second : Step.attempt setting (Step.anyEqual choice items) b = .ok b₂ := by
    refine Step.attempt_anyEqual resolved ?_ b
    intro item member
    exact Operator.accepts_equal_of_mem accepted _ (List.mem_map_of_mem member)
  have wellFormed₁ : b₁.WellFormed :=
    Step.run_of_attempt first ▸ Step.wellFormed_run wellFormed _
  have wellFormed₂ : b₂.WellFormed :=
    Step.run_of_attempt second ▸ Step.wellFormed_run wellFormed _
  obtain ⟨root, before, unfolds, compiled, decides⟩ :=
    exists_compile wellFormed.tree source name
  obtain ⟨root₁, among, unfolds₁, compiled₁, decides₁⟩ :=
    exists_compile wellFormed₁.tree source name
  obtain ⟨root₂, anyEqual, unfolds₂, compiled₂, decides₂⟩ :=
    exists_compile wellFormed₂.tree source name
  refine ⟨b₁, b₂, among, anyEqual, first, second, rfl, rfl, compiled₁, compiled₂, ?present,
    ?absent⟩
  case present =>
    rintro ⟨item, member, present⟩ record
    have alike : root₁.Alike root₂ := wellFormed.tree.alike_nest_equals
      ⟨_, List.mem_map_of_mem member, present⟩ unfolds₁ unfolds₂
    rw [decides₁, decides₂, alike.isVacuous, alike.holds record]
  case absent =>
    intro absent
    have none : equals = [] := by
      simpa [equals, values, Criterion.comparing] using absent
    have never : ∀ record, criterion.holds record = false := by
      intro record
      rw [Criterion.holds_among]
      show equals.any (·.holds record) = false
      rw [none, List.any_nil]
    have alike : root.Alike root₂ := by
      have dropped : (b.tree.nest b.cursor .or []).Unfolds 0 root₂ := none ▸ unfolds₂
      exact wellFormed.tree.alike_nest_nil unfolds dropped
    refine ⟨?_, ?_, ?_⟩
    · rw [listed]
      exact never
    · refine ⟨before, compiled, fun record => ?_⟩
      rw [decides, decides₂, alike.isVacuous, alike.holds record]
    · intro empty record
      obtain ⟨fruitful, fails⟩ :=
        wellFormed₁.tree.fails_alone empty wellFormed.cursor never unfolds₁
      have vacuous : root₂.isVacuous = true := by
        rw [← alike.isVacuous, wellFormed.tree.isVacuous_root unfolds, empty]
      rw [decides₁, decides₂, fruitful, fails record, vacuous]
      exact ⟨rfl, rfl⟩

/-- Two names and an absent value, added below a group that already compares. -/
theorem Predicate.among_eq_anyEqual_names :
    let items : List ValueChoice := [.given (.text "Ivanov"), .given .null, .given (.text "Popov")]
    let list : ValueChoice := .given (.list [.text "Ivanov", .null, .text "Popov"])
    let b := Step.run Demo.setting
      [.openGroup .or, .add (.named "Id") (.given (.int 5)) .equal, .openGroup .and] .start
    (∃ property, (PropertyChoice.named "LastName").resolve Demo.setting.source = .ok property ∧
      Operator.among.accepts property.kind (list.value Demo.setting.filter) = .ok ()) ∧
    list.value Demo.setting.filter = .list (items.map (·.value Demo.setting.filter)) ∧
    (∃ item ∈ items, (item.value Demo.setting.filter).isNull = false) ∧
    ∃ b₁ b₂ among anyEqual,
      Step.attempt Demo.setting [.add (.named "LastName") list .among] b = .ok b₁ ∧
      Step.attempt Demo.setting (Step.anyEqual (.named "LastName") items) b = .ok b₂ ∧
      backend.compile b₁.tree "User" "x" = .ok among ∧
      backend.compile b₂.tree "User" "x" = .ok anyEqual ∧
      ∀ record, among.isMatch record = anyEqual.isMatch record := by
  intro items list b
  have accepted : Operator.among.accepts .text (list.value Demo.setting.filter) = .ok () := rfl
  have present : ∃ item ∈ items, (item.value Demo.setting.filter).isNull = false :=
    ⟨_, List.mem_cons_self, rfl⟩
  obtain ⟨b₁, b₂, among, anyEqual, first, second, -, -, compiled₁, compiled₂, same, -⟩ :=
    @among_eq_anyEqual Demo.setting
      [.openGroup .or, .add (.named "Id") (.given (.int 5)) .equal, .openGroup .and]
      (.named "LastName") _ rfl list items rfl accepted "User" "x"
  exact ⟨⟨_, rfl, accepted⟩, rfl, present, b₁, b₂, among, anyEqual, first, second, compiled₁,
    compiled₂, same present⟩

end RecordFilter
