import RecordFilter.Demo
import RecordFilter.Proofs.Additions
import RecordFilter.Proofs.Compilation.Thinning
import RecordFilter.Proofs.Predicate.Meaning

/-!
# Narrowing and widening

What is added to a group moves the matches of the whole tree one way only.  The way is that
of the group's governor, the nearest group at or above it that is not vacuous: below an `and`
group matches can only get lost, below an `or` group they can only be gained, and without
a governor the tree matched everything before (`narrows_or_widens`).
-/

namespace RecordFilter

namespace GroupOperator

variable {way operator : GroupOperator}

/-- A value goes the way of an operator: `and` can only take it away, `or` can only give it. -/
def Moves (way : GroupOperator) (before after : Bool) : Prop :=
  match way with
  | and => after = true → before = true
  | or => before = true → after = true

theorem Moves.refl (way : GroupOperator) (value : Bool) : way.Moves value value := by
  cases way <;> exact id

theorem Moves.trans {first second third : Bool} (left : way.Moves first second)
    (right : way.Moves second third) : way.Moves first third := by
  cases way with
  | and => exact left ∘ right
  | or => exact right ∘ left

/-- Members that join a group move its value the way of its own operator. -/
theorem moves_of_subset {fewer more : List Bool} (subset : fewer ⊆ more) :
    operator.Moves (operator.holds fewer) (operator.holds more) := by
  cases operator with
  | and =>
    intro all
    exact List.all_eq_true.mpr fun value member => List.all_eq_true.mp all value (subset member)
  | or =>
    intro any
    obtain ⟨value, member, holds⟩ := List.any_eq_true.mp any
    exact List.any_eq_true.mpr ⟨value, subset member, holds⟩

theorem Moves.append {left left' right right' : List Bool}
    (first : way.Moves (operator.holds left) (operator.holds left'))
    (second : way.Moves (operator.holds right) (operator.holds right')) :
    way.Moves (operator.holds (left ++ right)) (operator.holds (left' ++ right')) := by
  cases way <;> cases operator <;>
    simp only [Moves, holds, List.all_append, List.any_append, Bool.and_eq_true,
      Bool.or_eq_true] at first second ⊢
  · exact And.imp first second
  · exact Or.imp first second
  · exact And.imp first second
  · exact Or.imp first second

theorem Moves.cons {value value' : Bool} {values values' : List Bool}
    (first : way.Moves value value')
    (second : way.Moves (operator.holds values) (operator.holds values')) :
    way.Moves (operator.holds (value :: values)) (operator.holds (value' :: values')) := by
  refine @Moves.append way operator [value] [value'] _ _ ?_ second
  cases operator <;> simpa [holds] using first

theorem Moves.map {α : Type} {before after : α → Bool}
    (each : ∀ item, way.Moves (before item) (after item)) (items : List α) :
    way.Moves (operator.holds (items.map before)) (operator.holds (items.map after)) := by
  induction items with
  | nil => exact Moves.refl _ _
  | cons item rest ih => exact Moves.cons (each item) ih

theorem Moves.any {α : Type} {before after : α → Bool}
    (each : ∀ item, way.Moves (before item) (after item)) (items : List α) :
    way.Moves (items.any before) (items.any after) := by
  have values := @Moves.map way .or α before after each items
  simpa only [holds, List.any_map, Function.id_comp] using values

end GroupOperator

open GroupOperator (Moves moves_of_subset)

/-! ## Members of one group -/

/-- A criterion on elements moves the values of the entries, whether it joins an entry or
    begins one. -/
theorem CollectionCriteria.moves_insert (operator : GroupOperator) (record : Record)
    (collection : Collection) (criterion : Criterion) (entries : List CollectionCriteria) :
    operator.Moves (operator.holds (entries.map (holds operator record)))
      (operator.holds ((insert collection criterion entries).map (holds operator record))) := by
  induction entries with
  | nil => exact moves_of_subset (List.nil_subset _)
  | cons entry rest ih =>
    rw [insert]
    split
    · refine Moves.cons (Moves.any (fun element => ?_) _) (Moves.refl _ _)
      refine moves_of_subset ?_
      rw [List.map_append]
      exact List.subset_append_left _ _
    · exact Moves.cons (Moves.refl _ _) ih

namespace Group

theorem moves_collections (additions : Additions) (group : Group) (operator : GroupOperator)
    (record : Record) :
    operator.Moves (operator.holds (group.collections.map (·.holds operator record)))
      (operator.holds ((group.extend additions).collections.map (·.holds operator record))) := by
  simp only [extend]
  generalize group.collections = entries
  induction additions.elements generalizing entries with
  | nil => exact Moves.refl _ _
  | cons added rest ih =>
    rw [List.foldl_cons]
    exact (CollectionCriteria.moves_insert operator record added.1 added.2 entries).trans (ih _)

theorem recorded_subset_extend (additions : Additions) (group : Group) :
    group.recorded ⊆ (group.extend additions).recorded := by
  have elements : ∀ (added : List (Collection × Criterion)) (entries : List CollectionCriteria),
      entries.flatMap (·.criteria) ⊆ (added.foldl (fun entries added =>
        CollectionCriteria.insert added.1 added.2 entries) entries).flatMap (·.criteria) := by
    intro added
    induction added with
    | nil => exact fun _ => List.Subset.refl _
    | cons first rest ih =>
      intro entries criterion member
      exact ih _ (CollectionCriteria.mem_criteria_insert.mpr (.inl member))
  intro criterion member
  rcases List.mem_append.mp member with own | onElements
  · exact List.mem_append_left _ (List.mem_append_left _ own)
  · exact List.mem_append_right _ (elements _ _ onElements)

end Group

/-! ## Nodes -/

namespace Node

/-- A node that is not vacuous stays so, and its value goes one way. -/
def Follows (way : GroupOperator) (before after : Node) : Prop :=
  before.isVacuous = false →
    after.isVacuous = false ∧ ∀ record, way.Moves (before.holds record) (after.holds record)

/-- Children that follow keep the group from becoming vacuous. -/
theorem isVacuous_of_follows {way : GroupOperator} {group group' : Group}
    {children children' : List Node} (recorded : group.recorded ⊆ group'.recorded)
    (each : List.Forall₂ (Follows way) children children')
    (vacuous : (mk group' children').isVacuous = true) : (mk group children).isVacuous = true := by
  rw [isVacuous_mk, Bool.and_eq_true, List.isEmpty_iff] at vacuous ⊢
  obtain ⟨own, below⟩ := vacuous
  rw [own] at recorded
  refine ⟨List.subset_nil.mp recorded, ?_⟩
  clear own recorded
  induction each with
  | nil => rfl
  | cons follows _ ih =>
    rw [List.all_cons, Bool.and_eq_true] at below ⊢
    refine ⟨?_, ih below.2⟩
    rw [← Bool.not_eq_false]
    intro fruitful
    rw [(follows fruitful).1] at below
    cases below.1

/-- The values of children that follow go the way they follow.  A child that was vacuous may
    become a member of a group whose operator goes the same way. -/
theorem moves_holdsEach {way operator : GroupOperator} {children children' : List Node}
    (each : List.Forall₂ (Follows way) children children')
    (joins : List.Forall₂ (fun before after => before.isVacuous = true →
      after.isVacuous = true ∨ operator = way) children children') (record : Record) :
    way.Moves (operator.holds (holdsEach record children))
      (operator.holds (holdsEach record children')) := by
  induction each with
  | nil => exact Moves.refl _ _
  | @cons before after _ _ follows _ ih =>
    obtain ⟨join, joins⟩ := List.forall₂_cons.mp joins
    cases vacuous : before.isVacuous with
    | false =>
      obtain ⟨fruitful, moves⟩ := follows vacuous
      simp only [holdsEach, vacuous, fruitful, Bool.false_eq_true, if_false]
      exact Moves.cons (moves record) (ih joins)
    | true =>
      cases vacuous' : after.isVacuous with
      | true =>
        simp only [holdsEach, vacuous, vacuous', if_true]
        exact ih joins
      | false =>
        obtain rfl : operator = way := (join vacuous).resolve_left (by simp [vacuous'])
        simp only [holdsEach, vacuous, vacuous', if_true, Bool.false_eq_true, if_false]
        exact (ih joins).trans (moves_of_subset (List.subset_cons_self _ _))

/-- A group that is extended goes the way of its own operator.  One of the other operator goes
    along with its children when nothing is added to it. -/
theorem follows_mk {way : GroupOperator} {group : Group} {added : Additions}
    {children children' : List Node} (adds : group.operator = way ∨ added = .none)
    (each : List.Forall₂ (Follows way) children children')
    (joins : List.Forall₂ (fun before after => before.isVacuous = true →
      after.isVacuous = true ∨ group.operator = way) children children') :
    (mk group children).Follows way (mk (group.extend added) children') := by
  intro fruitful
  refine ⟨?_, fun record => ?_⟩
  · rw [Bool.eq_false_iff] at fruitful ⊢
    exact mt (isVacuous_of_follows (group.recorded_subset_extend added) each) fruitful
  have nested := moves_holdsEach each joins record
  rw [holds_mk, holds_mk]
  rcases adds with same | nothing
  · rw [← same] at nested ⊢
    refine .append (.append ?_ nested) (group.moves_collections added group.operator record)
    refine moves_of_subset ?_
    rw [Group.extend, List.map_append]
    exact List.subset_append_left _ _
  · rw [nothing, Group.extend_none]
    exact .append (.append (.refl _ _) nested) (.refl _ _)

end Node

/-! ## Governors -/

namespace Tree

/-- Some criterion stands in the group at the position or below it. -/
def Fruitful (tree : Tree) (id : Nat) : Prop :=
  ∃ node, tree.Unfolds id node ∧ node.isVacuous = false

/-- The nearest group at or above a position that is not vacuous. -/
structure Governs (tree : Tree) (governor id : Nat) : Prop where
  above : Relation.ReflTransGen tree.Lists governor id
  fruitful : tree.Fruitful governor
  nearest : ∀ other, Relation.ReflTransGen tree.Lists other id → tree.Fruitful other →
    Relation.ReflTransGen tree.Lists other governor

namespace Governs

variable {tree : Tree}

theorem self {id : Nat} (fruitful : tree.Fruitful id) : tree.Governs id id :=
  ⟨.refl, fruitful, fun _ above _ => above⟩

theorem unique (wellFormed : tree.WellFormed) {left right id : Nat}
    (governs : tree.Governs left id) (governs' : tree.Governs right id) : left = right :=
  Nat.le_antisymm
    (wellFormed.le_of_reaches (governs'.nearest left governs.above governs.fruitful))
    (wellFormed.le_of_reaches (governs.nearest right governs'.above governs'.fruitful))

/-- A vacuous child has the governor of its parent. -/
theorem child (wellFormed : tree.WellFormed) {governor parent id : Nat} {node : Node}
    (governs : tree.Governs governor parent) (link : tree.Lists parent id)
    (unfolds : tree.Unfolds id node) (vacuous : node.isVacuous = true) :
    tree.Governs governor id := by
  refine ⟨governs.above.tail link, governs.fruitful, ?_⟩
  intro other reaches fruitful
  rcases reaches.cases_tail with rfl | ⟨above, reachesAbove, last⟩
  · obtain ⟨node', unfolds', fruitful⟩ := fruitful
    rw [unfolds'.unique unfolds, vacuous] at fruitful
    cases fruitful
  · rw [wellFormed.lists_unique last link] at reachesAbove
    exact governs.nearest other reachesAbove fruitful

end Governs

/-! ## Trees -/

/-- Nodes that stand for the same positions are related when those of each position are. -/
theorem forall₂_of_unfolds {tree tree' : Tree} {ids : List Nat} {nodes nodes' : List Node}
    {related : Node → Node → Prop} (unfolds : List.Forall₂ tree.Unfolds ids nodes)
    (unfolds' : List.Forall₂ tree'.Unfolds ids nodes')
    (each : ∀ id ∈ ids, ∀ node ∈ nodes, ∀ node', tree.Unfolds id node → tree'.Unfolds id node' →
      related node node') : List.Forall₂ related nodes nodes' := by
  induction unfolds generalizing nodes' with
  | nil =>
    cases unfolds'
    exact .nil
  | cons first _ ih =>
    obtain ⟨node', rest', first', later, rfl⟩ := List.forall₂_cons_left_iff.mp unfolds'
    refine .cons (each _ List.mem_cons_self _ List.mem_cons_self node' first first') (ih later ?_)
    intro id member node present
    exact each id (List.mem_cons_of_mem _ member) node (List.mem_cons_of_mem _ present)

/-- Additions to a group whose governor, if any, has a given operator: every node that is not
    vacuous goes the way of that operator, and a node becomes fruitful only when its governor
    is that of the group. -/
theorem follows_of_extend {tree : Tree} (wellFormed : tree.WellFormed) {target : Nat}
    {way : GroupOperator} (additions : Additions)
    (governed : ∀ governor group, tree.Governs governor target →
      tree.group? governor = some group → group.operator = way) {node : Node} :
    ∀ {id : Nat} {node' : Node}, tree.Unfolds id node →
      (tree.modify target (Group.extend additions)).Unfolds id node' →
        node.Follows way node' ∧ (node.isVacuous = true → node'.isVacuous = true ∨
          ∀ governor, tree.Governs governor id → tree.Governs governor target) := by
  induction node using Node.inductionOn with
  | mk group children ih =>
    intro id node' unfolds unfolds'
    cases node' with
    | mk group' children' =>
    -- only the target is extended, by what may be nothing
    obtain ⟨added, rfl, elsewhere⟩ : ∃ added, group' = group.extend added ∧
        (target ≠ id → added = .none) := by
      have found := unfolds'.1
      rw [group?_modify, unfolds.1, Option.map_some, Option.some.injEq] at found
      by_cases here : target = id
      · rw [if_pos here] at found
        exact ⟨additions, found.symm, fun other => absurd here other⟩
      · rw [if_neg here] at found
        exact ⟨.none, by rw [group.extend_none, found], fun _ => rfl⟩
    have pairs : List.Forall₂ (fun before after => ∃ child, tree.Lists id child ∧
        tree.Unfolds child before ∧ before.Follows way after ∧
        (before.isVacuous = true → after.isVacuous = true ∨
          ∀ governor, tree.Governs governor child → tree.Governs governor target))
        children children' := by
      refine forall₂_of_unfolds (unfoldsAll_iff.mp unfolds.2) (unfoldsAll_iff.mp unfolds'.2) ?_
      intro child listed before present after childUnfolds childUnfolds'
      obtain ⟨follows, wakes⟩ := ih before present childUnfolds childUnfolds'
      exact ⟨child, ⟨group, unfolds.1, listed⟩, childUnfolds, follows, wakes⟩
    have follow : List.Forall₂ (Node.Follows way) children children' :=
      pairs.imp fun _ _ ⟨_, _, _, follows, _⟩ => follows
    refine ⟨?fruitful, ?vacuous⟩
    case fruitful =>
      intro fruitful
      have own : tree.Governs id id := .self ⟨_, unfolds, fruitful⟩
      -- the target is a group that governs itself here
      have adds : group.operator = way ∨ added = .none := by
        by_cases here : target = id
        · subst here
          exact .inl (governed target group own unfolds.1)
        · exact .inr (elsewhere here)
      refine Node.follows_mk adds follow (pairs.imp ?_) fruitful
      intro before after ⟨child, link, childUnfolds, _, wakes⟩ vacuous
      refine (wakes vacuous).imp_right fun governors => ?_
      have governs := own.child wellFormed link childUnfolds vacuous
      exact governed id group (governors id governs) unfolds.1
    case vacuous =>
      intro vacuous
      by_cases here : target = id
      · exact .inr fun governor governs => here ▸ governs
      rw [elsewhere here, Group.extend_none]
      rw [Node.isVacuous_mk, Bool.and_eq_true] at vacuous
      rw [Node.isVacuous_mk, vacuous.1, Bool.true_and]
      cases all : children'.all Node.isVacuous with
      | true => exact .inl rfl
      | false =>
        right
        intro governor governs
        obtain ⟨after, present, fruitful⟩ := List.all_eq_false.mp all
        obtain ⟨k, bound', rfl⟩ := List.mem_iff_getElem.mp present
        have bound : k < children.length := by rwa [pairs.length_eq]
        obtain ⟨child, link, childUnfolds, -, wakes⟩ := pairs.get bound bound'
        have beforeVacuous := List.all_eq_true.mp vacuous.2 _ (List.getElem_mem bound)
        exact (wakes beforeVacuous).resolve_left fruitful governor
          (governs.child wellFormed link childUnfolds beforeVacuous)

/-- Nothing above a position is fruitful in a tree whose root is vacuous. -/
theorem WellFormed.fruitful_root {tree : Tree} (wellFormed : tree.WellFormed) {root : Node}
    (unfolds : tree.Unfolds 0 root) {id : Nat} (fruitful : tree.Fruitful id) :
    root.isVacuous = false := by
  obtain ⟨node, below, fruitful⟩ := fruitful
  obtain ⟨group, member, records⟩ := List.all_eq_false.mp fruitful
  obtain ⟨i, found⟩ := below.group_found group member
  refine List.all_eq_false.mpr ⟨group, ?_, records⟩
  exact (wellFormed.mem_groups_of_unfolds unfolds group).mpr (List.mem_of_getElem? found)

/-- The position has a governor, and that combines with the operator. -/
def Governed (tree : Tree) (operator : GroupOperator) (id : Nat) : Prop :=
  ∃ governor group, tree.Governs governor id ∧ tree.group? governor = some group ∧
    group.operator = operator

theorem Governed.operator_eq {tree : Tree} (wellFormed : tree.WellFormed)
    {operator : GroupOperator} {id : Nat} (governed : tree.Governed operator id) (governor : Nat)
    (group : Group) (governs : tree.Governs governor id)
    (found : tree.group? governor = some group) : group.operator = operator := by
  obtain ⟨governor', group', governs', found', rfl⟩ := governed
  rw [governs.unique wellFormed governs', found'] at found
  rw [Option.some.inj found]

end Tree

theorem Step.after_goTo {setting : Setting} {b : Building} {id : Nat}
    (present : id < b.tree.groups.length) : (goTo id).after setting b = ⟨b.tree, id⟩ := by
  simp only [after, apply, if_pos present]

/-- A step that opens no group adds to the group it is sent to. -/
theorem Step.built_goTo (setting : Setting) (steps : List Step) {id : Nat} {step : Step}
    (present : id < (setting.built steps).groups.length) (still : step.opens = false) :
    ∃ additions, setting.built (steps ++ [.goTo id, step]) =
      (setting.built steps).modify id (Group.extend additions) := by
  have moved : Step.run setting (steps ++ [.goTo id, step]) .start =
      step.after setting ⟨setting.built steps, id⟩ := by
    rw [Step.run, List.foldl_append]
    exact congrArg (step.after setting) (Step.after_goTo present)
  refine ⟨step.additions setting (setting.built steps), ?_⟩
  rw [Setting.built, moved, Step.tree_after step _ still]

/-- The condition of a root decides whether it holds; a vacuous one holds for all. -/
theorem Predicate.evaluate_root {root : Node} (proper : root.Proper) (parameter : Binding)
    (record : Record) : (backend.assemble parameter root).evaluate record =
      (root.isVacuous || root.holds record) := by
  cases vacuous : root.isVacuous with
  | true =>
    rw [backend.assemble_of_isVacuous rfl parameter proper vacuous]
    rfl
  | false => exact evaluate_assemble record proper vacuous

/-- Criteria that are added to a group move the matches of a built tree one way only.  Without
    a governor, or with one that is an `and` group, every match of the grown tree was a match
    before; with one that is an `or` group, every match stays one.  There is at most one
    governor, and a group that is not vacuous is its own, so its own operator decides. -/
theorem Predicate.narrows_or_widens (setting : Setting) (steps : List Step) {id : Nat}
    {step : Step} (present : id < (setting.built steps).groups.length)
    (still : step.opens = false) (source name : String) :
    let tree := setting.built steps
    let grown := setting.built (steps ++ [.goTo id, step])
    ∃ before after, backend.compile tree source name = .ok before ∧
      backend.compile grown source name = .ok after ∧
      ((¬∃ governor, tree.Governs governor id) ∨ tree.Governed .and id →
        ∀ record, after.isMatch record = true → before.isMatch record = true) ∧
      (tree.Governed .or id →
        ∀ record, before.isMatch record = true → after.isMatch record = true) ∧
      (∀ left right, tree.Governs left id → tree.Governs right id → left = right) ∧
      (∀ group, tree.group? id = some group → tree.Fruitful id →
        tree.Governed group.operator id) := by
  intro tree grown
  have wellFormed := setting.wellFormed_built steps
  obtain ⟨root, node, unfolds, proper⟩ := Tree.exists_root setting steps
  obtain ⟨root', node', unfolds', proper'⟩ := Tree.exists_root setting (steps ++ [.goTo id, step])
  obtain ⟨additions, extended⟩ := Step.built_goTo setting steps present still
  rw [extended] at unfolds'
  refine ⟨_, _, compile_eq_ok node proper source name, compile_eq_ok node' proper' source name,
    ?narrows, ?widens, fun left right => Tree.Governs.unique wellFormed,
    fun group found fruitful => ⟨id, group, .self fruitful, found, rfl⟩⟩
  case narrows =>
    intro narrowing record
    simp only [isMatch, evaluate_root proper, evaluate_root proper']
    cases vacuous : root.isVacuous with
    | true => exact fun _ => rfl
    | false =>
      have governed : ∀ governor group, tree.Governs governor id →
          tree.group? governor = some group → group.operator = .and := by
        rcases narrowing with none | governed
        · exact fun governor group governs _ => absurd ⟨governor, governs⟩ none
        · exact governed.operator_eq wellFormed
      obtain ⟨follows, -⟩ :=
        Tree.follows_of_extend wellFormed additions governed unfolds unfolds'
      obtain ⟨fruitful, moves⟩ := follows vacuous
      rw [fruitful, Bool.false_or, Bool.false_or]
      exact moves record
  case widens =>
    intro governed record
    obtain ⟨follows, -⟩ := Tree.follows_of_extend wellFormed additions
      (governed.operator_eq wellFormed) unfolds unfolds'
    obtain ⟨governor, -, governs, -, -⟩ := governed
    have vacuous := wellFormed.fruitful_root unfolds governs.fruitful
    obtain ⟨fruitful, moves⟩ := follows vacuous
    simp only [isMatch, evaluate_root proper, evaluate_root proper']
    rw [vacuous, fruitful, Bool.false_or, Bool.false_or]
    exact moves record

/-- The first criterion of an `and` group below an `or` group. -/
theorem Predicate.narrows_or_widens_nested :
    let lastName (value : String) : Step := .add (.named "LastName") (.given (.text value)) .equal
    let steps := [.openGroup .or, lastName "Ivanov", .openGroup .and]
    2 < (Demo.setting.built steps).groups.length ∧ (lastName "Petrov").opens = false ∧
      (Demo.setting.built steps).Governed .or 2 ∧
      ∃ before after, backend.compile (Demo.setting.built steps) "User" "x" = .ok before ∧
        backend.compile (Demo.setting.built (steps ++ [.goTo 2, lastName "Petrov"])) "User" "x" =
          .ok after ∧
        ∀ record, before.isMatch record = true → after.isMatch record = true := by
  intro lastName steps
  have wellFormed := Demo.setting.wellFormed_built steps
  have present : 2 < (Demo.setting.built steps).groups.length := by decide
  have governs : (Demo.setting.built steps).Governs 1 1 := .self ⟨.mk _ [.mk _ []],
    ⟨rfl, ⟨rfl, trivial⟩, trivial⟩, rfl⟩
  have empty : (Demo.setting.built steps).Unfolds 2 (.mk (.empty 2 .and (some 1)) []) :=
    ⟨rfl, trivial⟩
  have governed : (Demo.setting.built steps).Governed .or 2 :=
    ⟨1, _, governs.child wellFormed ⟨_, rfl, List.mem_cons_self⟩ empty rfl, rfl, rfl⟩
  obtain ⟨before, after, compiled, compiled', -, widens, -⟩ :=
    @narrows_or_widens Demo.setting steps 2 (lastName "Petrov") present rfl "User" "x"
  exact ⟨present, rfl, governed, before, after, compiled, compiled', widens governed⟩

/-- What is added to an `and` group may widen the matches: while the group is vacuous, the `or`
    group above it decides. -/
theorem Predicate.widened_below_or :
    let lastName (value : String) : Step := .add (.named "LastName") (.given (.text value)) .equal
    let steps := [.openGroup .or, lastName "Ivanov", .openGroup .and]
    let petrov := Demo.makeUser 2 "Petrov" "Petr" "Petrovich" "IS2" 1
    ((Demo.setting.built steps).group? 2).map Group.operator = some .and ∧
      ∃ before after, backend.compile (Demo.setting.built steps) "User" "x" = .ok before ∧
        backend.compile (Demo.setting.built (steps ++ [.goTo 2, lastName "Petrov"])) "User" "x" =
          .ok after ∧
        before.isMatch petrov = false ∧ after.isMatch petrov = true :=
  ⟨rfl, _, _, rfl, rfl, by decide +kernel, by decide +kernel⟩

end RecordFilter
