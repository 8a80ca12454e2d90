import RecordFilter.Proofs.WellFormed

/-!
# Unfolding a tree of groups

`Tree.Unfolds` relates a position of a tree to the node that holds its group and,
for each child link in order, the node of that child.  A well-formed tree unfolds
from its root, in one way only, and the unfolded tree holds every group.
-/

namespace RecordFilter

namespace Tree

mutual

/-- The node holds the group at the position and the nodes of its child groups. -/
def Unfolds (tree : Tree) : Nat → Node → Prop
  | id, .mk group children =>
    tree.group? id = some group ∧ UnfoldsAll tree group.children children

/-- The nodes unfold the positions one by one. -/
def UnfoldsAll (tree : Tree) : List Nat → List Node → Prop
  | [], [] => True
  | id :: ids, node :: nodes => Unfolds tree id node ∧ UnfoldsAll tree ids nodes
  | _, _ => False

end

mutual

/-- A position unfolds in one way only. -/
theorem Unfolds.unique {tree : Tree} :
    ∀ {id : Nat} {left right : Node}, tree.Unfolds id left → tree.Unfolds id right → left = right
  | id, .mk group children, .mk group' children', unfolds, unfolds' => by
    obtain ⟨found, below⟩ := unfolds
    obtain ⟨found', below'⟩ := unfolds'
    rw [found] at found'
    cases found'
    rw [UnfoldsAll.unique below below']

theorem UnfoldsAll.unique {tree : Tree} :
    ∀ {ids : List Nat} {left right : List Node}, tree.UnfoldsAll ids left →
      tree.UnfoldsAll ids right → left = right
  | [], [], [], _, _ => rfl
  | id :: ids, node :: nodes, node' :: nodes', unfolds, unfolds' => by
    rw [Unfolds.unique unfolds.1 unfolds'.1, UnfoldsAll.unique unfolds.2 unfolds'.2]
  | [], _ :: _, _, unfolds, _ => unfolds.elim
  | [], [], _ :: _, _, unfolds => unfolds.elim
  | _ :: _, [], _, unfolds, _ => unfolds.elim
  | _ :: _, _ :: _, [], _, unfolds => unfolds.elim

end

/-- Positions after `first` whose nodes are known unfold to those nodes. -/
theorem unfoldsAll_filterMap {tree : Tree} {first : Nat} {later : List Node}
    (known : ∀ k node, later[k]? = some node → tree.Unfolds (first + 1 + k) node) :
    ∀ ids : List Nat, (∀ id ∈ ids, first < id ∧ id - (first + 1) < later.length) →
      tree.UnfoldsAll ids (ids.filterMap fun id =>
        if first < id then later[id - (first + 1)]? else none) := by
  intro ids
  induction ids with
  | nil => intro _; trivial
  | cons id ids ih =>
    intro within
    obtain ⟨after, bound⟩ := within id List.mem_cons_self
    have rest := ih fun other member => within other (List.mem_cons_of_mem _ member)
    have here := known _ _ (List.getElem?_eq_getElem bound)
    have position : first + 1 + (id - (first + 1)) = id := by omega
    rw [position] at here
    rw [List.filterMap_cons, if_pos after, List.getElem?_eq_getElem bound]
    exact ⟨here, rest⟩

/-- The nodes computed from a position on unfold the groups from there on. -/
theorem nodesFrom_spec {tree : Tree} (wellFormed : tree.WellFormed) (rest : List Group) :
    ∀ first, tree.groups.drop first = rest →
      (nodesFrom first rest).length = rest.length ∧
        ∀ k node, (nodesFrom first rest)[k]? = some node → tree.Unfolds (first + k) node := by
  induction rest with
  | nil => intro first _; exact ⟨rfl, by simp [nodesFrom]⟩
  | cons group rest ih =>
    intro first dropped
    have found : tree.group? first = some group := by
      have head : (tree.groups.drop first)[0]? = tree.groups[first + 0]? := List.getElem?_drop
      rw [dropped] at head
      exact head.symm
    have droppedNext : tree.groups.drop (first + 1) = rest := by
      rw [← List.drop_drop, dropped, List.drop_one, List.tail_cons]
    obtain ⟨lengths, known⟩ := ih (first + 1) droppedNext
    refine ⟨by simp [nodesFrom, lengths], ?_⟩
    intro k node nodeAt
    cases k with
    | zero =>
      simp only [nodesFrom, List.getElem?_cons_zero, Option.some.injEq] at nodeAt
      subst nodeAt
      refine ⟨found, unfoldsAll_filterMap known group.children ?_⟩
      intro child member
      obtain ⟨after, bound⟩ := wellFormed.child_lt found member
      have total := congrArg List.length droppedNext
      rw [List.length_drop] at total
      exact ⟨after, by omega⟩
    | succ k =>
      have later := known k node (by simpa [nodesFrom] using nodeAt)
      rwa [Nat.add_assoc, Nat.add_comm 1 k] at later

/-- A well-formed tree unfolds from its root. -/
theorem WellFormed.unfolds_node? {tree : Tree} (wellFormed : tree.WellFormed) :
    ∃ root, tree.node? = some root ∧ tree.Unfolds 0 root := by
  obtain ⟨lengths, known⟩ := nodesFrom_spec wellFormed tree.groups 0 rfl
  have bound : 0 < (nodesFrom 0 tree.groups).length := by
    rw [lengths]
    exact List.length_pos_iff.mpr wellFormed.nonempty
  have head := List.getElem?_eq_getElem bound
  exact ⟨_, by rw [node?, List.head?_eq_getElem?, head], known 0 _ head⟩

/-- The root that a well-formed tree unfolds to is the one that is computed. -/
theorem WellFormed.node?_eq {tree : Tree} (wellFormed : tree.WellFormed) {root : Node}
    (unfolds : tree.Unfolds 0 root) : tree.node? = some root := by
  obtain ⟨computed, node, unfolded⟩ := wellFormed.unfolds_node?
  rw [node, unfolded.unique unfolds]

/-- What is computed of the root holds of the node that the tree unfolds to. -/
theorem WellFormed.read_root {tree : Tree} (wellFormed : tree.WellFormed) {root : Node}
    (unfolds : tree.Unfolds 0 root) {α : Type} (read : Node → α) {answer : α}
    (computed : tree.node?.map read = some answer) : read root = answer := by
  rwa [wellFormed.node?_eq unfolds, Option.map_some, Option.some.injEq] at computed

/-! ## Groups of an unfolded tree -/

mutual

theorem Unfolds.group_found {tree : Tree} :
    ∀ {id : Nat} {node : Node}, tree.Unfolds id node →
      ∀ group ∈ node.groups, ∃ i, tree.group? i = some group
  | id, .mk own children, unfolds, group, member => by
    simp only [Node.groups, List.mem_cons] at member
    rcases member with rfl | below
    · exact ⟨id, unfolds.1⟩
    · exact UnfoldsAll.group_found unfolds.2 group below

theorem UnfoldsAll.group_found {tree : Tree} :
    ∀ {ids : List Nat} {nodes : List Node}, tree.UnfoldsAll ids nodes →
      ∀ group ∈ Node.groupsOf nodes, ∃ i, tree.group? i = some group
  | [], [], _, _, member => by simp [Node.groupsOf] at member
  | id :: ids, node :: nodes, unfolds, group, member => by
    simp only [Node.groupsOf, List.mem_append] at member
    rcases member with here | later
    · exact Unfolds.group_found unfolds.1 group here
    · exact UnfoldsAll.group_found unfolds.2 group later
  | [], _ :: _, unfolds, _, _ => unfolds.elim
  | _ :: _, [], unfolds, _, _ => unfolds.elim

end

theorem Unfolds.group_mem {tree : Tree} {id : Nat} {node : Node} {group : Group}
    (unfolds : tree.Unfolds id node) (found : tree.group? id = some group) :
    group ∈ node.groups := by
  cases node with
  | mk own children =>
    obtain ⟨found', -⟩ := unfolds
    rw [found] at found'
    cases found'
    simp [Node.groups]

theorem UnfoldsAll.group_mem {tree : Tree} {id : Nat} {group : Group}
    (found : tree.group? id = some group) :
    ∀ {ids : List Nat} {nodes : List Node}, tree.UnfoldsAll ids nodes → id ∈ ids →
      group ∈ Node.groupsOf nodes
  | first :: ids, node :: nodes, unfolds, member => by
    simp only [Node.groupsOf, List.mem_append]
    rcases List.mem_cons.mp member with rfl | later
    · exact .inl (unfolds.1.group_mem found)
    · exact .inr (UnfoldsAll.group_mem found unfolds.2 later)
  | [], _, _, member => by simp at member
  | _ :: _, [], unfolds, _ => unfolds.elim

mutual

/-- With a group, an unfolded tree holds the group's children. -/
theorem Unfolds.child_mem {tree : Tree} :
    ∀ {id : Nat} {node : Node}, tree.Unfolds id node → ∀ group ∈ node.groups,
      ∀ j ∈ group.children, ∀ child, tree.group? j = some child → child ∈ node.groups
  | id, .mk own children, unfolds, group, member, j, link, child, found => by
    simp only [Node.groups, List.mem_cons] at member ⊢
    rcases member with rfl | below
    · exact .inr (UnfoldsAll.group_mem found unfolds.2 link)
    · exact .inr (UnfoldsAll.child_mem unfolds.2 group below j link child found)

theorem UnfoldsAll.child_mem {tree : Tree} :
    ∀ {ids : List Nat} {nodes : List Node}, tree.UnfoldsAll ids nodes →
      ∀ group ∈ Node.groupsOf nodes, ∀ j ∈ group.children, ∀ child,
        tree.group? j = some child → child ∈ Node.groupsOf nodes
  | [], [], _, _, member, _, _, _, _ => by simp [Node.groupsOf] at member
  | id :: ids, node :: nodes, unfolds, group, member, j, link, child, found => by
    simp only [Node.groupsOf, List.mem_append] at member ⊢
    rcases member with here | later
    · exact .inl (Unfolds.child_mem unfolds.1 group here j link child found)
    · exact .inr (UnfoldsAll.child_mem unfolds.2 group later j link child found)
  | [], _ :: _, unfolds, _, _, _, _, _, _ => unfolds.elim
  | _ :: _, [], unfolds, _, _, _, _, _, _ => unfolds.elim

end

/-- A well-formed tree unfolded from its root holds every group. -/
theorem WellFormed.mem_groups_of_unfolds {tree : Tree} (wellFormed : tree.WellFormed)
    {root : Node} (unfolds : tree.Unfolds 0 root) (group : Group) :
    group ∈ root.groups ↔ group ∈ tree.groups := by
  constructor
  · intro member
    obtain ⟨i, found⟩ := unfolds.group_found group member
    exact List.mem_of_getElem? found
  · intro member
    obtain ⟨i, found⟩ := List.mem_iff_getElem?.mp member
    -- parents stand before their children, so they are known to be in the root's groups
    induction i using Nat.strongRecOn generalizing group with
    | ind i ih =>
      cases parentEq : group.parent with
      | none =>
        have zero := (wellFormed.parent_none found).mp parentEq
        subst zero
        exact unfolds.group_mem found
      | some p =>
        have before := wellFormed.parent_lt found parentEq
        have bound := Nat.lt_trans before (group?_isSome found)
        have parentFound : tree.group? p = some tree.groups[p] := List.getElem?_eq_getElem bound
        have parentMember := ih p before _ (List.getElem_mem bound) parentFound
        have link := (wellFormed.mem_children parentFound i).mpr ⟨group, found, parentEq⟩
        exact unfolds.child_mem _ parentMember i link group found

end Tree

/-! ## Proper nodes -/

/-- Whether members with these values hold together. -/
def GroupOperator.holds : GroupOperator → List Bool → Bool
  | and, values => values.all id
  | or, values => values.any id

namespace Node

/-- Induction on a node whose hypothesis covers its children. -/
@[elab_as_elim]
theorem inductionOn {motive : Node → Prop}
    (mk : ∀ group children, (∀ node ∈ children, motive node) → motive (.mk group children)) :
    ∀ node, motive node
  | .mk group children => mk group children fun node _ => inductionOn mk node

mutual

/-- A node as it comes from a well-formed tree: its groups are sound, its children
    stand for the child links, and none of them is the root. -/
def Proper : Node → Prop
  | mk group children =>
    group.Sound ∧ group.children.length = children.length ∧ ProperAll children

/-- Every node is proper and stands below another. -/
def ProperAll : List Node → Prop
  | [] => True
  | node :: rest => node.group.isRoot = false ∧ Proper node ∧ ProperAll rest

end

theorem properAll_iff {nodes : List Node} :
    ProperAll nodes ↔ ∀ node ∈ nodes, node.group.isRoot = false ∧ node.Proper := by
  induction nodes with
  | nil => simp [ProperAll]
  | cons node rest ih => simp [ProperAll, ih, and_assoc]

mutual

/-- The criteria of a node in the order of compilation: own criteria, those of the
    children, then those on elements. -/
def recorded : Node → List Criterion
  | mk group children =>
    group.criteria ++ recordedOf children ++ group.collections.flatMap (·.criteria)

/-- The criteria of several nodes. -/
def recordedOf : List Node → List Criterion
  | [] => []
  | node :: rest => recorded node ++ recordedOf rest

end

theorem recordedOf_eq (nodes : List Node) : recordedOf nodes = nodes.flatMap recorded := by
  induction nodes with
  | nil => rfl
  | cons node rest ih => simp [recordedOf, ih]

/-- Every criterion of a proper node was checked. -/
theorem Proper.checked {node : Node} :
    node.Proper → ∀ criterion ∈ node.recorded, criterion.Checked := by
  induction node using inductionOn with
  | mk group children ih =>
    intro proper criterion member
    obtain ⟨sound, -, properAll⟩ := proper
    simp only [recorded, recordedOf_eq, List.mem_append, List.mem_flatMap] at member
    rcases member with (own | ⟨node, child, nested⟩) | related
    · exact sound.checked criterion (List.mem_append_left _ own)
    · exact ih node child (properAll_iff.mp properAll node child).2 criterion nested
    · exact sound.checked criterion (List.mem_append_right _ (List.mem_flatMap.mpr related))

mutual

theorem mem_recorded : ∀ {node : Node} {criterion : Criterion},
    criterion ∈ node.recorded ↔ ∃ group ∈ node.groups, criterion ∈ group.recorded
  | mk group children, criterion => by
    simp only [recorded, groups, List.mem_append, mem_recordedOf, List.mem_cons, exists_eq_or_imp,
      Group.recorded]
    exact or_right_comm

theorem mem_recordedOf : ∀ {nodes : List Node} {criterion : Criterion},
    criterion ∈ recordedOf nodes ↔ ∃ group ∈ groupsOf nodes, criterion ∈ group.recorded
  | [], criterion => by simp [recordedOf, groupsOf]
  | node :: rest, criterion => by
    simp only [recordedOf, groupsOf, List.mem_append, mem_recorded, mem_recordedOf, or_and_right,
      exists_or]

end

/-- Neither the group nor any group below it holds a criterion. -/
def isVacuous (node : Node) : Bool :=
  node.groups.all (·.recorded.isEmpty)

theorem groupsOf_eq (nodes : List Node) : groupsOf nodes = nodes.flatMap groups := by
  induction nodes with
  | nil => rfl
  | cons node rest ih => simp [groupsOf, ih]

/-- No group of a node below another is the root. -/
theorem Proper.isRoot_groups {node : Node} :
    node.Proper → node.group.isRoot = false → ∀ inner ∈ node.groups, inner.isRoot = false := by
  induction node using inductionOn with
  | mk group children ih =>
    intro proper below inner member
    simp only [groups, List.mem_cons, groupsOf_eq, List.mem_flatMap] at member
    rcases member with rfl | ⟨child, present, nested⟩
    · exact below
    · obtain ⟨childBelow, childProper⟩ := properAll_iff.mp proper.2.2 child present
      exact ih child present childProper childBelow inner nested

theorem ProperAll.isRoot_groupsOf {nodes : List Node} (proper : ProperAll nodes) :
    ∀ inner ∈ groupsOf nodes, inner.isRoot = false := by
  intro inner member
  rw [groupsOf_eq] at member
  obtain ⟨node, present, nested⟩ := List.mem_flatMap.mp member
  obtain ⟨below, nodeProper⟩ := properAll_iff.mp proper node present
  exact nodeProper.isRoot_groups below inner nested

theorem isVacuous_mk (group : Group) (children : List Node) :
    (mk group children).isVacuous = (group.recorded.isEmpty && children.all isVacuous) := by
  simp only [isVacuous, groups, groupsOf_eq, List.all_cons, List.all_flatMap]
  rfl

/-- The nodes that are not vacuous. -/
def live (nodes : List Node) : List Node :=
  nodes.filter fun node => !node.isVacuous

/-- A node without criteria is one that records none. -/
theorem isVacuous_iff {node : Node} : node.isVacuous = true ↔ node.recorded = [] := by
  simp only [isVacuous, List.all_eq_true, List.isEmpty_iff, List.eq_nil_iff_forall_not_mem,
    mem_recorded, not_exists, not_and]
  exact ⟨fun h criterion group member => h group member criterion,
    fun h group member criterion => h criterion group member⟩

end Node

namespace Tree

mutual

theorem Unfolds.proper {tree : Tree} (wellFormed : tree.WellFormed) :
    ∀ {id : Nat} {node : Node}, tree.Unfolds id node → node.Proper
  | id, .mk group children, unfolds => by
    obtain ⟨found, below⟩ := unfolds
    have later : ∀ child ∈ group.children, 0 < child := fun child member =>
      Nat.zero_lt_of_lt (wellFormed.child_lt found member).1
    obtain ⟨lengths, proper⟩ := UnfoldsAll.proper wellFormed later below
    exact ⟨wellFormed.sound found, lengths, proper⟩

theorem UnfoldsAll.proper {tree : Tree} (wellFormed : tree.WellFormed) :
    ∀ {ids : List Nat} {nodes : List Node}, (∀ id ∈ ids, 0 < id) → tree.UnfoldsAll ids nodes →
      ids.length = nodes.length ∧ Node.ProperAll nodes
  | [], [], _, _ => ⟨rfl, trivial⟩
  | id :: ids, .mk group children :: nodes, later, unfolds => by
    have position := later id List.mem_cons_self
    obtain ⟨lengths, proper⟩ := UnfoldsAll.proper wellFormed
      (fun other member => later other (List.mem_cons_of_mem _ member)) unfolds.2
    have below : group.isRoot = false := by
      rw [Bool.eq_false_iff]
      intro isRoot
      have zero := (wellFormed.parent_none unfolds.1.1).mp (Option.isNone_iff_eq_none.mp isRoot)
      omega
    exact ⟨congrArg (· + 1) lengths, below, Unfolds.proper wellFormed unfolds.1, proper⟩
  | [], _ :: _, _, unfolds => unfolds.elim
  | _ :: _, [], _, unfolds => unfolds.elim

end

/-- The criteria of a well-formed tree are those of its unfolded root. -/
theorem WellFormed.mem_recorded {tree : Tree} (wellFormed : tree.WellFormed) {root : Node}
    (unfolds : tree.Unfolds 0 root) (criterion : Criterion) :
    criterion ∈ root.recorded ↔ ∃ group ∈ tree.groups, criterion ∈ group.recorded := by
  simp only [Node.mem_recorded, wellFormed.mem_groups_of_unfolds unfolds]

/-- A built tree unfolds to a proper root, the one that compilation walks. -/
theorem exists_root (setting : Setting) (steps : List Step) :
    ∃ root, (setting.built steps).node? = some root ∧ (setting.built steps).Unfolds 0 root ∧
      root.Proper := by
  have wellFormed := setting.wellFormed_built steps
  obtain ⟨root, node, unfolds⟩ := wellFormed.unfolds_node?
  exact ⟨root, node, unfolds, unfolds.proper wellFormed⟩

end Tree

end RecordFilter
