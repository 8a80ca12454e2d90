import Mathlib.Data.List.Chain
import Mathlib.Data.List.Forall2
import Mathlib.Data.List.Nodup
import Mathlib.Logic.Relation
import RecordFilter.Proofs.Unfolding

/-!
# Child links

The child links of a well-formed tree lead to every group along exactly one path
(`WellFormed.existsUnique_path`).  Hence a walk that follows each link once meets each
group once: the unfolded tree holds the groups of the tree in another order, and so
does a stack of pending groups that is worked off from the root.
-/

namespace RecordFilter

/-- The node of a group without members has nothing in it. -/
theorem Node.nothing_of_isEmpty {group : Group} {children : List Node}
    (lengths : group.children.length = children.length) (empty : group.isEmpty = true) :
    group.criteria = [] ∧ group.collections = [] ∧ children = [] := by
  simp only [Group.isEmpty, Bool.and_eq_true, List.isEmpty_iff] at empty
  obtain ⟨⟨noCriteria, noChildren⟩, noCollections⟩ := empty
  rw [noChildren] at lengths
  exact ⟨noCriteria, noCollections, List.length_eq_zero_iff.mp lengths.symm⟩

/-- A child of a proper node is proper. -/
theorem Node.Proper.of_mem {group : Group} {children : List Node}
    (proper : (Node.mk group children).Proper) {node : Node} (member : node ∈ children) :
    node.Proper :=
  (properAll_iff.mp proper.2.2 node member).2

namespace Tree

/-- The group at the first position lists the second as a child. -/
def Lists (tree : Tree) (parent child : Nat) : Prop :=
  ∃ group, tree.group? parent = some group ∧ child ∈ group.children

/-- A path of child links from the root to a position. -/
structure IsPath (tree : Tree) (path : List Nat) (id : Nat) : Prop where
  start : path.head? = some 0
  linked : path.IsChain tree.Lists
  stop : path.getLast? = some id

/-- Works off a stack of pending groups: the topmost one is taken up and its children
    are put on the stack, the last child on top.  There is no result when a group is
    missing or when groups are left after the given number of rounds. -/
def drain (tree : Tree) : Nat → List Nat → Option (List Group)
  | _, [] => some []
  | 0, _ :: _ => none
  | rounds + 1, id :: pending => do
    let group ← tree.group? id
    let later ← tree.drain rounds (group.children.reverse ++ pending)
    return group :: later

/-! ## Paths -/

theorem Lists.lt {tree : Tree} (wellFormed : tree.WellFormed) {parent child : Nat}
    (link : tree.Lists parent child) : parent < child := by
  obtain ⟨group, found, member⟩ := link
  exact (wellFormed.child_lt found member).1

/-- A child link is the parent link read backwards. -/
theorem WellFormed.lists_iff {tree : Tree} (wellFormed : tree.WellFormed) {parent id : Nat} :
    tree.Lists parent id ↔ ∃ group, tree.group? id = some group ∧ group.parent = some parent := by
  constructor
  · rintro ⟨group, found, member⟩
    exact (wellFormed.mem_children found id).mp member
  · rintro ⟨child, childFound, parentEq⟩
    have before := wellFormed.parent_lt childFound parentEq
    have bound := Nat.lt_trans before (group?_isSome childFound)
    have found : tree.group? parent = some tree.groups[parent] := List.getElem?_eq_getElem bound
    exact ⟨_, found, (wellFormed.mem_children found id).mpr ⟨child, childFound, parentEq⟩⟩

/-- No position is listed by two groups. -/
theorem WellFormed.lists_unique {tree : Tree} (wellFormed : tree.WellFormed)
    {left right child : Nat} (link : tree.Lists left child) (link' : tree.Lists right child) :
    left = right := by
  obtain ⟨group, found, parent⟩ := wellFormed.lists_iff.mp link
  obtain ⟨group', found', parent'⟩ := wellFormed.lists_iff.mp link'
  rw [found] at found'
  cases found'
  exact Option.some.inj (parent.symm.trans parent')

/-- A path to a position that has a parent is a path to the parent, one link longer. -/
theorem isPath_concat {tree : Tree} {path : List Nat} {last id : Nat} (nonempty : path ≠ []) :
    tree.IsPath (path ++ [last]) id ↔
      last = id ∧ ∃ parent, tree.IsPath path parent ∧ tree.Lists parent id := by
  obtain ⟨parent, stop⟩ : ∃ parent, path.getLast? = some parent :=
    ⟨_, List.getLast?_eq_some_getLast nonempty⟩
  have head : (path ++ [last]).head? = path.head? := by
    cases path with
    | nil => contradiction
    | cons first rest => rfl
  constructor
  · intro ⟨start, linked, ends⟩
    have same : last = id := by simpa using ends
    obtain ⟨before, -, joined⟩ := List.isChain_append.mp linked
    refine ⟨same, parent, ⟨head ▸ start, before, stop⟩, ?_⟩
    exact same ▸ joined parent (by simp [stop]) last (by simp)
  · rintro ⟨rfl, parent', ⟨start, linked, stop'⟩, link⟩
    rw [stop] at stop'
    cases stop'
    refine ⟨head ▸ start, List.isChain_append.mpr ⟨linked, List.isChain_singleton _, ?_⟩, by simp⟩
    intro x isLast y isHead
    simp only [stop, Option.mem_def, Option.some.injEq, List.head?_cons] at isLast isHead
    exact isLast ▸ isHead ▸ link

/-- Every group of a well-formed tree is reached from the root by one path. -/
theorem WellFormed.existsUnique_path {tree : Tree} (wellFormed : tree.WellFormed) {id : Nat}
    (bound : id < tree.groups.length) : ∃! path, tree.IsPath path id := by
  induction id using Nat.strongRecOn with
  | ind id ih =>
    have found : tree.group? id = some tree.groups[id] := List.getElem?_eq_getElem bound
    cases parentEq : tree.groups[id].parent with
    | none =>
      have root : id = 0 := (wellFormed.parent_none found).mp parentEq
      subst root
      refine ⟨[0], ⟨rfl, List.isChain_singleton _, rfl⟩, ?_⟩
      intro path isPath
      rcases List.eq_nil_or_concat path with rfl | ⟨before, last, rfl⟩
      · cases isPath.start
      · rw [List.concat_eq_append] at isPath ⊢
        by_cases single : before = []
        · subst single
          rw [← Option.some.inj isPath.stop]
          rfl
        · obtain ⟨-, parent, -, link⟩ := (isPath_concat single).mp isPath
          exact absurd (link.lt wellFormed) (Nat.not_lt_zero parent)
    | some parent =>
      have link := wellFormed.lists_iff.mpr ⟨_, found, parentEq⟩
      have before := link.lt wellFormed
      obtain ⟨path, isPath, unique⟩ := ih parent before (Nat.lt_trans before bound)
      have nonempty : path ≠ [] := by
        rintro rfl
        cases isPath.start
      refine ⟨path ++ [id], (isPath_concat nonempty).mpr ⟨rfl, parent, isPath, link⟩, ?_⟩
      intro other otherPath
      rcases List.eq_nil_or_concat other with rfl | ⟨front, last, rfl⟩
      · cases otherPath.start
      · rw [List.concat_eq_append] at otherPath ⊢
        by_cases single : front = []
        · subst single
          have atRoot : last = 0 := Option.some.inj otherPath.start
          have atId : last = id := Option.some.inj otherPath.stop
          omega
        · obtain ⟨same, parent', frontPath, link'⟩ := (isPath_concat single).mp otherPath
          rw [wellFormed.lists_unique link' link] at frontPath
          rw [unique front frontPath, same]

/-! ## Each group once -/

theorem unfoldsAll_iff {tree : Tree} {ids : List Nat} {nodes : List Node} :
    tree.UnfoldsAll ids nodes ↔ List.Forall₂ tree.Unfolds ids nodes := by
  induction ids generalizing nodes with
  | nil => cases nodes <;> simp [UnfoldsAll]
  | cons id ids ih => cases nodes <;> simp [UnfoldsAll, ih]

/-- The nodes of child links stand for positions that are listed. -/
theorem Unfolds.lists_of_mem {tree : Tree} {id : Nat} {group : Group} {children : List Node}
    (unfolds : tree.Unfolds id (.mk group children)) :
    ∀ node ∈ children, ∃ child, tree.Lists id child ∧ tree.Unfolds child node := by
  intro node member
  obtain ⟨k, bound, rfl⟩ := List.mem_iff_getElem.mp member
  have pairs := unfoldsAll_iff.mp unfolds.2
  have childBound : k < group.children.length := by rwa [pairs.length_eq]
  exact ⟨group.children[k], ⟨group, unfolds.1, List.getElem_mem childBound⟩,
    pairs.get childBound bound⟩

/-- A child link has its node among those of the children. -/
theorem Unfolds.exists_child {tree : Tree} {id child : Nat} {group : Group} {children : List Node}
    (unfolds : tree.Unfolds id (.mk group children)) (listed : child ∈ group.children) :
    ∃ node ∈ children, tree.Unfolds child node := by
  obtain ⟨k, bound, rfl⟩ := List.mem_iff_getElem.mp listed
  have pairs := unfoldsAll_iff.mp unfolds.2
  have nodeBound : k < children.length := by rwa [← pairs.length_eq]
  exact ⟨children[k], List.getElem_mem nodeBound, pairs.get bound nodeBound⟩

/-- The groups of an unfolded node are reached by child links. -/
theorem Unfolds.reaches {tree : Tree} (wellFormed : tree.WellFormed) {id : Nat} {node : Node} :
    tree.Unfolds id node → ∀ group ∈ node.groups, Relation.ReflTransGen tree.Lists id group.id := by
  induction node using Node.inductionOn generalizing id with
  | mk own children ih =>
    intro unfolds group member
    simp only [Node.groups, Node.groupsOf_eq, List.mem_cons, List.mem_flatMap] at member
    rcases member with rfl | ⟨node, present, nested⟩
    · rw [wellFormed.id_eq unfolds.1]
    · obtain ⟨child, link, childUnfolds⟩ := unfolds.lists_of_mem node present
      exact (ih node present childUnfolds group nested).head link

/-- A group that is reached by child links is one of the unfolded node. -/
theorem Unfolds.mem_of_reaches {tree : Tree} {id : Nat} {node : Node}
    (unfolds : tree.Unfolds id node) {j : Nat} (reaches : Relation.ReflTransGen tree.Lists id j) :
    ∀ {group : Group}, tree.group? j = some group → group ∈ node.groups := by
  induction reaches with
  | refl => exact unfolds.group_mem
  | tail _ link ih =>
    intro group found
    obtain ⟨above, foundAbove, listed⟩ := link
    exact unfolds.child_mem above (ih foundAbove) _ listed group found

theorem WellFormed.le_of_reaches {tree : Tree} (wellFormed : tree.WellFormed) {above below : Nat}
    (reaches : Relation.ReflTransGen tree.Lists above below) : above ≤ below := by
  induction reaches with
  | refl => exact Nat.le_refl above
  | tail _ link ih => exact Nat.le_trans ih (Nat.le_of_lt (link.lt wellFormed))

/-- Two children of one group do not reach each other. -/
theorem WellFormed.not_reaches_sibling {tree : Tree} (wellFormed : tree.WellFormed)
    {parent left right : Nat} (link : tree.Lists parent left) (link' : tree.Lists parent right)
    (differ : left ≠ right) : ¬ Relation.ReflTransGen tree.Lists left right := by
  intro reaches
  rcases reaches.cases_tail with same | ⟨above, reachesAbove, last⟩
  · exact differ same.symm
  · rw [wellFormed.lists_unique last link'] at reachesAbove
    have first := link.lt wellFormed
    have below := wellFormed.le_of_reaches reachesAbove
    omega

/-- What two children of one group reach has nothing in common. -/
theorem WellFormed.disjoint_siblings {tree : Tree} (wellFormed : tree.WellFormed)
    {parent left right : Nat} (link : tree.Lists parent left) (link' : tree.Lists parent right)
    (differ : left ≠ right) {id : Nat} (fromLeft : Relation.ReflTransGen tree.Lists left id)
    (fromRight : Relation.ReflTransGen tree.Lists right id) : False := by
  -- going up from a position there is only one way, so one of the two lies on the other's
  have upwards : Relator.RightUnique (Function.swap tree.Lists) :=
    fun _ _ _ up up' => wellFormed.lists_unique up up'
  have comparable := Relation.ReflTransGen.total_of_right_unique upwards
    (Relation.reflTransGen_swap.mpr fromLeft) (Relation.reflTransGen_swap.mpr fromRight)
  rcases comparable with rightLeft | leftRight
  · exact wellFormed.not_reaches_sibling link' link differ.symm
      (Relation.reflTransGen_swap.mp rightLeft)
  · exact wellFormed.not_reaches_sibling link link' differ
      (Relation.reflTransGen_swap.mp leftRight)

/-- An unfolded node holds no group twice. -/
theorem Unfolds.nodup_ids {tree : Tree} (wellFormed : tree.WellFormed) {id : Nat} {node : Node} :
    tree.Unfolds id node → (node.groups.map Group.id).Nodup := by
  induction node using Node.inductionOn generalizing id with
  | mk group children ih =>
    intro unfolds
    rw [Node.groups, Node.groupsOf_eq, List.map_cons, List.map_flatMap, List.nodup_cons,
      List.nodup_flatMap]
    refine ⟨?own, ?each, ?apart⟩
    case own =>
      intro member
      obtain ⟨node, present, nested⟩ := List.mem_flatMap.mp member
      obtain ⟨inner, innerMember, same⟩ := List.mem_map.mp nested
      obtain ⟨child, link, childUnfolds⟩ := unfolds.lists_of_mem node present
      have after := link.lt wellFormed
      have below := wellFormed.le_of_reaches (childUnfolds.reaches wellFormed inner innerMember)
      rw [same, wellFormed.id_eq unfolds.1] at below
      omega
    case each =>
      intro node present
      obtain ⟨child, -, childUnfolds⟩ := unfolds.lists_of_mem node present
      exact ih node present childUnfolds
    case apart =>
      have pairs := unfoldsAll_iff.mp unfolds.2
      rw [List.pairwise_iff_getElem]
      intro i j iBound jBound before
      have iChild : i < group.children.length := by rwa [pairs.length_eq]
      have jChild : j < group.children.length := by rwa [pairs.length_eq]
      have ascending := List.pairwise_iff_getElem.mp (wellFormed.ascending unfolds.1)
        i j iChild jChild before
      intro k inLeft inRight
      obtain ⟨left, leftMember, leftId⟩ := List.mem_map.mp inLeft
      obtain ⟨right, rightMember, rightId⟩ := List.mem_map.mp inRight
      have fromLeft := (pairs.get iChild iBound).reaches wellFormed left leftMember
      have fromRight := (pairs.get jChild jBound).reaches wellFormed right rightMember
      rw [leftId] at fromLeft
      rw [rightId] at fromRight
      exact wellFormed.disjoint_siblings ⟨group, unfolds.1, List.getElem_mem iChild⟩
        ⟨group, unfolds.1, List.getElem_mem jChild⟩ (Nat.ne_of_lt ascending) fromLeft fromRight

theorem WellFormed.map_id {tree : Tree} (wellFormed : tree.WellFormed) :
    tree.groups.map Group.id = List.range tree.groups.length := by
  refine List.ext_getElem (by simp) ?_
  intro i bound _
  have inside : i < tree.groups.length := by simpa using bound
  have found : tree.group? i = some tree.groups[i] := List.getElem?_eq_getElem inside
  rw [List.getElem_map, List.getElem_range, wellFormed.id_eq found]

/-- A well-formed tree unfolded from its root holds each group once. -/
theorem WellFormed.perm_groups {tree : Tree} (wellFormed : tree.WellFormed) {root : Node}
    (unfolds : tree.Unfolds 0 root) : root.groups.Perm tree.groups := by
  have distinct : tree.groups.Nodup := by
    refine List.Nodup.of_map Group.id ?_
    rw [wellFormed.map_id]
    exact List.nodup_range
  have unfoldedDistinct : root.groups.Nodup := .of_map Group.id (unfolds.nodup_ids wellFormed)
  rw [List.perm_ext_iff_of_nodup unfoldedDistinct distinct]
  exact wellFormed.mem_groups_of_unfolds unfolds

theorem WellFormed.perm_ids {tree : Tree} (wellFormed : tree.WellFormed) {root : Node}
    (unfolds : tree.Unfolds 0 root) :
    (root.groups.map Group.id).Perm (List.range tree.groups.length) := by
  rw [← wellFormed.map_id]
  exact (wellFormed.perm_groups unfolds).map Group.id

/-! ## Working off a stack -/

/-- A stack whose positions unfold is worked off in as many rounds as there are groups
    below, and each of these is taken up once. -/
theorem drain_of_unfolds {tree : Tree} {rounds : Nat} {pending : List Nat} {nodes : List Node}
    (unfolds : List.Forall₂ tree.Unfolds pending nodes)
    (enough : (Node.groupsOf nodes).length ≤ rounds) :
    ∃ taken, tree.drain rounds pending = some taken ∧ taken.Perm (Node.groupsOf nodes) := by
  induction rounds generalizing pending nodes with
  | zero =>
    cases unfolds with
    | nil => exact ⟨[], rfl, .refl _⟩
    | @cons id node pending nodes here later =>
      cases node with
      | mk group children => simp [Node.groupsOf, Node.groups] at enough
  | succ rounds ih =>
    cases unfolds with
    | nil => exact ⟨[], rfl, .refl _⟩
    | @cons id node pending nodes here later =>
      cases node with
      | mk group children =>
        have below := List.forall₂_reverse_iff.mpr (unfoldsAll_iff.mp here.2)
        have order : (Node.groupsOf (children.reverse ++ nodes)).Perm
            (Node.groupsOf children ++ Node.groupsOf nodes) := by
          simp only [Node.groupsOf_eq, List.flatMap_append]
          exact ((List.reverse_perm children).flatMap_right Node.groups).append_right _
        simp only [Node.groupsOf, Node.groups, List.length_append, List.length_cons] at enough
        obtain ⟨taken, drained, each⟩ := ih (List.rel_append below later) (by
          rw [order.length_eq, List.length_append]
          omega)
        refine ⟨group :: taken, ?_, ?_⟩
        · simp [drain, here.1, drained]
        · simp only [Node.groupsOf, Node.groups, List.cons_append]
          exact (each.trans order).cons group

/-- A well-formed tree is worked off from its root, each group once. -/
theorem WellFormed.drain_root {tree : Tree} (wellFormed : tree.WellFormed) {rounds : Nat}
    (enough : tree.groups.length ≤ rounds) :
    ∃ taken, tree.drain rounds [0] = some taken ∧ taken.Perm tree.groups := by
  obtain ⟨root, -, unfolds⟩ := wellFormed.unfolds_node?
  have order := wellFormed.perm_groups unfolds
  have single : Node.groupsOf [root] = root.groups := by simp [Node.groupsOf]
  have size : (Node.groupsOf [root]).length ≤ rounds := by
    rw [single, order.length_eq]
    exact enough
  obtain ⟨taken, drained, each⟩ := drain_of_unfolds (.cons unfolds .nil) size
  rw [single] at each
  exact ⟨taken, drained, each.trans order⟩

/-- Working off a well-formed tree finds the properties that are referenced. -/
theorem WellFormed.perm_referenced {tree : Tree} (wellFormed : tree.WellFormed)
    {taken : List Group} (each : taken.Perm tree.groups) :
    ((taken.flatMap Group.criteria).map (·.property.name)).Perm tree.referenced := by
  obtain ⟨root, node, unfolds⟩ := wellFormed.unfolds_node?
  have order := each.trans (wellFormed.perm_groups unfolds).symm
  simp only [referenced, node]
  exact (order.flatMap_right Group.criteria).map _

end Tree

end RecordFilter
