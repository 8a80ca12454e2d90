import Mathlib.Data.List.GetD
import RecordFilter.Proofs.Compilation.Thinning

/-!
# Taking out what drops out

`Tree.prune` takes the groups out of a tree that hold no criterion, nor does any group
below them, and numbers the others anew.  `Tree.Thins` takes out own criteria that may be
dropped.  Both are embedded in the tree that they come from, so they compile to the same.
-/

namespace RecordFilter

/-- The group with its links renumbered by their ranks among the positions that are
    kept; a child that is not kept is no longer listed. -/
def Group.renumber (kept : List Nat) (group : Group) : Group where
  id := kept.idxOf group.id
  operator := group.operator
  criteria := group.criteria
  children := (group.children.filter fun child => kept.contains child).map kept.idxOf
  collections := group.collections
  parent := group.parent.map kept.idxOf

namespace Tree

/-- Whether no group from a position downwards holds a criterion. -/
def isBarren (tree : Tree) (id : Nat) : Bool :=
  (nodesFrom 0 tree.groups)[id]?.all Node.isVacuous

/-- The groups that pruning keeps: the root, and those below which some criterion is
    held. -/
def fruitful (tree : Tree) : List Group :=
  tree.groups.filter fun group => group.isRoot || !tree.isBarren group.id

/-- The positions of the groups that pruning keeps. -/
def keptIds (tree : Tree) : List Nat := tree.fruitful.map Group.id

/-- The tree without the groups that hold no criterion in all that is below them; the
    others keep their order and are numbered anew. -/
def prune (tree : Tree) : Tree :=
  ⟨tree.fruitful.map (Group.renumber tree.keptIds)⟩

/-- The left tree is the right one without some of its own criteria, which may be
    dropped. -/
def Thins (drop : Criterion → Prop) (thin full : Tree) : Prop :=
  List.Forall₂ (fun left right : Group => ∃ criteria, Thinned drop Eq criteria right.criteria ∧
    left = { right with criteria }) thin.groups full.groups

variable {tree : Tree}

/-! ## Barren groups -/

/-- Every position of a well-formed tree unfolds to the node computed for it. -/
theorem WellFormed.unfolds_nodesFrom (wellFormed : tree.WellFormed) {id : Nat}
    (bound : id < tree.groups.length) :
    ∃ node, (nodesFrom 0 tree.groups)[id]? = some node ∧ tree.Unfolds id node := by
  obtain ⟨lengths, known⟩ := nodesFrom_spec wellFormed tree.groups 0 rfl
  have computed := List.getElem?_eq_getElem (lengths ▸ bound)
  have unfolds := known id _ computed
  rw [Nat.zero_add] at unfolds
  exact ⟨_, computed, unfolds⟩

theorem WellFormed.isBarren_eq (wellFormed : tree.WellFormed) {id : Nat} {node : Node}
    (unfolds : tree.Unfolds id node) : tree.isBarren id = node.isVacuous := by
  have bound : id < tree.groups.length := by
    cases node with
    | mk group children => exact group?_isSome unfolds.1
  obtain ⟨_, computed, unfolds'⟩ := wellFormed.unfolds_nodesFrom bound
  rw [isBarren, computed, Option.all_some, unfolds'.unique unfolds]

/-- A group is barren when no group that is reached from it holds a criterion. -/
theorem WellFormed.isBarren_iff (wellFormed : tree.WellFormed) {id : Nat}
    (bound : id < tree.groups.length) : tree.isBarren id = true ↔
      ∀ j group, Relation.ReflTransGen tree.Lists id j → tree.group? j = some group →
        group.recorded = [] := by
  obtain ⟨node, -, unfolds⟩ := wellFormed.unfolds_nodesFrom bound
  simp only [wellFormed.isBarren_eq unfolds, Node.isVacuous, List.all_eq_true, List.isEmpty_iff]
  constructor
  · intro barren j group reaches found
    exact barren group (unfolds.mem_of_reaches reaches found)
  · intro barren group member
    obtain ⟨j, found⟩ := unfolds.group_found group member
    have reaches := unfolds.reaches wellFormed group member
    rw [wellFormed.id_eq found] at reaches
    exact barren j group reaches found

/-- Below a barren group all groups are barren. -/
theorem WellFormed.isBarren_child (wellFormed : tree.WellFormed) {parent child : Nat}
    (link : tree.Lists parent child) (barren : tree.isBarren parent = true) :
    tree.isBarren child = true := by
  obtain ⟨group, found, member⟩ := link
  rw [wellFormed.isBarren_iff (group?_isSome found)] at barren
  rw [wellFormed.isBarren_iff (wellFormed.child_lt found member).2]
  exact fun j below reaches => barren j below (reaches.head ⟨group, found, member⟩)

/-! ## Positions that are kept -/

theorem WellFormed.ascending_keptIds (wellFormed : tree.WellFormed) :
    tree.keptIds.Pairwise (· < ·) := by
  have positions : (tree.groups.map Group.id).Pairwise (· < ·) := by
    rw [wellFormed.map_id]
    exact List.pairwise_lt_range
  exact positions.sublist (List.filter_sublist.map Group.id)

theorem WellFormed.mem_keptIds (wellFormed : tree.WellFormed) {id : Nat} :
    id ∈ tree.keptIds ↔
      ∃ group, tree.group? id = some group ∧ (group.isRoot || !tree.isBarren id) = true := by
  simp only [keptIds, fruitful, List.mem_map, List.mem_filter]
  constructor
  · rintro ⟨group, ⟨member, stays⟩, rfl⟩
    obtain ⟨i, found⟩ := List.mem_iff_getElem?.mp member
    have same : group.id = i := wellFormed.id_eq found
    exact ⟨group, same ▸ found, stays⟩
  · rintro ⟨group, found, stays⟩
    have same := wellFormed.id_eq found
    exact ⟨group, ⟨List.mem_of_getElem? found, same ▸ stays⟩, same⟩

theorem WellFormed.zero_mem_keptIds (wellFormed : tree.WellFormed) : 0 ∈ tree.keptIds := by
  have bound : 0 < tree.groups.length := List.length_pos_iff.mpr wellFormed.nonempty
  have root : tree.group? 0 = some tree.groups[0] := List.getElem?_eq_getElem bound
  have parent := (wellFormed.parent_none root).mpr rfl
  exact wellFormed.mem_keptIds.mpr ⟨_, root, by simp [Group.isRoot, parent]⟩

/-- The parent of a group that is kept is kept. -/
theorem WellFormed.parent_mem_keptIds (wellFormed : tree.WellFormed) {id p : Nat} {group : Group}
    (found : tree.group? id = some group) (kept : id ∈ tree.keptIds)
    (parent : group.parent = some p) : p ∈ tree.keptIds := by
  obtain ⟨group', found', stays⟩ := wellFormed.mem_keptIds.mp kept
  rw [found] at found'
  cases found'
  have link := wellFormed.lists_iff.mpr ⟨group, found, parent⟩
  have bound := Nat.lt_trans (link.lt wellFormed) (group?_isSome found)
  refine wellFormed.mem_keptIds.mpr ⟨_, List.getElem?_eq_getElem bound, ?_⟩
  cases barren : tree.isBarren p with
  | false => exact Bool.or_true _
  | true =>
    have inner : group.isRoot = false := by simp [Group.isRoot, parent]
    rw [inner, wellFormed.isBarren_child link barren] at stays
    cases stays

/-! ## The pruned tree -/

/-- The position that a group of the pruned tree had. -/
def keptPlace (tree : Tree) (i : Nat) : Nat := tree.keptIds.getD i 0

theorem keptPlace_idxOf {id : Nat} (kept : id ∈ tree.keptIds) :
    tree.keptPlace (tree.keptIds.idxOf id) = id := by
  rw [keptPlace, List.getD_eq_getElem _ _ (List.idxOf_lt_length_of_mem kept), List.getElem_idxOf]

theorem WellFormed.idxOf_keptPlace (wellFormed : tree.WellFormed) {i : Nat}
    (bound : i < tree.keptIds.length) : tree.keptIds.idxOf (tree.keptPlace i) = i := by
  have distinct := wellFormed.ascending_keptIds.imp fun before => Nat.ne_of_lt before
  rw [keptPlace, List.getD_eq_getElem _ _ bound]
  exact List.Nodup.idxOf_getElem distinct i bound

theorem WellFormed.keptPlace_lt (wellFormed : tree.WellFormed) {i j : Nat} (before : i < j)
    (bound : j < tree.keptIds.length) : tree.keptPlace i < tree.keptPlace j := by
  rw [keptPlace, keptPlace, List.getD_eq_getElem _ _ bound,
    List.getD_eq_getElem _ _ (Nat.lt_trans before bound)]
  exact List.pairwise_iff_getElem.mp wellFormed.ascending_keptIds i j _ bound before

/-- Ranks are in the order of positions. -/
theorem WellFormed.idxOf_lt (wellFormed : tree.WellFormed) {a b : Nat}
    (keptA : a ∈ tree.keptIds) (keptB : b ∈ tree.keptIds) (before : a < b) :
    tree.keptIds.idxOf a < tree.keptIds.idxOf b := by
  by_contra notBefore
  -- ranks the other way round would put the positions the other way round as well
  rcases Nat.lt_or_eq_of_le (Nat.le_of_not_lt notBefore) with after | same
  · have reversed := wellFormed.keptPlace_lt after (List.idxOf_lt_length_of_mem keptA)
    rw [keptPlace_idxOf keptA, keptPlace_idxOf keptB] at reversed
    omega
  · have equal := congrArg tree.keptPlace same
    rw [keptPlace_idxOf keptA, keptPlace_idxOf keptB] at equal
    omega

theorem length_prune (tree : Tree) : tree.prune.groups.length = tree.keptIds.length := by
  simp [prune, keptIds]

/-- A group of the pruned tree is the one in its former position, renumbered. -/
theorem WellFormed.group?_prune (wellFormed : tree.WellFormed) {i : Nat} {left : Group}
    (found : tree.prune.group? i = some left) :
    ∃ group, tree.group? (tree.keptPlace i) = some group ∧
      tree.keptPlace i ∈ tree.keptIds ∧ group.renumber tree.keptIds = left := by
  rw [group?, prune, List.getElem?_map] at found
  obtain ⟨group, present, renumbered⟩ := Option.map_eq_some_iff.mp found
  have place : tree.keptPlace i = group.id := by
    rw [keptPlace, keptIds, List.getD_eq_getElem?_getD, List.getElem?_map, present]
    rfl
  have member : group ∈ tree.groups := List.mem_of_mem_filter (List.mem_of_getElem? present)
  obtain ⟨position, foundGroup⟩ := List.mem_iff_getElem?.mp member
  have same : group.id = position := wellFormed.id_eq foundGroup
  refine ⟨group, ?_, ?_, renumbered⟩
  · rw [place, same]
    exact foundGroup
  · rw [place]
    exact List.mem_map_of_mem (List.mem_of_getElem? present)

theorem WellFormed.embeds_prune (wellFormed : tree.WellFormed) (drop : Criterion → Prop) :
    Embeds drop tree.keptPlace tree.prune tree := by
  constructor
  case root =>
    have place := keptPlace_idxOf wellFormed.zero_mem_keptIds
    rcases Nat.eq_zero_or_pos (tree.keptIds.idxOf 0) with first | later
    · rwa [first] at place
    · have before := wellFormed.keptPlace_lt later
        (List.idxOf_lt_length_of_mem wellFormed.zero_mem_keptIds)
      omega
  case ascending =>
    intro i j before bound
    exact wellFormed.keptPlace_lt before (tree.length_prune ▸ bound)
  case group =>
    intro i left found
    obtain ⟨right, foundRight, kept, rfl⟩ := wellFormed.group?_prune found
    refine ⟨right, foundRight, ⟨rfl, .same _ _, rfl⟩, ?_⟩
    cases parent : right.parent with
    | none => simp [Group.renumber, parent]
    | some p =>
      have parentKept := wellFormed.parent_mem_keptIds foundRight kept parent
      simp [Group.renumber, parent, keptPlace_idxOf parentKept]
  case barren =>
    intro j right found unplaced
    have barren : tree.isBarren j = true := by
      by_contra fruitful
      have kept := wellFormed.mem_keptIds.mpr ⟨right, found, by simp [fruitful]⟩
      refine unplaced (tree.keptIds.idxOf j) ?_ (keptPlace_idxOf kept)
      rw [length_prune]
      exact List.idxOf_lt_length_of_mem kept
    exact (wellFormed.isBarren_iff (group?_isSome found)).mp barren j right .refl found

/-- Pruning a well-formed tree gives a well-formed tree. -/
theorem WellFormed.prune (wellFormed : tree.WellFormed) : tree.prune.WellFormed := by
  have embeds := wellFormed.embeds_prune fun _ => False
  refine embeds.wellFormed wellFormed ?nonempty ?id_eq ?parent_lt ?children ?ascending
  case nonempty =>
    refine List.length_pos_iff.mp ?_
    rw [length_prune]
    exact List.length_pos_of_mem wellFormed.zero_mem_keptIds
  case id_eq =>
    intro i left found
    obtain ⟨right, foundRight, kept, rfl⟩ := wellFormed.group?_prune found
    rw [Group.renumber, wellFormed.id_eq foundRight]
    exact wellFormed.idxOf_keptPlace (tree.length_prune ▸ group?_isSome found)
  case parent_lt =>
    intro i left p found parent
    obtain ⟨right, foundRight, kept, rfl⟩ := wellFormed.group?_prune found
    obtain ⟨q, parentRight, rfl⟩ := Option.map_eq_some_iff.mp parent
    have before := wellFormed.idxOf_lt (wellFormed.parent_mem_keptIds foundRight kept parentRight)
      kept (wellFormed.parent_lt foundRight parentRight)
    rwa [wellFormed.idxOf_keptPlace (tree.length_prune ▸ group?_isSome found)] at before
  case children =>
    intro i left right found foundRight j
    obtain ⟨right', same, -, rfl⟩ := wellFormed.group?_prune found
    rw [foundRight] at same
    cases same
    simp only [Group.renumber, List.mem_map, List.mem_filter, List.contains_iff_mem, length_prune]
    constructor
    · rintro ⟨child, ⟨member, kept⟩, rfl⟩
      rw [keptPlace_idxOf kept]
      exact ⟨List.idxOf_lt_length_of_mem kept, member⟩
    · rintro ⟨bound, member⟩
      refine ⟨tree.keptPlace j, ⟨member, ?_⟩, wellFormed.idxOf_keptPlace bound⟩
      rw [keptPlace, List.getD_eq_getElem _ _ bound]
      exact List.getElem_mem bound
  case ascending =>
    intro i left found
    obtain ⟨right, foundRight, -, rfl⟩ := wellFormed.group?_prune found
    refine List.pairwise_map.mpr (((wellFormed.ascending foundRight).filter _).imp_of_mem ?_)
    intro a b memberA memberB before
    simp only [List.mem_filter, List.contains_iff_mem] at memberA memberB
    exact wellFormed.idxOf_lt memberA.2 memberB.2 before

/-- In a pruned tree only the root can be barren. -/
theorem WellFormed.isBarren_prune (wellFormed : tree.WellFormed) {id : Nat}
    (bound : id < tree.prune.groups.length) (barren : tree.prune.isBarren id = true) : id = 0 := by
  have embeds := wellFormed.embeds_prune fun _ => False
  obtain ⟨right, foundRight, kept, -⟩ := wellFormed.group?_prune (List.getElem?_eq_getElem bound)
  obtain ⟨left, -, unfolds⟩ := wellFormed.prune.unfolds_nodesFrom bound
  obtain ⟨node, -, nodeUnfolds⟩ := wellFormed.unfolds_nodesFrom (group?_isSome foundRight)
  have same := embeds.recorded_eq wellFormed.prune wellFormed unfolds nodeUnfolds
  rw [wellFormed.prune.isBarren_eq unfolds, Node.isVacuous_iff, same, ← Node.isVacuous_iff,
    ← wellFormed.isBarren_eq nodeUnfolds] at barren
  obtain ⟨group, foundGroup, stays⟩ := wellFormed.mem_keptIds.mp kept
  rw [barren, Bool.not_true, Bool.or_false] at stays
  have atRoot : tree.keptPlace id = 0 :=
    (wellFormed.parent_none foundGroup).mp (Option.isNone_iff_eq_none.mp stays)
  exact embeds.injective bound (Nat.zero_lt_of_lt bound) (atRoot.trans embeds.root.symm)

/-- Pruning loses no criterion. -/
theorem WellFormed.recorded_prune (wellFormed : tree.WellFormed) :
    tree.prune.groups.flatMap Group.recorded = tree.groups.flatMap Group.recorded := by
  have thinned : Thinned (fun group : Group => group.recorded = [])
      (fun left right => id left = right) tree.fruitful tree.groups := by
    refine .of_map_eq_filter (List.map_id _) fun group member drops => ?_
    obtain ⟨i, found⟩ := List.mem_iff_getElem?.mp member
    have same : group.id = i := wellFormed.id_eq found
    have barren : tree.isBarren i = true := by
      rw [Bool.or_eq_false_iff, Bool.not_eq_false'] at drops
      exact same ▸ drops.2
    exact (wellFormed.isBarren_iff (group?_isSome found)).mp barren i group .refl found
  rw [Tree.prune, List.flatMap_map]
  exact thinned.flatMap_eq (fun none => none) fun equal => equal ▸ rfl

/-! ## Trees without some criteria -/

section Thins

variable {drop : Criterion → Prop} {thin full : Tree}

/-- A group of the thinned tree is the one in the same position, with fewer criteria. -/
theorem Thins.group? (thins : Thins drop thin full) {i : Nat} {left : Group}
    (found : thin.group? i = some left) : ∃ right, full.group? i = some right ∧
      ∃ criteria, Thinned drop Eq criteria right.criteria ∧ left = { right with criteria } := by
  have bound := group?_isSome found
  have boundRight : i < full.groups.length := thins.length_eq ▸ bound
  refine ⟨full.groups[i], List.getElem?_eq_getElem boundRight, ?_⟩
  rw [Tree.group?, List.getElem?_eq_getElem bound, Option.some.injEq] at found
  exact found ▸ thins.get bound boundRight

theorem Thins.embeds (thins : Thins drop thin full) : Embeds drop id thin full := by
  constructor
  case root => rfl
  case ascending => exact fun before _ => before
  case group =>
    intro i left found
    obtain ⟨right, foundRight, criteria, thinned, rfl⟩ := thins.group? found
    exact ⟨right, foundRight, ⟨rfl, thinned, rfl⟩, by simp⟩
  case barren =>
    intro j right found unplaced
    have bound : j < thin.groups.length := thins.length_eq ▸ group?_isSome found
    exact absurd rfl (unplaced j bound)

/-- Taking own criteria out of a well-formed tree leaves a well-formed tree. -/
theorem Thins.wellFormed (thins : Thins drop thin full) (fullWellFormed : full.WellFormed) :
    thin.WellFormed := by
  refine thins.embeds.wellFormed fullWellFormed ?nonempty ?id_eq ?parent_lt ?children ?ascending
  case nonempty =>
    rw [← List.length_pos_iff, thins.length_eq, List.length_pos_iff]
    exact fullWellFormed.nonempty
  case id_eq =>
    intro i left found
    obtain ⟨right, foundRight, criteria, -, rfl⟩ := thins.group? found
    have position : right.id = i := fullWellFormed.id_eq foundRight
    exact position
  case parent_lt =>
    intro i left p found parent
    obtain ⟨right, foundRight, criteria, -, rfl⟩ := thins.group? found
    exact fullWellFormed.parent_lt foundRight parent
  case children =>
    intro i left right found foundRight j
    obtain ⟨right', same, criteria, -, rfl⟩ := thins.group? found
    rw [id_eq, same] at foundRight
    cases foundRight
    refine ⟨fun member => ⟨?_, member⟩, fun placed => placed.2⟩
    exact thins.length_eq ▸ (fullWellFormed.child_lt same member).2
  case ascending =>
    intro i left found
    obtain ⟨right, foundRight, criteria, -, rfl⟩ := thins.group? found
    have ascending : right.children.Pairwise (· < ·) := fullWellFormed.ascending foundRight
    exact ascending

end Thins

end Tree

end RecordFilter
