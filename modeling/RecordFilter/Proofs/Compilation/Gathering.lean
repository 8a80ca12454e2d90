import Mathlib.Data.List.Forall2
import RecordFilter.Proofs.Compilation

/-!
# Gathering a tree

`Backend.gather` gives a tree a meaning from meanings of comparisons and of groups.
The members of a group are its own criteria, its children that are not vacuous and the
criteria on elements, in this order.  Two meanings that are related on comparisons and
on groups are related on the tree (`gathered_related`).
-/

namespace RecordFilter

section Related

variable {α β γ : Type} {rel : β → γ → Prop}

/-- Two maps of one list are related when they are on each item. -/
theorem forall₂_map_map {left : α → β} {right : α → γ} {items : List α}
    (each : ∀ item ∈ items, rel (left item) (right item)) :
    List.Forall₂ rel (items.map left) (items.map right) := by
  rw [List.forall₂_map_left_iff, List.forall₂_map_right_iff, List.forall₂_same]
  exact each

theorem forall₂_flatMap_flatMap {left : α → List β} {right : α → List γ} {items : List α}
    (each : ∀ item ∈ items, List.Forall₂ rel (left item) (right item)) :
    List.Forall₂ rel (items.flatMap left) (items.flatMap right) := by
  induction items with
  | nil => exact .nil
  | cons item rest ih =>
    rw [List.flatMap_cons, List.flatMap_cons]
    exact List.rel_append (each item List.mem_cons_self)
      (ih fun other member => each other (List.mem_cons_of_mem _ member))

end Related

namespace Backend

variable {Condition Parameter Result R S : Type} (backend : Backend Condition Parameter Result)
  (leaf : Criterion → Parameter → R) (join : Group → List R → R)

mutual

/-- The meaning of a node. -/
def gather (parameter : Parameter) : Node → R
  | .mk group children =>
    join group <|
      group.criteria.map (leaf · parameter) ++ gatherEach parameter children ++
        group.collections.flatMap fun entry =>
          entry.criteria.map (leaf · (backend.elementParameter entry.collection))

/-- The meanings of those nodes that are not vacuous. -/
def gatherEach (parameter : Parameter) : List Node → List R
  | [] => []
  | node :: rest =>
    if node.isVacuous then gatherEach parameter rest
    else gather parameter node :: gatherEach parameter rest

end

/-- The meanings of the members of a group. -/
def gathered (parameter : Parameter) (group : Group) (children : List Node) : List R :=
  group.criteria.map (leaf · parameter) ++
    (Node.live children).map (backend.gather leaf join parameter) ++
    group.collections.flatMap fun entry =>
      entry.criteria.map (leaf · (backend.elementParameter entry.collection))

theorem gatherEach_eq (parameter : Parameter) (nodes : List Node) :
    backend.gatherEach leaf join parameter nodes =
      (Node.live nodes).map (backend.gather leaf join parameter) := by
  induction nodes with
  | nil => rfl
  | cons node rest ih =>
    cases vacuous : node.isVacuous <;> simp [gatherEach, Node.live, vacuous, ih]

theorem gather_mk (parameter : Parameter) (group : Group) (children : List Node) :
    backend.gather leaf join parameter (.mk group children) =
      join group (backend.gathered leaf join parameter group children) := by
  rw [gather, gatherEach_eq]
  rfl

/-- A group has members exactly when it is not vacuous. -/
theorem gathered_eq_nil {parameter : Parameter} {group : Group} {children : List Node} :
    backend.gathered leaf join parameter group children = [] ↔
      (Node.mk group children).isVacuous := by
  have elements : (group.collections.flatMap fun entry =>
      entry.criteria.map (leaf · (backend.elementParameter entry.collection))) = [] ↔
      group.collections.flatMap (·.criteria) = [] := by
    simp [List.flatMap_eq_nil_iff]
  simp only [gathered, Node.isVacuous_mk, Node.live, Group.recorded, List.append_eq_nil_iff,
    List.map_eq_nil_iff, List.filter_eq_nil_iff, Bool.and_eq_true, List.isEmpty_iff, elements,
    List.all_eq_true]
  simp [and_right_comm]

/-- A group has one member for each criterion and each child that is not vacuous. -/
theorem length_gathered (parameter : Parameter) (group : Group) (children : List Node) :
    (backend.gathered leaf join parameter group children).length =
      group.criteria.length + (Node.live children).length + group.elementCount := by
  simp [gathered, Group.elementCount, List.length_flatMap, Nat.add_assoc]

variable {backend leaf join} {leaf' : Criterion → Parameter → S} {join' : Group → List S → S}

/-- Members are related when comparisons and the children that count are. -/
theorem gathered_of_children {rel : R → S → Prop} {parameter : Parameter} {group : Group}
    {children : List Node}
    (leaves : ∀ ask ∈ backend.asks parameter (.mk group children),
      rel (leaf ask.1 ask.2) (leaf' ask.1 ask.2))
    (nested : ∀ child ∈ children, child.isVacuous = false →
      rel (backend.gather leaf join parameter child) (backend.gather leaf' join' parameter child)) :
    List.Forall₂ rel (backend.gathered leaf join parameter group children)
      (backend.gathered leaf' join' parameter group children) := by
  simp only [asks, asksOf_eq, List.mem_append, List.mem_map, List.mem_flatMap] at leaves
  refine List.rel_append (List.rel_append ?own ?nested) ?elements
  case own =>
    exact forall₂_map_map fun criterion member =>
      leaves _ (.inl (.inl ⟨criterion, member, rfl⟩))
  case nested =>
    refine forall₂_map_map ?_
    intro child member
    obtain ⟨present, fruitful⟩ := List.mem_filter.mp member
    exact nested child present (by simpa using fruitful)
  case elements =>
    refine forall₂_flatMap_flatMap ?_
    intro entry present
    exact forall₂_map_map fun criterion member =>
      leaves _ (.inr ⟨entry, present, criterion, member, rfl⟩)

theorem asks_of_child {parameter : Parameter} {group : Group} {children : List Node} {child : Node}
    (present : child ∈ children) : ∀ ask ∈ backend.asks parameter child,
      ask ∈ backend.asks parameter (.mk group children) := by
  intro ask asked
  simp only [asks, asksOf_eq, List.mem_append, List.mem_flatMap]
  exact .inl (.inr ⟨child, present, asked⟩)

/-- Meanings that are related on comparisons and on groups are related on a node. -/
theorem gather_related {rel : R → S → Prop} {parameter : Parameter} {node : Node} :
    node.isVacuous = false →
    (∀ ask ∈ backend.asks parameter node, rel (leaf ask.1 ask.2) (leaf' ask.1 ask.2)) →
    (∀ group ∈ node.groups, ∀ {left : List R} {right : List S}, left ≠ [] →
      List.Forall₂ rel left right → rel (join group left) (join' group right)) →
    rel (backend.gather leaf join parameter node)
      (backend.gather leaf' join' parameter node) := by
  induction node using Node.inductionOn with
  | mk group children ih =>
    intro fruitful leaves joins
    have populated : backend.gathered leaf join parameter group children ≠ [] := by
      rw [ne_eq, gathered_eq_nil, fruitful]
      simp
    rw [gather_mk, gather_mk]
    refine joins group List.mem_cons_self populated (gathered_of_children leaves ?_)
    intro child present childFruitful
    refine ih child present childFruitful
      (fun ask asked => leaves ask (asks_of_child present ask asked)) ?_
    intro below member
    refine joins below (List.mem_cons_of_mem _ ?_)
    rw [Node.groupsOf_eq]
    exact List.mem_flatMap.mpr ⟨child, present, member⟩

/-- Meanings that are related on comparisons, and on the groups below, are related on
    the members of a group. -/
theorem gathered_related {rel : R → S → Prop} {parameter : Parameter} {group : Group}
    {children : List Node}
    (leaves : ∀ ask ∈ backend.asks parameter (.mk group children),
      rel (leaf ask.1 ask.2) (leaf' ask.1 ask.2))
    (joins : ∀ inner ∈ Node.groupsOf children, ∀ {left : List R} {right : List S}, left ≠ [] →
      List.Forall₂ rel left right → rel (join inner left) (join' inner right)) :
    List.Forall₂ rel (backend.gathered leaf join parameter group children)
      (backend.gathered leaf' join' parameter group children) := by
  refine gathered_of_children leaves ?_
  intro child present fruitful
  refine gather_related fruitful
    (fun ask asked => leaves ask (asks_of_child present ask asked)) ?_
  intro below member
  refine joins below ?_
  rw [Node.groupsOf_eq]
  exact List.mem_flatMap.mpr ⟨child, present, member⟩

end Backend

end RecordFilter
