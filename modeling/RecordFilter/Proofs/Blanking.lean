import RecordFilter.Proofs.Compilation.Gathering

/-!
# Trees without the contents of strings

Blanking empties every string that a criterion compares with and keeps all else.  Two
trees that are equal when blanked have one shape and differ in the contents of strings
only.
-/

namespace RecordFilter

/-- A single value with its content removed when it is a text. -/
def Value.blank : Value → Value
  | .text _ => .text ""
  | value => value

/-- A criterion without the contents of the strings it compares with. -/
def Criterion.blank (criterion : Criterion) : Criterion :=
  { criterion with
    value := match criterion.value with
      | .list items => .list (items.map Value.blank)
      | value => value.blank }

def CollectionCriteria.blank (entry : CollectionCriteria) : CollectionCriteria :=
  { entry with criteria := entry.criteria.map Criterion.blank }

def Group.blank (group : Group) : Group :=
  { group with
    criteria := group.criteria.map Criterion.blank
    collections := group.collections.map CollectionCriteria.blank }

/-- A tree without the contents of strings. -/
def Tree.blank (tree : Tree) : Tree := ⟨tree.groups.map Group.blank⟩

theorem Group.recorded_blank (group : Group) :
    group.blank.recorded = group.recorded.map Criterion.blank := by
  simp [Group.recorded, Group.blank, List.flatMap_map, List.map_flatMap, CollectionCriteria.blank]

namespace Node

mutual

def blank : Node → Node
  | mk group children => mk group.blank (blankAll children)

def blankAll : List Node → List Node
  | [] => []
  | node :: rest => blank node :: blankAll rest

end

theorem blankAll_eq (nodes : List Node) : blankAll nodes = nodes.map blank := by
  induction nodes with
  | nil => rfl
  | cons node rest ih => rw [blankAll, ih, List.map_cons]

theorem isVacuous_blank (node : Node) : node.blank.isVacuous = node.isVacuous := by
  induction node using inductionOn with
  | mk group children ih =>
    have nested : (children.map blank).all isVacuous = children.all isVacuous := by
      rw [List.all_map, Bool.eq_iff_iff, List.all_eq_true, List.all_eq_true]
      constructor
      · intro vacuous node member
        rw [← ih node member]
        exact vacuous node member
      · intro vacuous node member
        rw [Function.comp_apply, ih node member]
        exact vacuous node member
    rw [blank, blankAll_eq, isVacuous_mk, isVacuous_mk, nested, Group.recorded_blank,
      List.isEmpty_map]

theorem live_blank (nodes : List Node) : live (nodes.map blank) = (live nodes).map blank := by
  rw [live, live, List.filter_map]
  refine congrArg _ (List.filter_congr ?_)
  intro node _
  rw [Function.comp_apply, isVacuous_blank]

end Node

namespace Tree

mutual

theorem Unfolds.blank {tree : Tree} :
    ∀ {id : Nat} {node : Node}, tree.Unfolds id node → tree.blank.Unfolds id node.blank
  | id, .mk group children, unfolds => by
    obtain ⟨found, below⟩ := unfolds
    refine ⟨?_, UnfoldsAll.blank below⟩
    rw [group?, Tree.blank, List.getElem?_map]
    exact congrArg (Option.map Group.blank) found

theorem UnfoldsAll.blank {tree : Tree} :
    ∀ {ids : List Nat} {nodes : List Node}, tree.UnfoldsAll ids nodes →
      tree.blank.UnfoldsAll ids (Node.blankAll nodes)
  | [], [], _ => trivial
  | _ :: _, _ :: _, unfolds => ⟨unfolds.1.blank, UnfoldsAll.blank unfolds.2⟩
  | [], _ :: _, unfolds => unfolds.elim
  | _ :: _, [], unfolds => unfolds.elim

end

/-- Trees that are equal when blanked unfold to nodes that are. -/
theorem blank_eq_of_unfolds {tree tree' : Tree} (alike : tree.blank = tree'.blank) {id : Nat}
    {node node' : Node} (unfolds : tree.Unfolds id node) (unfolds' : tree'.Unfolds id node') :
    node.blank = node'.blank := by
  have first := unfolds.blank
  rw [alike] at first
  exact first.unique unfolds'.blank

end Tree

namespace Backend

variable {Condition Parameter Result R : Type} (backend : Backend Condition Parameter Result)

/-- Gathering a blanked tree gathers the tree by its blanked criteria. -/
theorem gather_blank (leaf : Criterion → Parameter → R) (join : Group → List R → R)
    (parameter : Parameter) (node : Node) :
    backend.gather leaf join parameter node.blank =
      backend.gather (fun criterion => leaf criterion.blank) (fun group => join group.blank)
        parameter node := by
  induction node using Node.inductionOn with
  | mk group children ih =>
    have nested : (Node.live children).map
        (fun node => backend.gather leaf join parameter node.blank) =
        (Node.live children).map (backend.gather (fun criterion => leaf criterion.blank)
          (fun group => join group.blank) parameter) :=
      List.map_congr_left fun node member => ih node (List.mem_filter.mp member).1
    rw [Node.blank, Node.blankAll_eq, gather_mk, gather_mk, gathered, gathered, Node.live_blank]
    simp only [List.map_map, Function.comp_def, nested, Group.blank, CollectionCriteria.blank,
      List.flatMap_map]

end Backend

end RecordFilter
