import Mathlib.Data.List.Perm.Subperm
import RecordFilter.Proofs.Compilation.Solid
import RecordFilter.Proofs.Compilation.Walk

/-!
# What the compiler asks for, and how often

The script of a node, viewed by one kind of call at a time: every group is looked up
once, every criterion is compared once and in order, every collection entry gives one
condition on elements, and a group is formatted at most once.
-/

namespace RecordFilter

/-! ## Recorded criteria -/

namespace Node

/-- The criteria of a node are those of its groups. -/
theorem recorded_perm (node : Node) : node.recorded.Perm (node.groups.flatMap Group.recorded) := by
  induction node using inductionOn with
  | mk group children ih =>
    have nested : (recordedOf children).Perm ((groupsOf children).flatMap Group.recorded) := by
      rw [recordedOf_eq, groupsOf_eq, List.flatMap_assoc]
      exact List.Perm.flatMap_left children ih
    simp only [recorded, groups, List.flatMap_cons, Group.recorded]
    rw [List.append_assoc, List.append_assoc]
    exact (List.perm_append_comm.trans (nested.append_left _)).append_left _

end Node

namespace Tree

theorem criterionCount_eq (tree : Tree) :
    tree.criterionCount = (tree.groups.flatMap Group.recorded).length := by
  unfold criterionCount
  induction tree.groups with
  | nil => rfl
  | cons group rest ih =>
    rw [List.foldr_cons, ih, List.flatMap_cons, List.length_append, Group.recorded,
      List.length_append, Group.elementCount]

/-- A well-formed tree unfolded from its root records what its groups hold. -/
theorem WellFormed.perm_recorded {tree : Tree} (wellFormed : tree.WellFormed) {root : Node}
    (unfolds : tree.Unfolds 0 root) :
    root.recorded.Perm (tree.groups.flatMap Group.recorded) :=
  root.recorded_perm.trans ((wellFormed.perm_groups unfolds).flatMap_right _)

end Tree

namespace Backend

open Recorded

variable {Condition Parameter Result : Type} (backend : Backend Condition Parameter Result)

/-! ## Views of a script -/

theorem filterMap_formatScript {γ : Type} {view : Call Condition Parameter → Option γ}
    (hidden : ∀ scope condition, view (.formatGroup scope condition) = none) {group : Group}
    {folded : Condition × Nat} :
    (if group.isEmpty then [] else backend.formatScript group folded).filterMap view = [] := by
  unfold formatScript
  split
  · rfl
  · split
    · rfl
    · simp [hidden]

section Views

variable {γ : Type} {view : Call Condition Parameter → Option γ}
  (silent : ∀ operator left right, view (.combine operator left right) = none)
include silent

theorem filterMap_pushScript (operator : GroupOperator) (folded member : Condition × Nat) :
    (backend.pushScript operator folded member).filterMap view = [] := by
  unfold pushScript
  split
  · rfl
  · simp [silent]

theorem filterMap_criteriaScript (operator : GroupOperator) (parameter : Parameter)
    (folded : Condition × Nat) (criteria : List Criterion) :
    (loopScript (backend.criterionScript operator parameter)
        (backend.pushCriterion operator parameter) folded criteria).filterMap view =
      criteria.filterMap fun criterion => view (.compare criterion parameter) := by
  have each : ∀ folded criterion,
      (backend.criterionScript operator parameter folded criterion).filterMap view =
        (view (.compare criterion parameter)).toList := by
    intro folded criterion
    rw [criterionScript, List.filterMap_cons, backend.filterMap_pushScript silent]
    cases view (.compare criterion parameter) <;> rfl
  rw [filterMap_loopScript each, List.filterMap_eq_flatMap_toList]

/-- What a view shows of the script of a group, part by part. -/
theorem filterMap_script (parameter : Parameter) {group : Group} {children : List Node}
    (lengths : group.children.length = children.length) :
    (backend.script parameter (.mk group children)).filterMap view =
      (view (.lookUp group.id)).toList ++
        (group.criteria.filterMap (fun criterion => view (.compare criterion parameter)) ++
          (children.flatMap (fun node => (backend.script parameter node).filterMap view) ++
            (group.collections.flatMap (fun entry =>
                let inner := backend.elementParameter entry.collection
                entry.criteria.filterMap (fun criterion => view (.compare criterion inner)) ++
                  (view (.anyElement parameter entry.collection
                    (backend.fold group.operator
                      (entry.criteria.map fun c => (backend.settled c inner, 1))).1
                    inner)).toList) ++
              (if group.isEmpty then []
                else backend.formatScript group
                  (backend.foldedAll parameter group children)).filterMap view))) := by
  have entries : ∀ folded entry,
      (backend.collectionScript group.operator parameter folded entry).filterMap view =
        entry.criteria.filterMap (fun criterion =>
            view (.compare criterion (backend.elementParameter entry.collection))) ++
          (view (.anyElement parameter entry.collection
            (backend.fold group.operator (entry.criteria.map fun c =>
              (backend.settled c (backend.elementParameter entry.collection), 1))).1
            (backend.elementParameter entry.collection))).toList := by
    intro folded entry
    rw [collectionScript, List.filterMap_append, backend.filterMap_criteriaScript silent,
      List.filterMap_cons, backend.filterMap_pushScript silent, ← fold_settled]
    cases view (.anyElement parameter entry.collection _ _) <;> rfl
  have nested : ∀ folded node,
      (backend.nodeScript group.operator parameter folded node).filterMap view =
        (backend.script parameter node).filterMap view := by
    intro folded node
    rw [nodeScript, List.filterMap_append, backend.filterMap_pushScript silent, List.append_nil]
  have first : ∀ rest : List (Call Condition Parameter),
      (Call.lookUp group.id :: rest).filterMap view =
        (view (.lookUp group.id)).toList ++ rest.filterMap view := by
    intro rest
    rw [List.filterMap_cons]
    cases view (.lookUp group.id) <;> rfl
  rw [script, first]
  refine congrArg _ ?_
  by_cases empty : group.isEmpty = true
  · obtain ⟨noCriteria, noCollections, childless⟩ := Node.nothing_of_isEmpty lengths empty
    simp [empty, noCriteria, noCollections, childless]
  · rw [if_neg empty, if_neg empty, scriptAll_eq]
    simp only [List.filterMap_append, backend.filterMap_criteriaScript silent,
      filterMap_loopScript nested, filterMap_loopScript entries]

end Views

/-- Comparisons are asked for once each and in order. -/
theorem compare?_script (parameter : Parameter) {node : Node} :
    node.Proper → (backend.script parameter node).filterMap Call.compare? =
      backend.asks parameter node := by
  induction node using Node.inductionOn with
  | mk group children ih =>
    intro proper
    have nested : children.flatMap (fun node =>
        (backend.script parameter node).filterMap Call.compare?) =
        children.flatMap (backend.asks parameter) :=
      List.flatMap_congr fun node member => ih node member (proper.of_mem member)
    rw [backend.filterMap_script (fun _ _ _ => rfl) parameter proper.2.1, nested,
      backend.filterMap_formatScript fun _ _ => rfl, asks, asksOf_eq]
    simp [Call.compare?, List.filterMap_eq_map']

/-- Every group is looked up once. -/
theorem lookUp?_script (parameter : Parameter) {node : Node} :
    node.Proper → (backend.script parameter node).filterMap Call.lookUp? =
      node.groups.map Group.id := by
  induction node using Node.inductionOn with
  | mk group children ih =>
    intro proper
    have nested : children.flatMap (fun node =>
        (backend.script parameter node).filterMap Call.lookUp?) =
        children.flatMap fun node => node.groups.map Group.id :=
      List.flatMap_congr fun node member => ih node member (proper.of_mem member)
    rw [backend.filterMap_script (fun _ _ _ => rfl) parameter proper.2.1, nested,
      backend.filterMap_formatScript fun _ _ => rfl, Node.groups, Node.groupsOf_eq]
    simp [Call.lookUp?, List.map_flatMap]

/-- The conditions on elements that a group asks for, one for each entry. -/
def elementCalls (parameter : Parameter) (group : Group) :
    List (Parameter × Collection × Condition × Parameter) :=
  group.collections.map fun entry =>
    let inner := backend.elementParameter entry.collection
    (parameter, entry.collection,
      (backend.fold group.operator (entry.criteria.map fun c => (backend.settled c inner, 1))).1,
      inner)

/-- Every collection entry gives one condition on elements. -/
theorem anyElement?_script (parameter : Parameter) {node : Node} :
    node.Proper → ((backend.script parameter node).filterMap Call.anyElement?).Perm
      (node.groups.flatMap (backend.elementCalls parameter)) := by
  induction node using Node.inductionOn with
  | mk group children ih =>
    intro proper
    have nested : (children.flatMap fun node =>
        (backend.script parameter node).filterMap Call.anyElement?).Perm
        ((Node.groupsOf children).flatMap (backend.elementCalls parameter)) := by
      rw [Node.groupsOf_eq, List.flatMap_assoc]
      exact List.Perm.flatMap_left children fun node member =>
        ih node member (proper.of_mem member)
    have entries : group.collections.flatMap (fun entry =>
        let inner := backend.elementParameter entry.collection
        entry.criteria.filterMap (fun criterion =>
            Call.anyElement? (.compare criterion inner : Call Condition Parameter)) ++
          (Call.anyElement? (.anyElement parameter entry.collection
            (backend.fold group.operator
              (entry.criteria.map fun c => (backend.settled c inner, 1))).1 inner)).toList) =
        backend.elementCalls parameter group := by
      rw [elementCalls, List.map_eq_flatMap]
      simp [Call.anyElement?]
    rw [backend.filterMap_script (fun _ _ _ => rfl) parameter proper.2.1,
      backend.filterMap_formatScript fun _ _ => rfl, entries, Node.groups, List.flatMap_cons]
    simp only [Call.anyElement?, Option.toList_none, List.nil_append, List.filterMap_none,
      List.append_nil]
    exact List.perm_append_comm.trans (nested.append_left _)

/-- A group is formatted at most once. -/
theorem formatGroup?_script (parameter : Parameter) {node : Node} :
    node.Proper → (((backend.script parameter node).filterMap Call.formatGroup?).map
      (·.1.group.id)).Subperm (node.groups.map Group.id) := by
  induction node using Node.inductionOn with
  | mk group children ih =>
    intro proper
    have nested : ∀ nodes : List Node, (∀ node ∈ nodes, node ∈ children) →
        ((nodes.flatMap fun node =>
          (backend.script parameter node).filterMap Call.formatGroup?).map (·.1.group.id)).Subperm
          ((Node.groupsOf nodes).map Group.id) := by
      intro nodes within
      induction nodes with
      | nil => exact .refl _
      | cons node rest later =>
        have present := within node List.mem_cons_self
        simp only [List.flatMap_cons, List.map_append, Node.groupsOf]
        exact (ih node present (proper.of_mem present)).append
          (later fun other member => within other (List.mem_cons_of_mem _ member))
    have own : (((if group.isEmpty then [] else backend.formatScript group
        (backend.foldedAll parameter group children)).filterMap Call.formatGroup?).map
          (·.1.group.id)).Subperm [group.id] := by
      unfold formatScript
      split
      · exact List.nil_subperm
      · split
        · exact List.nil_subperm
        · exact .refl _
    rw [backend.filterMap_script (fun _ _ _ => rfl) parameter proper.2.1]
    have elements : (group.collections.flatMap fun entry =>
        ([] : List (Scope × Condition))) = [] := List.flatMap_eq_nil_iff.mpr fun _ _ => rfl
    simp only [Call.formatGroup?, Option.toList_none, List.nil_append, List.filterMap_none,
      List.append_nil, elements, List.map_append, Node.groups, List.map_cons]
    exact ((nested children fun _ member => member).append own).trans
      List.perm_append_comm.subperm

/-! ## The walk of a well-formed tree -/

section WellFormed

variable {backend} {tree : Tree} {root : Node}

theorem walk_root (backend : Backend Condition Parameter Result) (wellFormed : tree.WellFormed)
    (unfolds : tree.Unfolds 0 root) (parameter : Parameter) (spare : Nat) :
    backend.walk tree parameter (tree.groups.length + spare) 0 =
      play backend.callFails (backend.script parameter root) (backend.assemble parameter root) :=
  backend.walk_eq_play wellFormed parameter unfolds (Nat.le_add_right _ _)

theorem findSome?_callFails (backend : Backend Condition Parameter Result)
    (calls : List (Call Condition Parameter)) :
    calls.findSome? backend.callFails =
      ((calls.filterMap Call.compare?).findSome? backend.failure?).map .failed := by
  induction calls with
  | nil => rfl
  | cons call rest ih =>
    cases call with
    | compare criterion parameter =>
      rw [List.findSome?_cons, ih]
      simp only [callFails, Call.compare?, List.filterMap_cons, List.findSome?_cons]
      cases backend.failure? (criterion, parameter) <;> rfl
    | _ => exact ih

/-- The walk has the result of the compiler. -/
theorem result_walk (backend : Backend Condition Parameter Result) (wellFormed : tree.WellFormed)
    (unfolds : tree.Unfolds 0 root) (parameter : Parameter) (spare : Nat) :
    (backend.walk tree parameter (tree.groups.length + spare) 0).result =
      (backend.compileRoot tree parameter).mapError .failed := by
  have proper := unfolds.proper wellFormed
  rw [backend.walk_root wellFormed unfolds, play, findSome?_callFails,
    backend.compare?_script parameter proper]
  simp only [compileRoot, wellFormed.node?_eq unfolds, backend.compileNode_eq parameter proper]
  cases (backend.asks parameter root).findSome? backend.failure? <;> rfl

/-- The walk from a group asks for comparisons in order, up to the first that fails. -/
theorem compare?_walk (backend : Backend Condition Parameter Result) (wellFormed : tree.WellFormed)
    {id : Nat} {node : Node} (unfolds : tree.Unfolds id node) (parameter : Parameter)
    (spare : Nat) :
    (backend.walk tree parameter (tree.groups.length + spare) id).calls.filterMap Call.compare? =
      upToFailure backend.failure? (backend.asks parameter node) := by
  have enough : tree.groups.length ≤ tree.groups.length + spare + id := by omega
  rw [backend.walk_eq_play wellFormed parameter unfolds enough, play,
    ← backend.compare?_script parameter (unfolds.proper wellFormed)]
  refine filterMap_upToFailure ?_ ?_ _
  · intro call hidden
    cases call with
    | compare criterion parameter => cases hidden
    | _ => rfl
  · intro call seen shown
    cases call with
    | compare criterion parameter =>
      cases shown
      simp [callFails]
    | _ => cases shown

/-- When no comparison fails the walk makes every call of its script. -/
theorem calls_walk (backend : Backend Condition Parameter Result) (wellFormed : tree.WellFormed)
    (unfolds : tree.Unfolds 0 root) {parameter : Parameter}
    (answered : backend.Answers parameter root) (spare : Nat) :
    (backend.walk tree parameter (tree.groups.length + spare) 0).calls =
      backend.script parameter root := by
  rw [backend.walk_root wellFormed unfolds]
  refine upToFailure_of_none ?_
  rw [findSome?_callFails, backend.compare?_script parameter (unfolds.proper wellFormed),
    List.findSome?_eq_none_iff.mpr answered]
  rfl

end WellFormed

/-! ## Collecting -/

/-- A backend with the same parameters whose condition is the list of comparisons that
    it was asked for. -/
def collecting : Backend (List (Criterion × Parameter)) Parameter (List (Criterion × Parameter))
    where
  identity := []
  isIdentity := List.isEmpty
  both := (· ++ ·)
  either := (· ++ ·)
  comparison criterion parameter := .ok [(criterion, parameter)]
  parameter := backend.parameter
  elementParameter := backend.elementParameter
  anyElement _ _ condition _ := condition
  formatGroup _ condition := condition
  finish condition _ := condition
  announce _ _ := []

/-- The collecting backend folds members to one list. -/
theorem fold_collecting (operator : GroupOperator)
    (members : List (List (Criterion × Parameter) × Nat)) :
    (backend.collecting.fold operator members).1 = members.flatMap Prod.fst := by
  have pushed : ∀ folded member : List (Criterion × Parameter) × Nat,
      (backend.collecting.push operator folded member).1 = folded.1 ++ member.1 := by
    intro folded member
    simp only [push, collecting, combine]
    by_cases empty : member.1 = []
    · simp [empty]
    · by_cases first : folded.1 = []
      · simp [empty, first]
      · cases operator <;> simp [empty, first]
  have folds : ∀ start, (members.foldl (backend.collecting.push operator) start).1 =
      start.1 ++ members.flatMap Prod.fst := by
    induction members with
    | nil => simp
    | cons member rest ih =>
      intro start
      rw [List.foldl_cons, ih, pushed, List.flatMap_cons, List.append_assoc]
  rw [fold, folds]
  rfl

theorem assemble_collecting (parameter : Parameter) {node : Node} :
    node.Proper →
      backend.collecting.assemble parameter node = backend.asks parameter node := by
  induction node using Node.inductionOn with
  | mk group children ih =>
    intro proper
    have formatted : ∀ folded,
        backend.collecting.format group folded = folded.1 := by
      intro folded
      unfold format
      split <;> rfl
    have entries : ∀ entry,
        (backend.collecting.assembleCollection group.operator parameter entry).1 =
          entry.criteria.map (·, backend.elementParameter entry.collection) := by
      intro entry
      change (backend.collecting.fold _ _).1 = _
      rw [fold_collecting, List.flatMap_map, List.map_eq_flatMap]
      rfl
    have nested : children.flatMap (backend.collecting.assemble parameter) =
        children.flatMap (backend.asks parameter) :=
      List.flatMap_congr fun node member => ih node member (proper.of_mem member)
    rw [assemble, asks, asksOf_eq]
    by_cases empty : group.isEmpty = true
    · obtain ⟨noCriteria, noCollections, childless⟩ :=
        Node.nothing_of_isEmpty proper.2.1 empty
      rw [if_pos empty, noCriteria, noCollections, childless]
      rfl
    · have own : (group.criteria.flatMap fun c => backend.collecting.settled c parameter) =
          group.criteria.map (·, parameter) := List.map_eq_flatMap.symm
      rw [if_neg empty, formatted, fold_collecting, assembleAll_eq]
      simp only [List.flatMap_append, List.flatMap_map, entries, nested, own]

/-- The collecting backend compiles a built tree to the comparisons that another backend
    with these parameters is asked for. -/
theorem compile_collecting {tree : Tree} (wellFormed : tree.WellFormed) {root : Node}
    (unfolds : tree.Unfolds 0 root) (source name : String) :
    backend.collecting.compile tree source name =
      .ok (backend.asks (backend.parameter source name) root) := by
  have proper := unfolds.proper wellFormed
  have answered : (backend.collecting.asks (backend.collecting.parameter source name)
      root).findSome? backend.collecting.failure? = none :=
    List.findSome?_eq_none_iff.mpr fun _ _ => rfl
  rw [backend.collecting.compile_eq (wellFormed.node?_eq unfolds) proper, answered, outcome_none]
  exact congrArg _ (backend.assemble_collecting _ proper)

/-- Compiling a built tree asks for the comparison of each recorded criterion once and in
    order, up to the first that fails, and for one condition on elements for each entry
    of a collection.  It fails exactly when some comparison does, with the error of the
    first. -/
theorem compile_asks_in_order (setting : Setting) (steps : List Step) (source name : String) :
    let tree := setting.built steps
    let parameter := backend.parameter source name
    ∃ root, tree.Unfolds 0 root ∧
      ((backend.asks parameter root).map Prod.fst).Perm (tree.groups.flatMap Group.recorded) ∧
      (∀ spare,
        let run := backend.walk tree parameter (tree.groups.length + spare) 0
        run.result = (backend.compileRoot tree parameter).mapError .failed ∧
        run.calls.filterMap Call.compare? =
          upToFailure backend.failure? (backend.asks parameter root) ∧
        ((∃ result, backend.compile tree source name = .ok result) →
          (run.calls.filterMap Call.anyElement?).Perm
            (tree.groups.flatMap (backend.elementCalls parameter)))) ∧
      (∀ e, backend.compile tree source name = .error e ↔
        (backend.asks parameter root).findSome? backend.failure? = some e) ∧
      ((∃ e, backend.compile tree source name = .error e) ↔
        ∃ ask ∈ backend.asks parameter root, ∃ e, backend.comparison ask.1 ask.2 = .error e) ∧
      backend.collecting.compile tree source name = .ok (backend.asks parameter root) ∧
      (backend.asks parameter root).length = tree.criterionCount := by
  intro tree parameter
  obtain ⟨root, node, unfolds, proper⟩ := Tree.exists_root setting steps
  have wellFormed := setting.wellFormed_built steps
  have criteria : ((backend.asks parameter root).map Prod.fst).Perm
      (tree.groups.flatMap Group.recorded) := by
    rw [backend.map_fst_asks]
    exact wellFormed.perm_recorded unfolds
  have failed : ∀ e, backend.compile tree source name = .error e ↔
      (backend.asks parameter root).findSome? backend.failure? = some e := by
    intro e
    rw [backend.compile_eq node proper, outcome_eq_error]
  refine ⟨root, unfolds, criteria, ?_, failed, ?_, backend.compile_collecting wellFormed unfolds
    source name, ?_⟩
  · intro spare run
    refine ⟨backend.result_walk wellFormed unfolds parameter spare,
      backend.compare?_walk wellFormed unfolds parameter spare, ?_⟩
    rintro ⟨result, compiled⟩
    have answered := (backend.compile_eq_ok node proper compiled).1
    rw [backend.calls_walk wellFormed unfolds answered]
    exact (backend.anyElement?_script parameter proper).trans
      ((wellFormed.perm_groups unfolds).flatMap_right _)
  · rw [exists_congr failed, ← Option.isSome_iff_exists, List.findSome?_isSome_iff]
    simp only [failure?, Option.isSome_iff_exists, failureOf_eq_some]
  · rw [tree.criterionCount_eq, ← criteria.length_eq, List.length_map]

end Backend

end RecordFilter
