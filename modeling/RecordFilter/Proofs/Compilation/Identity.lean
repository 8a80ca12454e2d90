import RecordFilter.Demo
import RecordFilter.Outline
import RecordFilter.Proofs.Compilation.Calls

/-!
# The identity and the backend

The compiler never hands the identity to a backend to be combined or formatted, so what
a backend does with it there is of no account (`SameOffIdentity.compile_eq`).  The terms
that a backend is told of when it formats a group are those of the members that did not
drop out (`Backend.termsOf`).
-/

namespace RecordFilter

namespace Backend

open Recorded

variable {Condition Parameter Result : Type}

/-! ## Backends that differ on the identity only -/

/-- Two backends differ at most in what they make of the identity where conditions are
    combined or formatted. -/
structure SameOffIdentity (left right : Backend Condition Parameter Result) : Prop where
  identity : right.identity = left.identity
  isIdentity : right.isIdentity = left.isIdentity
  comparison : right.comparison = left.comparison
  parameter : right.parameter = left.parameter
  elementParameter : right.elementParameter = left.elementParameter
  anyElement : right.anyElement = left.anyElement
  finish : right.finish = left.finish
  combine : ∀ operator first second, left.isIdentity first = false →
    left.isIdentity second = false →
      right.combine operator first second = left.combine operator first second
  formatGroup : ∀ scope condition, left.isIdentity condition = false →
    right.formatGroup scope condition = left.formatGroup scope condition

namespace SameOffIdentity

variable {left right : Backend Condition Parameter Result}

theorem push_eq (same : left.SameOffIdentity right) (operator : GroupOperator)
    (folded member : Condition × Nat) :
    right.push operator folded member = left.push operator folded member := by
  unfold push
  rw [same.isIdentity]
  cases drops : left.isIdentity member.1 with
  | true => rfl
  | false =>
    cases first : left.isIdentity folded.1 with
    | true => rfl
    | false => simp [same.combine operator _ _ first drops]

theorem fold_eq (same : left.SameOffIdentity right) (operator : GroupOperator)
    (members : List (Condition × Nat)) :
    right.fold operator members = left.fold operator members := by
  have pushes : right.push operator = left.push operator :=
    funext fun folded => funext fun member => same.push_eq operator folded member
  rw [fold, fold, pushes, same.identity]

theorem format_eq (same : left.SameOffIdentity right) (group : Group)
    (folded : Condition × Nat) : right.format group folded = left.format group folded := by
  unfold format
  rw [same.isIdentity]
  cases drops : left.isIdentity folded.1 with
  | true => rfl
  | false => simp [same.formatGroup _ _ drops]

theorem compileCollection_eq (same : left.SameOffIdentity right) (operator : GroupOperator)
    (parameter : Parameter) (entry : CollectionCriteria) :
    right.compileCollection operator parameter entry =
      left.compileCollection operator parameter entry := by
  simp only [compileCollection, comparisons, same.comparison, same.elementParameter,
    same.anyElement, same.fold_eq]

mutual

theorem compileNode_eq (same : left.SameOffIdentity right) (parameter : Parameter) :
    ∀ node : Node, right.compileNode parameter node = left.compileNode parameter node
  | .mk group children => by
    have collections : right.compileCollection group.operator parameter =
        left.compileCollection group.operator parameter :=
      funext fun entry => same.compileCollection_eq group.operator parameter entry
    simp only [compileNode, compileNodes_eq same parameter children, collections, comparisons,
      same.comparison, same.identity, same.fold_eq, same.format_eq]

theorem compileNodes_eq (same : left.SameOffIdentity right) (parameter : Parameter) :
    ∀ nodes : List Node, right.compileNodes parameter nodes = left.compileNodes parameter nodes
  | [] => rfl
  | node :: rest => by
    simp only [compileNodes, compileNode_eq same parameter node,
      compileNodes_eq same parameter rest]

end

/-- What a backend makes of the identity where conditions are combined or formatted
    changes no result. -/
theorem compile_eq (same : left.SameOffIdentity right) (tree : Tree) (source name : String) :
    right.compile tree source name = left.compile tree source name := by
  simp only [compile, compileRoot, same.parameter, same.finish, same.compileNode_eq]

end SameOffIdentity

variable (backend : Backend Condition Parameter Result)

/-! ## Calls without the identity -/

/-- A property of all calls that folding members in can make. -/
structure HoldsInside (holds : Call Condition Parameter → Prop) : Prop where
  compare : ∀ criterion parameter, holds (.compare criterion parameter)
  combine : ∀ operator left right, backend.isIdentity left = false →
    backend.isIdentity right = false → holds (.combine operator left right)
  anyElement : ∀ outer collection condition inner,
    holds (.anyElement outer collection condition inner)

namespace HoldsInside

variable {backend} {holds : Call Condition Parameter → Prop} (inside : backend.HoldsInside holds)
include inside

theorem pushScript (operator : GroupOperator) (folded member : Condition × Nat) :
    ∀ call ∈ backend.pushScript operator folded member, holds call := by
  intro call made
  unfold Backend.pushScript at made
  split at made
  · cases made
  · rename_i neither
    rw [List.mem_singleton] at made
    subst made
    simp only [Bool.or_eq_true, not_or, Bool.not_eq_true] at neither
    exact inside.combine operator _ _ neither.2 neither.1

theorem criterionScript (operator : GroupOperator) (parameter : Parameter)
    (folded : Condition × Nat) (criterion : Criterion) :
    ∀ call ∈ backend.criterionScript operator parameter folded criterion, holds call := by
  intro call made
  rcases List.mem_cons.mp made with rfl | pushed
  · exact inside.compare criterion parameter
  · exact inside.pushScript operator folded _ call pushed

theorem collectionScript (operator : GroupOperator) (parameter : Parameter)
    (folded : Condition × Nat) (entry : CollectionCriteria) :
    ∀ call ∈ backend.collectionScript operator parameter folded entry, holds call := by
  intro call made
  simp only [Backend.collectionScript, List.mem_append, List.mem_cons] at made
  rcases made with compared | rfl | pushed
  · exact forall_mem_loopScript (fun criterion _ folded =>
      inside.criterionScript operator _ folded criterion) _ call compared
  · exact inside.anyElement _ _ _ _
  · exact inside.pushScript operator folded _ call pushed

end HoldsInside

/-- A call does not ask to combine or to format the identity. -/
def Apart : Call Condition Parameter → Prop
  | .combine _ left right => backend.isIdentity left = false ∧ backend.isIdentity right = false
  | .formatGroup _ condition => backend.isIdentity condition = false
  | _ => True

theorem apart_inside : backend.HoldsInside backend.Apart :=
  ⟨fun _ _ => trivial, fun _ _ _ left right => ⟨left, right⟩, fun _ _ _ _ => trivial⟩

theorem apart_formatScript (group : Group) (folded : Condition × Nat) :
    ∀ call ∈ backend.formatScript group folded, backend.Apart call := by
  intro call made
  unfold formatScript at made
  split at made
  · cases made
  · rename_i present
    rw [List.mem_singleton] at made
    subst made
    exact Bool.eq_false_iff.mpr present

/-- No call of a script asks to combine or to format the identity. -/
theorem apart_script (parameter : Parameter) (node : Node) :
    ∀ call ∈ backend.script parameter node, backend.Apart call := by
  induction node using Node.inductionOn with
  | mk group children ih =>
    intro call made
    rw [script, List.mem_cons] at made
    rcases made with rfl | made
    · trivial
    · split at made
      · cases made
      · simp only [List.mem_append, scriptAll_eq] at made
        rcases made with own | nested | related | formatted
        · exact forall_mem_loopScript (fun criterion _ folded =>
            backend.apart_inside.criterionScript _ _ folded criterion) _ call own
        · refine forall_mem_loopScript (fun node member folded call made => ?_) _ call nested
          rcases List.mem_append.mp made with below | pushed
          · exact ih node member call below
          · exact backend.apart_inside.pushScript _ folded _ call pushed
        · exact forall_mem_loopScript (fun entry _ folded =>
            backend.apart_inside.collectionScript _ _ folded entry) _ call related
        · exact backend.apart_formatScript group _ call formatted

/-! ## Terms -/

/-- Whether a condition was made that does not drop out. -/
def yields : Except FilterError Condition → Bool
  | .ok condition => !backend.isIdentity condition
  | .error _ => false

/-- The terms of a group: its own criteria and its children that do not drop out count
    once, and a collection that does not counts for its criteria that do not. -/
def termsOf (parameter : Parameter) : Node → Nat
  | .mk group children =>
    group.criteria.countP (fun c => backend.yields (backend.comparison c parameter)) +
      children.countP (fun node => backend.yields (backend.compileNode parameter node)) +
      (group.collections.map fun entry =>
        let inner := backend.elementParameter entry.collection
        if backend.yields ((backend.compileCollection group.operator parameter entry).map Prod.fst)
        then max 1 (entry.criteria.countP fun c => backend.yields (backend.comparison c inner))
        else 0).sum

/-- A fold adds up the weights of the members that do not drop out. -/
theorem snd_fold (operator : GroupOperator) (members : List (Condition × Nat)) :
    (backend.fold operator members).2 =
      (members.map fun member =>
        if backend.isIdentity member.1 then 0 else max 1 member.2).sum := by
  have folds : ∀ start, (members.foldl (backend.push operator) start).2 = start.2 +
      (members.map fun member =>
        if backend.isIdentity member.1 then 0 else max 1 member.2).sum := by
    induction members with
    | nil => simp
    | cons member rest ih =>
      intro start
      rw [List.foldl_cons, ih, List.map_cons, List.sum_cons, ← Nat.add_assoc]
      congr 1
      unfold push
      split <;> rfl
  rw [fold, folds, Nat.zero_add]

/-- Members of weight one are counted. -/
theorem sum_weights_one {ι : Type} (condition : ι → Condition) (items : List ι) :
    (items.map fun item => if backend.isIdentity (condition item) then 0 else max 1 1).sum =
      items.countP fun item => !backend.isIdentity (condition item) := by
  induction items with
  | nil => rfl
  | cons item rest ih =>
    rw [List.map_cons, List.sum_cons, ih, List.countP_cons, Nat.add_comm]
    cases backend.isIdentity (condition item) <;> rfl

variable {backend}

theorem yields_comparison {criterion : Criterion} {parameter : Parameter}
    (answered : backend.failure? (criterion, parameter) = none) :
    backend.yields (backend.comparison criterion parameter) =
      !backend.isIdentity (backend.settled criterion parameter) := by
  rw [backend.failure?_eq_none.mp answered]
  rfl

theorem yields_compileNode {parameter : Parameter} {node : Node} (proper : node.Proper)
    (answered : backend.Answers parameter node) :
    backend.yields (backend.compileNode parameter node) =
      !backend.isIdentity (backend.assemble parameter node) := by
  rw [backend.compileNode_eq parameter proper, List.findSome?_eq_none_iff.mpr answered]
  rfl

theorem yields_compileCollection {operator : GroupOperator} {parameter : Parameter}
    {entry : CollectionCriteria} (answered : ∀ criterion ∈ entry.criteria,
      backend.failure? (criterion, backend.elementParameter entry.collection) = none) :
    backend.yields ((backend.compileCollection operator parameter entry).map Prod.fst) =
      !backend.isIdentity (backend.assembleCollection operator parameter entry).1 := by
  have none : (entry.criteria.map (·, backend.elementParameter entry.collection)).findSome?
      backend.failure? = none := by
    rw [List.findSome?_map, List.findSome?_eq_none_iff]
    exact answered
  rw [backend.compileCollection_eq, none]
  rfl

/-- A group none of whose comparisons fails is folded to its terms. -/
theorem snd_foldedAll {parameter : Parameter} {group : Group} {children : List Node}
    (proper : (Node.mk group children).Proper)
    (answered : backend.Answers parameter (.mk group children)) :
    (backend.foldedAll parameter group children).2 =
      backend.termsOf parameter (.mk group children) := by
  obtain ⟨own, nested, related⟩ := Solid.answers_mk.mp answered
  have ownTerms : group.criteria.countP
      (fun c => !backend.isIdentity (backend.settled c parameter)) =
      group.criteria.countP fun c => backend.yields (backend.comparison c parameter) := by
    refine List.countP_congr fun criterion member => ?_
    rw [yields_comparison (own criterion member)]
  have nestedTerms : children.countP
      (fun node => !backend.isIdentity (backend.assemble parameter node)) =
      children.countP fun node => backend.yields (backend.compileNode parameter node) := by
    refine List.countP_congr fun node member => ?_
    rw [yields_compileNode (proper.of_mem member) (nested node member)]
  rw [← fold_eq_foldedAll, snd_fold, assembleAll_eq]
  simp only [List.map_append, List.sum_append, List.map_map, Function.comp_def]
  rw [backend.sum_weights_one fun c => backend.settled c parameter,
    backend.sum_weights_one (backend.assemble parameter), ownTerms, nestedTerms]
  refine congrArg (_ + ·) (congrArg List.sum (List.map_congr_left fun entry member => ?_))
  have elementTerms : (backend.assembleCollection group.operator parameter entry).2 =
      entry.criteria.countP fun c =>
        backend.yields (backend.comparison c (backend.elementParameter entry.collection)) := by
    rw [assembleCollection, snd_fold, List.map_map]
    refine (backend.sum_weights_one _ _).trans (List.countP_congr fun criterion present => ?_)
    rw [yields_comparison (related entry member criterion present)]
  rw [yields_compileCollection (related entry member), elementTerms]
  cases backend.isIdentity (backend.assembleCollection group.operator parameter entry).1 <;> rfl

/-- Comparisons, combinations and conditions on elements never give the identity. -/
structure Definite (backend : Backend Condition Parameter Result) : Prop where
  identity : backend.isIdentity backend.identity = true
  comparison : ∀ {criterion parameter condition},
    backend.comparison criterion parameter = .ok condition → backend.isIdentity condition = false
  combine : ∀ {operator left right}, backend.isIdentity left = false →
    backend.isIdentity right = false →
      backend.isIdentity (backend.combine operator left right) = false
  anyElement : ∀ {outer collection condition inner}, backend.isIdentity condition = false →
    backend.isIdentity (backend.anyElement outer collection condition inner) = false

theorem Solid.definite (solid : backend.Solid) : backend.Definite :=
  ⟨solid.identity, solid.comparison, solid.combine, solid.anyElement⟩

/-- Without its formats the backend is solid. -/
theorem Definite.solid (definite : backend.Definite) :
    ({ backend with formatGroup := fun _ condition => condition } :
      Backend Condition Parameter Result).Solid :=
  ⟨definite.identity, definite.comparison, definite.combine, definite.anyElement, id⟩

/-- Where nothing but children can drop out, all criteria are terms. -/
theorem Definite.termsOf_eq (definite : backend.Definite) {parameter : Parameter} {group : Group}
    {children : List Node} (sound : group.Sound)
    (answered : backend.Answers parameter (.mk group children)) :
    backend.termsOf parameter (.mk group children) = group.criteria.length +
      children.countP (fun node => backend.yields (backend.compileNode parameter node)) +
      group.elementCount := by
  obtain ⟨own, -, related⟩ := Solid.answers_mk.mp answered
  have solid := definite.solid
  have all : ∀ {criteria : List Criterion} {parameter : Parameter},
      (∀ criterion ∈ criteria, backend.failure? (criterion, parameter) = none) →
        criteria.countP (fun c => backend.yields (backend.comparison c parameter)) =
          criteria.length := by
    intro criteria parameter answered
    refine List.countP_eq_length.mpr fun criterion member => ?_
    rw [yields_comparison (answered criterion member)]
    exact congrArg (!·) (solid.isIdentity_settled (answered criterion member))
  have entries : group.collections.map (fun entry =>
      if backend.yields ((backend.compileCollection group.operator parameter entry).map Prod.fst)
      then max 1 (entry.criteria.countP fun c =>
        backend.yields (backend.comparison c (backend.elementParameter entry.collection)))
      else 0) = group.collections.map fun entry => entry.criteria.length := by
    refine List.map_congr_left fun entry member => ?_
    have inhabited := sound.inhabited entry member
    have positive := List.length_pos_iff.mpr inhabited
    have present : backend.isIdentity
        (backend.assembleCollection group.operator parameter entry).1 = false := by
      have folded : backend.assembleCollection group.operator parameter entry =
          (backend.elementCondition group.operator parameter entry, entry.criteria.length) :=
        solid.assembleCollection_eq (related entry member)
      rw [folded]
      exact solid.isIdentity_elementCondition inhabited (related entry member)
    rw [yields_compileCollection (related entry member), present, all (related entry member)]
    simp only [Bool.not_false, if_true]
    omega
  rw [termsOf, all own, entries, Group.elementCount, List.length_flatMap]

/-- Where formats do not drop out either, the children that count are those that hold
    criteria. -/
theorem Solid.termsOf_eq (solid : backend.Solid) {parameter : Parameter} {group : Group}
    {children : List Node} (proper : (Node.mk group children).Proper)
    (answered : backend.Answers parameter (.mk group children)) :
    backend.termsOf parameter (.mk group children) =
      group.criteria.length + (Node.live children).length + group.elementCount := by
  have nested := (answers_mk.mp answered).2.1
  rw [solid.definite.termsOf_eq proper.1 answered, Node.live, List.countP_eq_length_filter]
  refine congrArg (fun nodes : List Node => _ + nodes.length + _) ?_
  refine List.filter_congr fun node member => ?_
  have nodeProper := proper.of_mem member
  rw [yields_compileNode nodeProper (nested node member),
    solid.isIdentity_assemble nodeProper (nested node member)]

/-! ## What is formatted -/

/-- Folding members in formats no group. -/
theorem formatGroup?_inside (backend : Backend Condition Parameter Result) :
    backend.HoldsInside fun call => call.formatGroup? = none :=
  ⟨fun _ _ => rfl, fun _ _ _ _ _ => rfl, fun _ _ _ _ => rfl⟩

/-- A node whose script has no call that fails has its comparisons answered. -/
theorem answers_of_script {parameter : Parameter} {node : Node} (proper : node.Proper)
    (done : (backend.script parameter node).findSome? backend.callFails = none) :
    backend.Answers parameter node := by
  rw [findSome?_callFails, backend.compare?_script parameter proper, Option.map_eq_none_iff] at done
  exact List.findSome?_eq_none_iff.mp done

/-- A group that is formatted before anything fails stands in the tree, none of its
    comparisons fails, and its terms are those that its members are folded to. -/
theorem formatted_script {tree : Tree} (wellFormed : tree.WellFormed) {parameter : Parameter}
    {scope : Scope} {condition : Condition} {id : Nat} {node : Node} :
    tree.Unfolds id node →
      .formatGroup scope condition ∈
        upToFailure backend.callFails (backend.script parameter node) →
      ∃ children, tree.Unfolds scope.group.id (.mk scope.group children) ∧
        backend.Answers parameter (.mk scope.group children) ∧
        scope.terms = (backend.foldedAll parameter scope.group children).2 := by
  induction node using Node.inductionOn generalizing id with
  | mk group children ih =>
    intro unfolds met
    have proper := unfolds.proper wellFormed
    have elsewhere : ∀ {calls : List (Call Condition Parameter)},
        (∀ call ∈ calls, call.formatGroup? = none) →
          .formatGroup scope condition ∉ upToFailure backend.callFails calls := by
      intro calls hidden met
      cases hidden _ ((isPrefix_upToFailure _ _).subset met)
    rw [script] at met
    by_cases empty : group.isEmpty = true
    · rw [if_pos empty] at met
      exact absurd met (elsewhere (by simp [Call.formatGroup?]))
    rw [if_neg empty, scriptAll_eq, ← List.singleton_append] at met
    -- the call is looked for in the parts of the script, those before it without failure
    rcases mem_upToFailure_append met with looked | ⟨lookedDone, met⟩
    · exact absurd looked (elsewhere (by simp [Call.formatGroup?]))
    rcases mem_upToFailure_append met with own | ⟨ownDone, met⟩
    · obtain ⟨criterion, -, folded, found⟩ := mem_upToFailure_loopScript own
      exact absurd found (elsewhere (backend.formatGroup?_inside.criterionScript _ _ _ _))
    rcases mem_upToFailure_append met with nested | ⟨nestedDone, met⟩
    · obtain ⟨child, member, folded, found⟩ := mem_upToFailure_loopScript nested
      obtain ⟨position, -, childUnfolds⟩ := unfolds.lists_of_mem child member
      rcases mem_upToFailure_append found with below | ⟨-, after⟩
      · exact ih child member childUnfolds below
      · exact absurd after (elsewhere (backend.formatGroup?_inside.pushScript _ _ _))
    rcases mem_upToFailure_append met with related | ⟨relatedDone, met⟩
    · obtain ⟨entry, -, folded, found⟩ := mem_upToFailure_loopScript related
      exact absurd found (elsewhere (backend.formatGroup?_inside.collectionScript _ _ _ _))
    have formatDone : (backend.formatScript group
        (backend.foldedAll parameter group children)).findSome? backend.callFails = none := by
      unfold formatScript
      split <;> rfl
    have done : (backend.script parameter (.mk group children)).findSome?
        backend.callFails = none := by
      rw [script, if_neg empty, scriptAll_eq, ← List.singleton_append]
      simp only [List.findSome?_append, lookedDone, ownDone, nestedDone, relatedDone, formatDone,
        Option.or_none]
    have formatted := (isPrefix_upToFailure _ _).subset met
    unfold formatScript at formatted
    split at formatted
    · cases formatted
    · rw [List.mem_singleton] at formatted
      cases formatted
      exact ⟨children, by rwa [wellFormed.id_eq unfolds.1], answers_of_script proper done, rfl⟩

/-- The script of a group has in it the scripts of all groups that are reached from it. -/
theorem script_subset {tree : Tree} (backend : Backend Condition Parameter Result)
    (parameter : Parameter) {above id : Nat} {node : Node} (unfolds : tree.Unfolds id node)
    (reaches : Relation.ReflTransGen tree.Lists above id) :
    ∀ {top : Node}, tree.Unfolds above top →
      backend.script parameter node ⊆ backend.script parameter top := by
  induction reaches using Relation.ReflTransGen.head_induction_on with
  | refl =>
    intro top topUnfolds
    rw [topUnfolds.unique unfolds]
    exact List.Subset.refl _
  | head link _ ih =>
    intro top topUnfolds call made
    cases top with
    | mk group children =>
      obtain ⟨group', found, listed⟩ := link
      rw [topUnfolds.1] at found
      cases found
      obtain ⟨child, member, childUnfolds⟩ := topUnfolds.exists_child listed
      have nonempty : ¬ group.isEmpty = true := by
        simp [Group.isEmpty, List.ne_nil_of_mem listed]
      have within : ∀ folded,
          call ∈ backend.nodeScript group.operator parameter folded child :=
        fun folded => List.mem_append_left _ (ih childUnfolds made)
      rw [script, if_neg nonempty, scriptAll_eq]
      refine List.mem_cons_of_mem _ (List.mem_append_right _ (List.mem_append_left _ ?_))
      exact mem_loopScript member within _

/-- A group whose condition is not the identity is formatted, and this is its condition. -/
theorem formatGroup_mem_script {parameter : Parameter} {group : Group} {children : List Node}
    {condition : Condition} (identity : backend.isIdentity backend.identity = true)
    (proper : (Node.mk group children).Proper)
    (compiled : backend.compileNode parameter (.mk group children) = .ok condition)
    (present : backend.isIdentity condition = false) :
    let folded := backend.foldedAll parameter group children
    .formatGroup ⟨group, folded.2⟩ folded.1 ∈ backend.script parameter (.mk group children) ∧
      backend.formatGroup ⟨group, folded.2⟩ folded.1 = condition := by
  intro folded
  rw [backend.compileNode_eq parameter proper, outcome_eq_ok] at compiled
  have assembled := compiled.2
  rw [assemble, fold_eq_foldedAll] at assembled
  by_cases empty : group.isEmpty = true
  · rw [if_pos empty] at assembled
    rw [← assembled, identity] at present
    cases present
  · rw [if_neg empty, format] at assembled
    by_cases drops : backend.isIdentity folded.1 = true
    · rw [if_pos drops] at assembled
      rw [← assembled, drops] at present
      cases present
    · rw [if_neg drops] at assembled
      refine ⟨?_, assembled⟩
      have last : .formatGroup ⟨group, folded.2⟩ folded.1 ∈ backend.formatScript group folded := by
        rw [formatScript, if_neg drops]
        exact List.mem_singleton_self _
      rw [script, if_neg empty]
      exact List.mem_cons_of_mem _ (List.mem_append_right _ (List.mem_append_right _
        (List.mem_append_right _ last)))

end Backend

end RecordFilter
