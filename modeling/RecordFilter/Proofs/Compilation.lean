import RecordFilter.Backend
import RecordFilter.Proofs.Unfolding

/-!
# What compiling a node comes to

Compiling asks the backend for comparisons in a fixed order and combines the answers.
`Backend.asks` lists the comparisons, `Backend.assemble` combines the answers without
regard to failures, and `compileNode_eq` puts the two together: the first comparison
that fails decides, and without failures the assembled condition comes out.
-/

namespace RecordFilter

namespace Backend

variable {Condition Parameter Result : Type} (backend : Backend Condition Parameter Result)

mutual

/-- The comparisons that a node asks for, each with its parameter, in order. -/
def asks (parameter : Parameter) : Node → List (Criterion × Parameter)
  | .mk group children =>
    group.criteria.map (·, parameter) ++ asksOf parameter children ++
      group.collections.flatMap fun entry =>
        entry.criteria.map (·, backend.elementParameter entry.collection)

/-- The comparisons that several nodes ask for. -/
def asksOf (parameter : Parameter) : List Node → List (Criterion × Parameter)
  | [] => []
  | node :: rest => asks parameter node ++ asksOf parameter rest

end

/-- The error of a comparison that fails. -/
def failure? (ask : Criterion × Parameter) : Option FilterError :=
  failureOf (backend.comparison ask.1 ask.2)

/-- The condition of a comparison; the identity stands for one that fails. -/
def settled (criterion : Criterion) (parameter : Parameter) : Condition :=
  match backend.comparison criterion parameter with
  | .ok condition => condition
  | .error _ => backend.identity

/-- The condition on the elements of one collection with its weight. -/
def assembleCollection (operator : GroupOperator) (parameter : Parameter)
    (entry : CollectionCriteria) : Condition × Nat :=
  let inner := backend.elementParameter entry.collection
  let folded := backend.fold operator (entry.criteria.map fun c => (backend.settled c inner, 1))
  (backend.anyElement parameter entry.collection folded.1 inner, folded.2)

mutual

/-- The condition of a node none of whose comparisons fails. -/
def assemble (parameter : Parameter) : Node → Condition
  | .mk group children =>
    if group.isEmpty then backend.identity
    else
      backend.format group (backend.fold group.operator
        (group.criteria.map (fun c => (backend.settled c parameter, 1)) ++
          assembleAll parameter children ++
          group.collections.map (backend.assembleCollection group.operator parameter)))

/-- The conditions of several nodes, each of weight one. -/
def assembleAll (parameter : Parameter) : List Node → List (Condition × Nat)
  | [] => []
  | node :: rest => (assemble parameter node, 1) :: assembleAll parameter rest

end

/-! ## Failures come first -/

theorem comparison_eq (criterion : Criterion) (parameter : Parameter) :
    backend.comparison criterion parameter =
      outcome (backend.failure? (criterion, parameter)) (backend.settled criterion parameter) := by
  unfold failure? settled
  cases backend.comparison criterion parameter <;> rfl

theorem failure?_eq_none {criterion : Criterion} {parameter : Parameter} :
    backend.failure? (criterion, parameter) = none ↔
      backend.comparison criterion parameter = .ok (backend.settled criterion parameter) := by
  rw [comparison_eq, outcome_eq_ok]
  simp

theorem comparisons_eq (parameter : Parameter) (criteria : List Criterion) :
    backend.comparisons parameter criteria =
      outcome ((criteria.map (·, parameter)).findSome? backend.failure?)
        (criteria.map fun c => (backend.settled c parameter, 1)) := by
  rw [List.findSome?_map]
  refine mapM_outcome criteria ?_
  intro criterion _
  rw [comparison_eq, map_outcome]
  rfl

theorem compileCollection_eq (operator : GroupOperator) (parameter : Parameter)
    (entry : CollectionCriteria) :
    backend.compileCollection operator parameter entry =
      outcome ((entry.criteria.map (·, backend.elementParameter entry.collection)).findSome?
        backend.failure?) (backend.assembleCollection operator parameter entry) := by
  simp only [compileCollection, comparisons_eq, map_outcome]
  rfl

mutual

/-- Compiling a proper node fails with the first comparison that fails, and gives the
    assembled condition when none does. -/
theorem compileNode_eq (parameter : Parameter) : ∀ {node : Node}, node.Proper →
    backend.compileNode parameter node =
      outcome ((backend.asks parameter node).findSome? backend.failure?)
        (backend.assemble parameter node)
  | .mk group children, proper => by
    obtain ⟨-, lengths, properAll⟩ := proper
    simp only [compileNode, asks, assemble]
    split
    · rename_i empty
      simp only [Group.isEmpty, Bool.and_eq_true, List.isEmpty_iff] at empty
      obtain ⟨⟨noCriteria, noChildren⟩, noCollections⟩ := empty
      have childless : children = [] := by
        rw [noChildren] at lengths
        exact List.length_eq_zero_iff.mp lengths.symm
      simp [noCriteria, childless, noCollections, asksOf]
    · have related := mapM_outcome group.collections fun entry _ =>
        backend.compileCollection_eq group.operator parameter entry
      rw [comparisons_eq, compileNodes_eq parameter properAll, related]
      rw [List.findSome?_append, List.findSome?_append, findSome?_flatMap]
      -- the three parts are computed one after the other, and the first failure decides
      cases (group.criteria.map (·, parameter)).findSome? backend.failure? with
      | some e => rfl
      | none =>
        cases (backend.asksOf parameter children).findSome? backend.failure? with
        | some e => rfl
        | none =>
          cases (group.collections.findSome? fun entry =>
            (entry.criteria.map (·, backend.elementParameter entry.collection)).findSome?
              backend.failure?) with
          | some e => rfl
          | none => rfl

theorem compileNodes_eq (parameter : Parameter) : ∀ {nodes : List Node}, Node.ProperAll nodes →
    backend.compileNodes parameter nodes =
      outcome ((backend.asksOf parameter nodes).findSome? backend.failure?)
        (backend.assembleAll parameter nodes)
  | [], _ => rfl
  | node :: rest, proper => by
    simp only [compileNodes, asksOf, assembleAll]
    rw [compileNode_eq parameter proper.2.1, compileNodes_eq parameter proper.2.2,
      List.findSome?_append]
    cases (backend.asks parameter node).findSome? backend.failure? with
    | some e => rfl
    | none =>
      cases (backend.asksOf parameter rest).findSome? backend.failure? with
      | some e => rfl
      | none => rfl

end

/-- Compiling a built tree, through the root it unfolds to. -/
theorem compile_eq {tree : Tree} {root : Node} (node : tree.node? = some root)
    (proper : root.Proper) (source name : String) :
    let parameter := backend.parameter source name
    backend.compile tree source name =
      outcome ((backend.asks parameter root).findSome? backend.failure?)
        (backend.finish (backend.assemble parameter root) parameter) := by
  simp only [compile, compileRoot, node, backend.compileNode_eq _ proper, map_outcome]

/-! ## Failures of any node -/

/-- An error that comparing some criterion fails with. -/
def Raises (e : FilterError) : Prop :=
  ∃ criterion parameter, backend.comparison criterion parameter = .error e

variable {backend} in
theorem raises_of_findSome? {asked : List (Criterion × Parameter)} {e : FilterError}
    (found : asked.findSome? backend.failure? = some e) : backend.Raises e := by
  obtain ⟨ask, -, failed⟩ := List.exists_of_findSome?_eq_some found
  exact ⟨ask.1, ask.2, failureOf_eq_some.mp failed⟩

mutual

/-- Compiling a node, proper or not, fails with nothing but the error of a comparison. -/
theorem compileNode_eq_error {parameter : Parameter} {e : FilterError} :
    ∀ {node : Node}, backend.compileNode parameter node = .error e → backend.Raises e
  | .mk group children, failed => by
    rw [compileNode] at failed
    split at failed
    · cases failed
    rcases Except.bind_eq_error.mp failed with own | ⟨_, -, failed⟩
    · rw [comparisons_eq, outcome_eq_error] at own
      exact raises_of_findSome? own
    rcases Except.bind_eq_error.mp failed with nested | ⟨_, -, failed⟩
    · exact compileNodes_eq_error nested
    rcases Except.bind_eq_error.mp failed with related | ⟨_, -, done⟩
    · rw [← failureOf_eq_some, failureOf_mapM] at related
      obtain ⟨entry, -, collection⟩ := List.exists_of_findSome?_eq_some related
      rw [failureOf_eq_some, compileCollection_eq, outcome_eq_error] at collection
      exact raises_of_findSome? collection
    · cases done

theorem compileNodes_eq_error {parameter : Parameter} {e : FilterError} :
    ∀ {nodes : List Node}, backend.compileNodes parameter nodes = .error e → backend.Raises e
  | [], failed => by cases failed
  | node :: rest, failed => by
    rw [compileNodes] at failed
    rcases Except.bind_eq_error.mp failed with first | ⟨_, -, failed⟩
    · exact compileNode_eq_error first
    rcases Except.bind_eq_error.mp failed with later | ⟨_, -, done⟩
    · exact compileNodes_eq_error later
    · cases done

end

/-- Compiling any tree fails with the error of a comparison, or for want of a root. -/
theorem compile_eq_error {tree : Tree} {source name : String} {e : FilterError}
    (failed : backend.compile tree source name = .error e) :
    backend.Raises e ∨ e.code = .internal := by
  rw [compile, Except.map_eq_error, compileRoot] at failed
  split at failed
  · exact .inl (backend.compileNode_eq_error failed)
  · cases failed
    exact .inr rfl

mutual

/-- The comparisons asked for are those of the recorded criteria, in order. -/
theorem map_fst_asks (parameter : Parameter) : ∀ node : Node,
    (backend.asks parameter node).map Prod.fst = node.recorded
  | .mk group children => by
    simp [asks, Node.recorded, map_fst_asksOf parameter children, List.map_flatMap,
      Function.comp_def]

theorem map_fst_asksOf (parameter : Parameter) : ∀ nodes : List Node,
    (backend.asksOf parameter nodes).map Prod.fst = Node.recordedOf nodes
  | [] => rfl
  | node :: rest => by
    simp [asksOf, Node.recordedOf, map_fst_asks parameter node, map_fst_asksOf parameter rest]

end

theorem asksOf_eq (parameter : Parameter) (nodes : List Node) :
    backend.asksOf parameter nodes = nodes.flatMap (backend.asks parameter) := by
  induction nodes with
  | nil => rfl
  | cons node rest ih => simp [asksOf, ih]

theorem asks_of_isVacuous {parameter : Parameter} {node : Node} (vacuous : node.isVacuous = true) :
    backend.asks parameter node = [] := by
  have criteria := backend.map_fst_asks parameter node
  rw [Node.isVacuous_iff.mp vacuous] at criteria
  exact List.map_eq_nil_iff.mp criteria

/-- Nodes without criteria ask for nothing. -/
theorem asksOf_live (parameter : Parameter) (nodes : List Node) :
    backend.asksOf parameter nodes = (Node.live nodes).flatMap (backend.asks parameter) := by
  rw [asksOf_eq]
  induction nodes with
  | nil => rfl
  | cons node rest ih =>
    cases vacuous : node.isVacuous with
    | true => simpa [Node.live, vacuous, backend.asks_of_isVacuous vacuous] using ih
    | false => simpa [Node.live, vacuous] using ih

/-- A comparison is asked for with the parameter of the tree or with that of a
    collection. -/
theorem mem_asks {parameter : Parameter} {node : Node} :
    ∀ ask ∈ backend.asks parameter node, ask.1 ∈ node.recorded ∧
      (ask.2 = parameter ∨ ∃ group ∈ node.groups, ∃ entry ∈ group.collections,
        ask.2 = backend.elementParameter entry.collection) := by
  intro ask asked
  refine ⟨?_, ?_⟩
  · rw [← backend.map_fst_asks parameter node]
    exact List.mem_map_of_mem asked
  · induction node using Node.inductionOn with
    | mk group children ih =>
      simp only [asks, asksOf_eq, List.mem_append, List.mem_map, List.mem_flatMap] at asked
      rcases asked with (⟨criterion, -, rfl⟩ | ⟨child, present, nested⟩) |
        ⟨entry, present, criterion, -, rfl⟩
      · exact .inl rfl
      · rcases ih child present nested with outer | ⟨below, member, entry, entryMember, inner⟩
        · exact .inl outer
        · refine .inr ⟨below, List.mem_cons_of_mem _ ?_, entry, entryMember, inner⟩
          rw [Node.groupsOf_eq]
          exact List.mem_flatMap.mpr ⟨child, present, member⟩
      · exact .inr ⟨group, List.mem_cons_self, entry, present, rfl⟩

/-- Where failure depends on the criterion alone, the first failure is that of the first
    recorded criterion that has one. -/
theorem findSome?_asks {failure : Criterion → Option FilterError} {node : Node}
    (each : ∀ criterion ∈ node.recorded, ∀ parameter,
      failureOf (backend.comparison criterion parameter) = failure criterion)
    (parameter : Parameter) :
    (backend.asks parameter node).findSome? backend.failure? =
      node.recorded.findSome? failure := by
  rw [← backend.map_fst_asks parameter node] at each ⊢
  rw [List.findSome?_map]
  generalize backend.asks parameter node = asked at each ⊢
  induction asked with
  | nil => rfl
  | cons ask rest ih =>
    have here := each ask.1 List.mem_cons_self ask.2
    have later := ih fun criterion member => each criterion (List.mem_cons_of_mem _ member)
    rw [List.findSome?_cons, List.findSome?_cons, later, Function.comp_apply, ← here]
    rfl

theorem assembleAll_eq (parameter : Parameter) (nodes : List Node) :
    backend.assembleAll parameter nodes =
      nodes.map fun node => (backend.assemble parameter node, 1) := by
  induction nodes with
  | nil => rfl
  | cons node rest ih => simp [assembleAll, ih]

end Backend

end RecordFilter
