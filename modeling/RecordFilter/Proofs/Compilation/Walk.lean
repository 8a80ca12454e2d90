import RecordFilter.Proofs.Compilation
import RecordFilter.Proofs.Recorded
import RecordFilter.Proofs.Unfolding.Links

/-!
# The calls of the compiler

`Backend.walk` compiles a tree position by position, looks every group up where a child
link points, and records each call that it makes to the backend.  It may descend to a
given depth only, and it may come to a group that is not there.

For a well-formed tree neither happens.  `walk_eq_play` says what does: the calls are
those of `Backend.script`, read off the unfolded tree, up to the first comparison that
fails, and the result is that of the compiler.
-/

namespace RecordFilter

/-! ## The walk -/

/-- What ends a walk without a condition. -/
inductive Halt where
  /-- The walk is deeper than it may go. -/
  | tooDeep
  | failed (error : FilterError)

/-- A call that compiling makes: the look-up of a group, or a call to the backend. -/
inductive Call (Condition Parameter : Type) where
  | lookUp (id : Nat)
  | compare (criterion : Criterion) (parameter : Parameter)
  | combine (operator : GroupOperator) (left right : Condition)
  | anyElement (outer : Parameter) (collection : Collection) (condition : Condition)
      (inner : Parameter)
  | formatGroup (scope : Scope) (condition : Condition)

namespace Call

variable {Condition Parameter : Type}

def lookUp? : Call Condition Parameter → Option Nat
  | lookUp id => some id
  | _ => none

def compare? : Call Condition Parameter → Option (Criterion × Parameter)
  | compare criterion parameter => some (criterion, parameter)
  | _ => none

def anyElement? : Call Condition Parameter → Option (Parameter × Collection × Condition × Parameter)
  | anyElement outer collection condition inner => some (outer, collection, condition, inner)
  | _ => none

def formatGroup? : Call Condition Parameter → Option (Scope × Condition)
  | formatGroup scope condition => some (scope, condition)
  | _ => none

end Call

namespace Backend

open Recorded

/-- A recorded computation of the compiler. -/
abbrev Run (Condition Parameter α : Type) := Recorded (Call Condition Parameter) Halt α

variable {Condition Parameter Result : Type} (backend : Backend Condition Parameter Result)

/-- Looks a group up. -/
def lookUpGroup (tree : Tree) (id : Nat) : Run Condition Parameter Group where
  calls := [.lookUp id]
  result :=
    match tree.group? id with
    | some group => .ok group
    | none => .error (.failed (.internal ("group " ++ groupName id ++ " is not in the tree")))

/-- Asks for a comparison. -/
def ask (criterion : Criterion) (parameter : Parameter) : Run Condition Parameter Condition where
  calls := [.compare criterion parameter]
  result := (backend.comparison criterion parameter).mapError .failed

/-- Has two conditions combined. -/
def askCombine (operator : GroupOperator) (left right : Condition) :
    Run Condition Parameter Condition where
  calls := [.combine operator left right]
  result := .ok (backend.combine operator left right)

/-- Has a condition on the elements of a collection made. -/
def askAnyElement (outer : Parameter) (collection : Collection) (condition : Condition)
    (inner : Parameter) : Run Condition Parameter Condition where
  calls := [.anyElement outer collection condition inner]
  result := .ok (backend.anyElement outer collection condition inner)

/-- Has the condition of a group formatted. -/
def askFormat (scope : Scope) (condition : Condition) : Run Condition Parameter Condition where
  calls := [.formatGroup scope condition]
  result := .ok (backend.formatGroup scope condition)

/-- Folds one more member in. -/
def pushRun (operator : GroupOperator) (folded member : Condition × Nat) :
    Run Condition Parameter (Condition × Nat) :=
  if backend.isIdentity member.1 then pure folded
  else if backend.isIdentity folded.1 then pure (member.1, folded.2 + max 1 member.2)
  else do
    let condition ← backend.askCombine operator folded.1 member.1
    return (condition, folded.2 + max 1 member.2)

/-- Folds the comparisons of criteria in, asking for each when it comes to it. -/
def criteriaRun (operator : GroupOperator) (parameter : Parameter) (criteria : List Criterion)
    (folded : Condition × Nat) : Run Condition Parameter (Condition × Nat) :=
  criteria.foldlM (fun folded criterion => do
    let condition ← backend.ask criterion parameter
    backend.pushRun operator folded (condition, 1)) folded

/-- Folds the condition on the elements of one collection in. -/
def collectionRun (operator : GroupOperator) (parameter : Parameter) (folded : Condition × Nat)
    (entry : CollectionCriteria) : Run Condition Parameter (Condition × Nat) := do
  let inner := backend.elementParameter entry.collection
  let members ← backend.criteriaRun operator inner entry.criteria (backend.identity, 0)
  let condition ← backend.askAnyElement parameter entry.collection members.1 inner
  backend.pushRun operator folded (condition, members.2)

/-- Formats the folded condition of a group unless it is the identity. -/
def formatRun (group : Group) (folded : Condition × Nat) : Run Condition Parameter Condition :=
  if backend.isIdentity folded.1 then pure folded.1
  else backend.askFormat ⟨group, folded.2⟩ folded.1

/-- Compiles the group at a position, descending at most to a depth. -/
def walk (tree : Tree) (parameter : Parameter) (depth id : Nat) :
    Run Condition Parameter Condition :=
  match depth with
  | 0 => ⟨[], .error .tooDeep⟩
  | depth + 1 => do
    let group ← lookUpGroup tree id
    if group.isEmpty then return backend.identity
    let own ← backend.criteriaRun group.operator parameter group.criteria (backend.identity, 0)
    let nested ← group.children.foldlM (fun folded child => do
      let condition ← walk tree parameter depth child
      backend.pushRun group.operator folded (condition, 1)) own
    let related ← group.collections.foldlM
      (backend.collectionRun group.operator parameter) nested
    backend.formatRun group related

/-! ## Scripts -/

/-- A call fails when it is a comparison that does. -/
def callFails : Call Condition Parameter → Option Halt
  | .compare criterion parameter => (backend.failure? (criterion, parameter)).map .failed
  | _ => none

/-- The call that folding a member in takes, if any. -/
def pushScript (operator : GroupOperator) (folded member : Condition × Nat) :
    List (Call Condition Parameter) :=
  if backend.isIdentity member.1 || backend.isIdentity folded.1 then []
  else [.combine operator folded.1 member.1]

/-- The calls for one criterion. -/
def criterionScript (operator : GroupOperator) (parameter : Parameter) (folded : Condition × Nat)
    (criterion : Criterion) : List (Call Condition Parameter) :=
  .compare criterion parameter ::
    backend.pushScript operator folded (backend.settled criterion parameter, 1)

/-- Folds the comparison of a criterion in. -/
def pushCriterion (operator : GroupOperator) (parameter : Parameter) (folded : Condition × Nat)
    (criterion : Criterion) : Condition × Nat :=
  backend.push operator folded (backend.settled criterion parameter, 1)

/-- The calls for the entry of one collection. -/
def collectionScript (operator : GroupOperator) (parameter : Parameter)
    (folded : Condition × Nat) (entry : CollectionCriteria) : List (Call Condition Parameter) :=
  let inner := backend.elementParameter entry.collection
  let members := entry.criteria.foldl (backend.pushCriterion operator inner) (backend.identity, 0)
  loopScript (backend.criterionScript operator inner) (backend.pushCriterion operator inner)
      (backend.identity, 0) entry.criteria ++
    .anyElement parameter entry.collection members.1 inner ::
      backend.pushScript operator folded (backend.assembleCollection operator parameter entry)

/-- Folds the condition on the elements of a collection in. -/
def pushCollection (operator : GroupOperator) (parameter : Parameter) (folded : Condition × Nat)
    (entry : CollectionCriteria) : Condition × Nat :=
  backend.push operator folded (backend.assembleCollection operator parameter entry)

/-- Folds the condition of a child in. -/
def pushNode (operator : GroupOperator) (parameter : Parameter) (folded : Condition × Nat)
    (node : Node) : Condition × Nat :=
  backend.push operator folded (backend.assemble parameter node, 1)

/-- What the own criteria of a group are folded to. -/
def foldedOwn (parameter : Parameter) (group : Group) : Condition × Nat :=
  group.criteria.foldl (backend.pushCriterion group.operator parameter) (backend.identity, 0)

/-- What own criteria and children are folded to. -/
def foldedNested (parameter : Parameter) (group : Group) (children : List Node) :
    Condition × Nat :=
  children.foldl (backend.pushNode group.operator parameter) (backend.foldedOwn parameter group)

/-- What all members of a group are folded to. -/
def foldedAll (parameter : Parameter) (group : Group) (children : List Node) : Condition × Nat :=
  group.collections.foldl (backend.pushCollection group.operator parameter)
    (backend.foldedNested parameter group children)

/-- The call that formatting a group takes, if any. -/
def formatScript (group : Group) (folded : Condition × Nat) : List (Call Condition Parameter) :=
  if backend.isIdentity folded.1 then [] else [.formatGroup ⟨group, folded.2⟩ folded.1]

mutual

/-- The calls for a node, those after a comparison that fails included. -/
def script (parameter : Parameter) : Node → List (Call Condition Parameter)
  | .mk group children =>
    .lookUp group.id ::
      if group.isEmpty then []
      else
        loopScript (backend.criterionScript group.operator parameter)
            (backend.pushCriterion group.operator parameter) (backend.identity, 0)
            group.criteria ++
          (scriptAll parameter group.operator (backend.foldedOwn parameter group) children ++
            (loopScript (backend.collectionScript group.operator parameter)
                (backend.pushCollection group.operator parameter)
                (backend.foldedNested parameter group children) group.collections ++
              backend.formatScript group (backend.foldedAll parameter group children)))

/-- The calls for the children of a group. -/
def scriptAll (parameter : Parameter) (operator : GroupOperator) :
    Condition × Nat → List Node → List (Call Condition Parameter)
  | _, [] => []
  | folded, node :: rest =>
    script parameter node ++
      backend.pushScript operator folded (backend.assemble parameter node, 1) ++
      scriptAll parameter operator (backend.pushNode operator parameter folded node) rest

end

/-- The calls for one child. -/
def nodeScript (operator : GroupOperator) (parameter : Parameter) (folded : Condition × Nat)
    (node : Node) : List (Call Condition Parameter) :=
  backend.script parameter node ++
    backend.pushScript operator folded (backend.assemble parameter node, 1)

theorem scriptAll_eq (parameter : Parameter) (operator : GroupOperator)
    (folded : Condition × Nat) (nodes : List Node) :
    backend.scriptAll parameter operator folded nodes =
      loopScript (backend.nodeScript operator parameter) (backend.pushNode operator parameter)
        folded nodes := by
  induction nodes generalizing folded with
  | nil => rfl
  | cons node rest ih => simp [scriptAll, loopScript, nodeScript, ih]

/-- The members of a group are folded in three parts, one after the other. -/
theorem fold_eq_foldedAll (parameter : Parameter) (group : Group) (children : List Node) :
    backend.fold group.operator
        (group.criteria.map (fun c => (backend.settled c parameter, 1)) ++
          backend.assembleAll parameter children ++
          group.collections.map (backend.assembleCollection group.operator parameter)) =
      backend.foldedAll parameter group children := by
  simp only [fold, List.foldl_append, List.foldl_map, assembleAll_eq]
  rfl

/-! ## Playing the script -/

theorem pushRun_eq_play (operator : GroupOperator) (folded member : Condition × Nat) :
    backend.pushRun operator folded member =
      play backend.callFails (backend.pushScript operator folded member)
        (backend.push operator folded member) := by
  unfold pushRun pushScript push
  by_cases drops : backend.isIdentity member.1 = true
  · simp only [drops, if_true, Bool.true_or]
    rfl
  · by_cases first : backend.isIdentity folded.1 = true
    · simp only [drops, first, if_true, Bool.or_true]
      rfl
    · simp only [drops, first]
      rfl

theorem ask_eq_play (criterion : Criterion) (parameter : Parameter) :
    backend.ask criterion parameter =
      play backend.callFails [.compare criterion parameter]
        (backend.settled criterion parameter) := by
  simp only [ask, play, backend.comparison_eq criterion parameter]
  cases failure : backend.failure? (criterion, parameter) with
  | some e => simp [upToFailure, callFails, failure, Except.mapError]
  | none => simp [upToFailure, callFails, failure, Except.mapError]

theorem lookUpGroup_eq_play {tree : Tree} {id : Nat} {group : Group}
    (found : tree.group? id = some group) :
    lookUpGroup tree id = play backend.callFails [.lookUp id] group := by
  simp [lookUpGroup, found, play, upToFailure, callFails]

theorem formatRun_eq_play (group : Group) (folded : Condition × Nat) :
    backend.formatRun group folded =
      play backend.callFails (backend.formatScript group folded)
        (backend.format group folded) := by
  unfold formatRun formatScript format
  by_cases drops : backend.isIdentity folded.1 = true
  · simp only [drops, if_true]
    rfl
  · simp only [drops]
    rfl

theorem criteriaRun_eq_play (operator : GroupOperator) (parameter : Parameter)
    (criteria : List Criterion) (folded : Condition × Nat) :
    backend.criteriaRun operator parameter criteria folded =
      play backend.callFails
        (loopScript (backend.criterionScript operator parameter)
          (backend.pushCriterion operator parameter) folded criteria)
        (criteria.foldl (backend.pushCriterion operator parameter) folded) := by
  refine foldlM_eq_play (List.forall₂_same.mpr fun criterion _ folded => ?_) folded
  rw [ask_eq_play, bind_eq]
  exact play_bind _ (backend.pushRun_eq_play operator folded _)

theorem fold_settled (operator : GroupOperator) (parameter : Parameter)
    (criteria : List Criterion) :
    backend.fold operator (criteria.map fun c => (backend.settled c parameter, 1)) =
      criteria.foldl (backend.pushCriterion operator parameter) (backend.identity, 0) := by
  simp only [fold, List.foldl_map]
  rfl

theorem collectionRun_eq_play (operator : GroupOperator) (parameter : Parameter)
    (folded : Condition × Nat) (entry : CollectionCriteria) :
    backend.collectionRun operator parameter folded entry =
      play backend.callFails (backend.collectionScript operator parameter folded entry)
        (backend.pushCollection operator parameter folded entry) := by
  have members := backend.fold_settled operator (backend.elementParameter entry.collection)
    entry.criteria
  rw [collectionRun, criteriaRun_eq_play, bind_eq, collectionScript, pushCollection,
    assembleCollection, members]
  refine play_bind _ ?_
  exact play_bind [.anyElement _ _ _ _] (backend.pushRun_eq_play operator folded _)

/-- Walking a well-formed tree from a position plays the script of the node there, if
    the walk may go as deep as there are groups from there on. -/
theorem walk_eq_play {tree : Tree} (wellFormed : tree.WellFormed) (parameter : Parameter)
    {depth id : Nat} {node : Node} (unfolds : tree.Unfolds id node)
    (enough : tree.groups.length ≤ depth + id) :
    backend.walk tree parameter depth id =
      play backend.callFails (backend.script parameter node)
        (backend.assemble parameter node) := by
  induction node using Node.inductionOn generalizing depth id with
  | mk group children ih =>
    have found := unfolds.1
    have bound := Tree.group?_isSome found
    cases depth with
    | zero => omega
    | succ depth =>
      rw [walk, script, assemble, fold_eq_foldedAll, backend.lookUpGroup_eq_play found, bind_eq,
        wellFormed.id_eq found]
      by_cases empty : group.isEmpty = true
      · rw [if_pos empty, if_pos empty]
        refine play_bind [Call.lookUp id] ?_
        rw [if_pos empty]
        rfl
      · rw [if_neg empty, if_neg empty]
        refine play_bind [Call.lookUp id] ?_
        rw [if_neg empty]
        have pairs := Tree.unfoldsAll_iff.mp unfolds.2
        have descents : List.Forall₂ (fun child node => ∀ folded : Condition × Nat,
            (do
              let condition ← backend.walk tree parameter depth child
              backend.pushRun group.operator folded (condition, 1)) =
              play backend.callFails (backend.nodeScript group.operator parameter folded node)
                (backend.pushNode group.operator parameter folded node))
            group.children children := by
          rw [List.forall₂_iff_get]
          refine ⟨pairs.length_eq, ?_⟩
          intro k childBound nodeBound folded
          obtain ⟨after, -⟩ :=
            wellFormed.child_lt found (List.get_mem group.children ⟨k, childBound⟩)
          rw [ih _ (List.get_mem children ⟨k, nodeBound⟩) (pairs.get childBound nodeBound)
            (by omega), bind_eq]
          exact play_bind _ (backend.pushRun_eq_play group.operator folded _)
        have entries : List.Forall₂ (fun entry entry' => ∀ folded : Condition × Nat,
            backend.collectionRun group.operator parameter folded entry =
              play backend.callFails
                (backend.collectionScript group.operator parameter folded entry')
                (backend.pushCollection group.operator parameter folded entry'))
            group.collections group.collections :=
          List.forall₂_same.mpr fun entry _ folded =>
            backend.collectionRun_eq_play group.operator parameter folded entry
        rw [criteriaRun_eq_play, bind_eq, scriptAll_eq]
        refine play_bind _ ?_
        rw [foldlM_eq_play descents, bind_eq]
        refine play_bind _ ?_
        rw [foldlM_eq_play entries, bind_eq]
        exact play_bind _ (backend.formatRun_eq_play group _)

end Backend

end RecordFilter
