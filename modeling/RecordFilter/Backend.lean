import RecordFilter.Event
import RecordFilter.Tree

/-!
# Compiling trees

A `Backend` says how comparisons, conjunction, disjunction and "some element of a
collection" look in a target.  `Backend.compile` walks a tree and folds the members
of each group from left to right: its own criteria, then its child groups, then one
condition for each collection.

`identity` stands for "no condition".  Members that compile to it drop out of the
fold, so criteria that do not apply leave no trace, and a backend is never asked to
combine or format it.
-/

namespace RecordFilter

/-- What a backend may know about a group when formatting its condition. -/
structure Scope where
  group : Group
  /-- Members that were folded in, each criterion on elements counting as one. -/
  terms : Nat

/-- A target of compilation. -/
structure Backend (Condition Parameter Result : Type) where
  /-- "No condition". -/
  identity : Condition
  isIdentity : Condition → Bool
  /-- Both conditions hold. -/
  both : Condition → Condition → Condition
  /-- At least one of two conditions holds. -/
  either : Condition → Condition → Condition
  /-- One comparison against a parameter. -/
  comparison : Criterion → Parameter → Except FilterError Condition
  /-- The parameter for a record of the source type, with the name it is given. -/
  parameter : (typeName name : String) → Parameter
  /-- The parameter for an element of a collection. -/
  elementParameter : Collection → Parameter
  /-- Some element of the collection on the outer parameter satisfies the condition
      compiled for the inner one. -/
  anyElement : (outer : Parameter) → Collection → Condition → (inner : Parameter) → Condition
  /-- The condition of a whole group. -/
  formatGroup : Scope → Condition → Condition
  /-- The result for the condition of the root. -/
  finish : Condition → Parameter → Result
  /-- The events that finishing reports. -/
  announce : Condition → Parameter → List Event

namespace Backend

variable {Condition Parameter Result : Type} (backend : Backend Condition Parameter Result)

/-- Combines two conditions under an operator. -/
def combine : GroupOperator → Condition → Condition → Condition
  | .and => backend.both
  | .or => backend.either

/-- Folds one more member in.  The identity drops out; any other member counts for
    its weight, and for one at least. -/
def push (operator : GroupOperator) (folded : Condition × Nat) (member : Condition × Nat) :
    Condition × Nat :=
  if backend.isIdentity member.1 then folded
  else
    (if backend.isIdentity folded.1 then member.1
      else backend.combine operator folded.1 member.1,
      folded.2 + max 1 member.2)

/-- Folds weighted members from left to right. -/
def fold (operator : GroupOperator) (members : List (Condition × Nat)) : Condition × Nat :=
  members.foldl (backend.push operator) (backend.identity, 0)

/-- The comparisons of criteria against a parameter, each of weight one, up to the
    first that fails. -/
def comparisons (parameter : Parameter) (criteria : List Criterion) :
    Except FilterError (List (Condition × Nat)) :=
  criteria.mapM fun criterion =>
    (backend.comparison criterion parameter).map fun condition => (condition, 1)

/-- The condition on the elements of one collection, weighted by the number of
    comparisons folded in. -/
def compileCollection (operator : GroupOperator) (parameter : Parameter)
    (entry : CollectionCriteria) : Except FilterError (Condition × Nat) :=
  let inner := backend.elementParameter entry.collection
  (backend.comparisons inner entry.criteria).map fun members =>
    let folded := backend.fold operator members
    (backend.anyElement parameter entry.collection folded.1 inner, folded.2)

/-- Formats the folded condition of a group unless it is the identity. -/
def format (group : Group) (folded : Condition × Nat) : Condition :=
  if backend.isIdentity folded.1 then folded.1
  else backend.formatGroup ⟨group, folded.2⟩ folded.1

mutual

/-- The condition of a group: own criteria first, then child groups, then
    collections. -/
def compileNode (parameter : Parameter) : Node → Except FilterError Condition
  | .mk group children =>
    if group.isEmpty then .ok backend.identity
    else do
      let own ← backend.comparisons parameter group.criteria
      let nested ← compileNodes parameter children
      let related ← group.collections.mapM (backend.compileCollection group.operator parameter)
      return backend.format group (backend.fold group.operator (own ++ nested ++ related))

/-- The conditions of child groups, each of weight one. -/
def compileNodes (parameter : Parameter) :
    List Node → Except FilterError (List (Condition × Nat))
  | [] => .ok []
  | node :: rest => do
    let condition ← compileNode parameter node
    let conditions ← compileNodes parameter rest
    return (condition, 1) :: conditions

end

/-- The condition of the root. -/
def compileRoot (tree : Tree) (parameter : Parameter) : Except FilterError Condition :=
  match tree.node? with
  | some node => backend.compileNode parameter node
  | none => .error (.internal ("group " ++ groupName 0 ++ " is not in the tree"))

/-- Compiles a tree over a source type, naming the record under test. -/
def compile (tree : Tree) (source name : String) : Except FilterError Result :=
  let parameter := backend.parameter source name
  (backend.compileRoot tree parameter).map fun condition => backend.finish condition parameter

/-- The events that compiling reports. -/
def compileEvents (tree : Tree) (source name : String) : List Event :=
  let parameter := backend.parameter source name
  .compiling source tree.groups.length tree.criterionCount name ::
    match backend.compileRoot tree parameter with
    | .ok condition =>
      .compiled (backend.isIdentity condition) :: backend.announce condition parameter
    | .error _ => []

end Backend

end RecordFilter
