import Mathlib.Data.List.Sort
import RecordFilter.Proofs.Compilation
import RecordFilter.Proofs.Unfolding.Links

/-!
# Trees without what drops out

A tree may hold groups without criteria and criteria that drop out of the fold.  One that
lacks some of them is embedded in it (`Tree.Embeds`): its groups stand in the same order,
at other positions.  A backend that looks at no more than operator, depth and terms of a
group makes the same of both (`Tree.Embeds.compile_eq`).
-/

namespace RecordFilter

/-! ## Lists without some members -/

/-- The left list is the right one without some members that may be dropped; those that
    stay are related one by one. -/
inductive Thinned {α β : Type} (drop : β → Prop) (rel : α → β → Prop) : List α → List β → Prop
  | nil : Thinned drop rel [] []
  | keep {left : α} {right : β} {lefts : List α} {rights : List β} :
    rel left right → Thinned drop rel lefts rights →
      Thinned drop rel (left :: lefts) (right :: rights)
  | skip {right : β} {lefts : List α} {rights : List β} :
    drop right → Thinned drop rel lefts rights → Thinned drop rel lefts (right :: rights)

namespace Thinned

variable {α β γ δ : Type} {drop : β → Prop} {rel : α → β → Prop}

/-- A list is thinned by dropping nothing. -/
theorem same (drop : α → Prop) : ∀ items : List α, Thinned drop Eq items items
  | [] => nil
  | _ :: rest => keep rfl (same drop rest)

theorem append {lefts lefts' : List α} {rights rights' : List β}
    (first : Thinned drop rel lefts rights) (second : Thinned drop rel lefts' rights') :
    Thinned drop rel (lefts ++ lefts') (rights ++ rights') := by
  induction first with
  | nil => exact second
  | keep related _ ih => exact keep related ih
  | skip dropped _ ih => exact skip dropped ih

theorem sublist {drop : α → Prop} {lefts rights : List α} (thinned : Thinned drop Eq lefts rights) :
    lefts.Sublist rights := by
  induction thinned with
  | nil => exact .slnil
  | keep equal _ ih => exact equal ▸ ih.cons_cons _
  | skip _ _ ih => exact ih.cons _

/-- Where nothing may be dropped the lists are the same. -/
theorem eq {α : Type} {lefts rights : List α}
    (thinned : Thinned (fun _ => False) Eq lefts rights) : lefts = rights := by
  induction thinned with
  | nil => rfl
  | keep equal _ ih => rw [equal, ih]
  | skip none _ _ => exact none.elim

/-- Lists that stand item by item for those of a thinning are thinned as well. -/
theorem through {drop' : δ → Prop} {rel' : γ → δ → Prop} {left : α → γ → Prop}
    {right : β → δ → Prop} {lefts : List α} {rights : List β}
    (thinned : Thinned drop rel lefts rights) {lefts' : List γ} {rights' : List δ}
    (standLeft : List.Forall₂ left lefts lefts') (standRight : List.Forall₂ right rights rights')
    (dropped : ∀ v ∈ rights', ∀ {y}, drop y → right y v → drop' v)
    (related : ∀ v ∈ rights', ∀ {x y u}, rel x y → left x u → right y v → rel' u v) :
    Thinned drop' rel' lefts' rights' := by
  induction thinned generalizing lefts' rights' with
  | nil =>
    cases standLeft
    cases standRight
    exact nil
  | keep here _ ih =>
    cases standLeft with
    | cons headLeft tailLeft =>
      cases standRight with
      | cons headRight tailRight =>
        refine keep (related _ List.mem_cons_self here headLeft headRight) ?_
        exact ih tailLeft tailRight (fun v member => dropped v (List.mem_cons_of_mem _ member))
          fun v member => related v (List.mem_cons_of_mem _ member)
  | skip here _ ih =>
    cases standRight with
    | cons headRight tailRight =>
      refine skip (dropped _ List.mem_cons_self here headRight) ?_
      exact ih standLeft tailRight (fun v member => dropped v (List.mem_cons_of_mem _ member))
        fun v member => related v (List.mem_cons_of_mem _ member)

theorem map {drop' : δ → Prop} {rel' : γ → δ → Prop} {f : α → γ} {g : β → δ} {lefts : List α}
    {rights : List β} (thinned : Thinned drop rel lefts rights)
    (dropped : ∀ {y}, drop y → drop' (g y)) (related : ∀ {x y}, rel x y → rel' (f x) (g y)) :
    Thinned drop' rel' (lefts.map f) (rights.map g) := by
  induction thinned with
  | nil => exact nil
  | keep here _ ih => exact keep (related here) ih
  | skip here _ ih => exact skip (dropped here) ih

/-- A search that finds nothing in what is dropped finds the same in both lists. -/
theorem findSome?_eq {f : α → Option γ} {g : β → Option γ} {lefts : List α} {rights : List β}
    (thinned : Thinned drop rel lefts rights) (dropped : ∀ {y}, drop y → g y = none)
    (related : ∀ {x y}, rel x y → f x = g y) : lefts.findSome? f = rights.findSome? g := by
  induction thinned with
  | nil => rfl
  | keep here _ ih => rw [List.findSome?_cons, List.findSome?_cons, related here, ih]
  | skip here _ ih => rw [List.findSome?_cons, dropped here, ih]

/-- Lists that are collected agree when what is dropped collects to nothing. -/
theorem flatMap_eq {f : α → List γ} {g : β → List γ} {lefts : List α} {rights : List β}
    (thinned : Thinned drop rel lefts rights) (dropped : ∀ {y}, drop y → g y = [])
    (related : ∀ {x y}, rel x y → f x = g y) : lefts.flatMap f = rights.flatMap g := by
  induction thinned with
  | nil => rfl
  | keep here _ ih => rw [List.flatMap_cons, List.flatMap_cons, related here, ih]
  | skip here _ ih => rw [List.flatMap_cons, dropped here, ih, List.nil_append]

/-- A list whose items are placed where another has those that it keeps is thinned from
    it. -/
theorem of_map_eq_filter {place : α → β} {keeps : β → Bool} {lefts : List α} {rights : List β}
    (placed : lefts.map place = rights.filter keeps)
    (dropped : ∀ y ∈ rights, keeps y = false → drop y) :
    Thinned drop (fun x y => place x = y) lefts rights := by
  induction rights generalizing lefts with
  | nil =>
    rw [List.filter_nil, List.map_eq_nil_iff] at placed
    exact placed ▸ nil
  | cons right rights ih =>
    have later := fun y member => dropped y (List.mem_cons_of_mem right member)
    cases stays : keeps right with
    | false =>
      rw [List.filter_cons_of_neg (by simp [stays])] at placed
      exact skip (dropped right List.mem_cons_self stays) (ih placed later)
    | true =>
      rw [List.filter_cons_of_pos stays] at placed
      obtain ⟨left, lefts, rfl, here, rest⟩ := List.map_eq_cons_iff.mp placed
      exact keep here (ih rest later)

end Thinned

/-! ## What a backend makes of members that drop out -/

namespace Backend

variable {Condition Parameter Result : Type} (backend : Backend Condition Parameter Result)

/-- Formatting looks only at the operator of a group, at whether it is the root, and at
    its terms. -/
def FormatsByShape : Prop :=
  ∀ left right : Scope, left.group.operator = right.group.operator →
    left.group.isRoot = right.group.isRoot → left.terms = right.terms →
      backend.formatGroup left = backend.formatGroup right

/-- The comparison of a criterion gives the identity. -/
def Drops (parameter : Parameter) (criterion : Criterion) : Prop :=
  ∃ condition, backend.comparison criterion parameter = .ok condition ∧
    backend.isIdentity condition = true

variable {backend}

theorem Drops.failure? {parameter : Parameter} {criterion : Criterion}
    (drops : backend.Drops parameter criterion) :
    backend.failure? (criterion, parameter) = none := by
  obtain ⟨condition, compared, -⟩ := drops
  simp [Backend.failure?, compared]

theorem Drops.isIdentity {parameter : Parameter} {criterion : Criterion}
    (drops : backend.Drops parameter criterion) :
    backend.isIdentity (backend.settled criterion parameter) = true := by
  obtain ⟨condition, compared, identity⟩ := drops
  simpa [settled, compared] using identity

/-- Members that are the identity make no difference to a fold. -/
theorem fold_thinned (operator : GroupOperator) {lefts rights : List (Condition × Nat)}
    (thinned : Thinned (fun member => backend.isIdentity member.1 = true) Eq lefts rights) :
    backend.fold operator lefts = backend.fold operator rights := by
  have folds : ∀ start, lefts.foldl (backend.push operator) start =
      rights.foldl (backend.push operator) start := by
    induction thinned with
    | nil => exact fun _ => rfl
    | keep equal _ ih => exact fun start => equal ▸ ih _
    | skip drops _ ih =>
      intro start
      rw [List.foldl_cons, ih, push, if_pos drops]
  exact folds _

/-- A fold of nothing but identities. -/
theorem fold_identities (operator : GroupOperator) {members : List (Condition × Nat)}
    (identities : ∀ member ∈ members, backend.isIdentity member.1 = true) :
    backend.fold operator members = (backend.identity, 0) := by
  have thinned : Thinned (fun member => backend.isIdentity member.1 = true) Eq [] members := by
    induction members with
    | nil => exact .nil
    | cons member rest ih =>
      exact .skip (identities member List.mem_cons_self)
        (ih fun other present => identities other (List.mem_cons_of_mem _ present))
  exact (fold_thinned operator thinned).symm

section Identity

variable (identity : backend.isIdentity backend.identity = true)
include identity

/-- A group without members is folded and formatted like any other. -/
theorem assemble_eq_format (parameter : Parameter) {group : Group} {children : List Node}
    (lengths : group.children.length = children.length) :
    backend.assemble parameter (.mk group children) =
      backend.format group (backend.fold group.operator
        (group.criteria.map (fun c => (backend.settled c parameter, 1)) ++
          children.map (fun node => (backend.assemble parameter node, 1)) ++
          group.collections.map (backend.assembleCollection group.operator parameter))) := by
  rw [assemble, assembleAll_eq]
  by_cases empty : group.isEmpty = true
  · obtain ⟨noCriteria, noCollections, childless⟩ := Node.nothing_of_isEmpty lengths empty
    rw [if_pos empty, noCriteria, noCollections, childless]
    simp [fold, format, identity]
  · rw [if_neg empty]

/-- A node without criteria comes to the identity. -/
theorem assemble_of_isVacuous (parameter : Parameter) {node : Node} :
    node.Proper → node.isVacuous = true → backend.assemble parameter node = backend.identity := by
  induction node using Node.inductionOn with
  | mk group children ih =>
    intro proper vacuous
    simp only [Node.isVacuous_mk, Group.recorded, Bool.and_eq_true, List.isEmpty_iff,
      List.append_eq_nil_iff, List.flatMap_eq_nil_iff, List.all_eq_true] at vacuous
    obtain ⟨⟨noCriteria, noElements⟩, barren⟩ := vacuous
    have noCollections : group.collections = [] := by
      rw [List.eq_nil_iff_forall_not_mem]
      exact fun entry member => proper.1.inhabited entry member (noElements entry member)
    rw [assemble_eq_format identity parameter proper.2.1, noCriteria, noCollections]
    simp only [List.map_nil, List.nil_append, List.append_nil]
    rw [fold_identities, format, if_pos identity]
    intro member present
    obtain ⟨node, child, rfl⟩ := List.mem_map.mp present
    rw [ih node child (proper.of_mem child) (barren node child)]
    exact identity

end Identity

end Backend

/-! ## Embedded trees -/

/-- A group that holds what another does, except for own criteria that may be dropped. -/
structure Group.Thins (drop : Criterion → Prop) (thin full : Group) : Prop where
  operator : thin.operator = full.operator
  criteria : Thinned drop Eq thin.criteria full.criteria
  collections : thin.collections = full.collections

theorem Group.Thins.sound {drop : Criterion → Prop} {thin full : Group}
    (thins : thin.Thins drop full) (sound : full.Sound) : thin.Sound := by
  refine ⟨?_, ?_, ?_⟩
  · intro criterion member
    refine sound.checked criterion ?_
    rw [recorded, thins.collections] at member
    have own := thins.criteria.sublist.subset
    exact List.mem_append.mpr ((List.mem_append.mp member).imp_left (own ·))
  · exact thins.collections ▸ sound.inhabited
  · exact thins.collections ▸ sound.distinct

namespace Tree

/-- The groups of one tree have places in another, in the same order and below the same
    parents, and groups without a place hold nothing. -/
structure Embeds (drop : Criterion → Prop) (place : Nat → Nat) (thin full : Tree) : Prop where
  root : place 0 = 0
  ascending : ∀ {i j}, i < j → j < thin.groups.length → place i < place j
  group : ∀ {i left}, thin.group? i = some left → ∃ right, full.group? (place i) = some right ∧
    left.Thins drop right ∧ right.parent = left.parent.map place
  barren : ∀ {j right}, full.group? j = some right → (∀ i < thin.groups.length, place i ≠ j) →
    right.recorded = []

namespace Embeds

variable {drop : Criterion → Prop} {place : Nat → Nat} {thin full : Tree}

/-- A group corresponds to the one in its place. -/
theorem corresponds (embeds : Embeds drop place thin full) {i : Nat} {left right : Group}
    (found : thin.group? i = some left) (foundRight : full.group? (place i) = some right) :
    left.Thins drop right ∧ right.parent = left.parent.map place := by
  obtain ⟨right', found', thins, links⟩ := embeds.group found
  rw [foundRight] at found'
  cases found'
  exact ⟨thins, links⟩

theorem injective (embeds : Embeds drop place thin full) {i j : Nat}
    (left : i < thin.groups.length) (right : j < thin.groups.length) (same : place i = place j) :
    i = j := by
  rcases Nat.lt_trichotomy i j with before | equal | after
  · exact absurd same (Nat.ne_of_lt (embeds.ascending before right))
  · exact equal
  · exact absurd same.symm (Nat.ne_of_lt (embeds.ascending after left))

/-- A place is a position. -/
theorem place_lt (embeds : Embeds drop place thin full) {i : Nat} (bound : i < thin.groups.length) :
    place i < full.groups.length := by
  obtain ⟨right, found, -⟩ := embeds.group (List.getElem?_eq_getElem bound)
  exact group?_isSome found

/-- Where nothing is dropped, any criteria may be. -/
theorem weaken (embeds : Embeds (fun _ => False) place thin full) (drop : Criterion → Prop) :
    Embeds drop place thin full where
  root := embeds.root
  ascending := embeds.ascending
  group found := by
    obtain ⟨right, found', thins, links⟩ := embeds.group found
    refine ⟨right, found', ⟨thins.operator, ?_, thins.collections⟩, links⟩
    rw [thins.criteria.eq]
    exact .same drop right.criteria
  barren := embeds.barren

/-- The parent of a group that has a place is the place of its parent. -/
theorem parent_place (embeds : Embeds drop place thin full) (wellFormed : thin.WellFormed)
    {i j : Nat} (bound : i < thin.groups.length) {right : Group}
    (found : full.group? (place i) = some right) (parent : right.parent = some j) :
    ∃ p < i, place p = j ∧ ∃ left, thin.group? i = some left ∧ left.parent = some p := by
  have foundLeft : thin.group? i = some thin.groups[i] := List.getElem?_eq_getElem bound
  obtain ⟨-, links⟩ := embeds.corresponds foundLeft found
  rw [parent] at links
  obtain ⟨p, parentLeft, same⟩ := Option.map_eq_some_iff.mp links.symm
  exact ⟨p, wellFormed.parent_lt foundLeft parentLeft, same, _, foundLeft, parentLeft⟩

/-- Below a group without a place nothing is recorded. -/
theorem isVacuous (embeds : Embeds drop place thin full) (wellFormed : thin.WellFormed)
    (fullWellFormed : full.WellFormed) {j : Nat} {node : Node} :
    full.Unfolds j node → (∀ i < thin.groups.length, place i ≠ j) → node.isVacuous = true := by
  induction node using Node.inductionOn generalizing j with
  | mk group children ih =>
    intro unfolds unplaced
    rw [Node.isVacuous_mk, embeds.barren unfolds.1 unplaced, List.isEmpty_nil, Bool.true_and,
      List.all_eq_true]
    intro node member
    obtain ⟨child, link, childUnfolds⟩ := unfolds.lists_of_mem node member
    refine ih node member childUnfolds ?_
    -- a child that has a place would have its parent in one
    rintro i bound rfl
    obtain ⟨right, found, parent⟩ := fullWellFormed.lists_iff.mp link
    obtain ⟨p, before, same, -⟩ := embeds.parent_place wellFormed bound found parent
    exact unplaced p (Nat.lt_trans before bound) same

/-- The children of a group have places among those of its place. -/
theorem mem_children (embeds : Embeds drop place thin full) (wellFormed : thin.WellFormed)
    (fullWellFormed : full.WellFormed) {i : Nat} {left right : Group}
    (foundLeft : thin.group? i = some left) (foundRight : full.group? (place i) = some right)
    (j : Nat) : j ∈ left.children ↔ j < thin.groups.length ∧ place j ∈ right.children := by
  rw [wellFormed.mem_children foundLeft, fullWellFormed.mem_children foundRight]
  constructor
  · rintro ⟨child, found, parent⟩
    obtain ⟨child', found', -, links⟩ := embeds.group found
    exact ⟨group?_isSome found, child', found', by rw [links, parent, Option.map_some]⟩
  · rintro ⟨bound, child', found', parent⟩
    obtain ⟨p, before, same, child, found, parentLeft⟩ :=
      embeds.parent_place wellFormed bound found' parent
    rw [embeds.injective (Nat.lt_trans before bound) (group?_isSome foundLeft) same] at parentLeft
    exact ⟨child, found, parentLeft⟩

/-- The children of a group are those of its place that have places, in order. -/
theorem children_thinned (embeds : Embeds drop place thin full) (wellFormed : thin.WellFormed)
    (fullWellFormed : full.WellFormed) {i : Nat} {left right : Group}
    (foundLeft : thin.group? i = some left) (foundRight : full.group? (place i) = some right) :
    Thinned (fun j => ∀ i < thin.groups.length, place i ≠ j) (fun i j => place i = j)
      left.children right.children := by
  have members := embeds.mem_children wellFormed fullWellFormed foundLeft foundRight
  have placed : left.children.map place =
      right.children.filter fun j => decide (∃ i < thin.groups.length, place i = j) := by
    have ascending : (left.children.map place).Pairwise (· < ·) := by
      refine List.pairwise_map.mpr ((wellFormed.ascending foundLeft).imp_of_mem ?_)
      intro a b _ member before
      exact embeds.ascending before ((members b).mp member).1
    refine ascending.eq_of_mem_iff ((fullWellFormed.ascending foundRight).filter _) fun j => ?_
    rw [List.mem_map, List.mem_filter, decide_eq_true_iff]
    constructor
    · rintro ⟨a, member, rfl⟩
      obtain ⟨bound, present⟩ := (members a).mp member
      exact ⟨present, a, bound, rfl⟩
    · rintro ⟨member, a, bound, rfl⟩
      exact ⟨a, (members a).mpr ⟨bound, member⟩, rfl⟩
  refine .of_map_eq_filter placed fun j _ unplaced => ?_
  simpa using unplaced

/-- The nodes of children follow their positions: those without a place are vacuous, the
    others are related when a group and its place are. -/
theorem nodes_thinned (embeds : Embeds drop place thin full) (wellFormed : thin.WellFormed)
    (fullWellFormed : full.WellFormed) {i : Nat} {left right : Group} {lefts rights : List Node}
    (unfolds : thin.Unfolds i (.mk left lefts))
    (fullUnfolds : full.Unfolds (place i) (.mk right rights))
    {rel : Node → Node → Prop} (related : ∀ node ∈ rights, ∀ {j : Nat} {node' : Node},
      thin.Unfolds j node' → full.Unfolds (place j) node → rel node' node) :
    Thinned (fun node => node.Proper ∧ node.isVacuous = true) rel lefts rights := by
  refine (embeds.children_thinned wellFormed fullWellFormed unfolds.1 fullUnfolds.1).through
    (unfoldsAll_iff.mp unfolds.2) (unfoldsAll_iff.mp fullUnfolds.2) ?_ ?_
  · intro node _ j unplaced nodeUnfolds
    exact ⟨nodeUnfolds.proper fullWellFormed,
      embeds.isVacuous wellFormed fullWellFormed nodeUnfolds unplaced⟩
  · rintro node member j _ node' rfl nodeUnfolds nodeUnfolds'
    exact related node member nodeUnfolds nodeUnfolds'

/-- Where nothing is dropped, a group and its place record the same from there downwards,
    in the same order. -/
theorem recorded_eq (embeds : Embeds (fun _ => False) place thin full)
    (wellFormed : thin.WellFormed) (fullWellFormed : full.WellFormed) {right : Node} :
    ∀ {i : Nat} {left : Node}, thin.Unfolds i left → full.Unfolds (place i) right →
      left.recorded = right.recorded := by
  induction right using Node.inductionOn with
  | mk full' rights ih =>
    intro i left unfolds fullUnfolds
    cases left with
    | mk thin' lefts =>
      obtain ⟨thins, -⟩ := embeds.corresponds unfolds.1 fullUnfolds.1
      have nodes := embeds.nodes_thinned wellFormed fullWellFormed unfolds fullUnfolds ih
      have nested : lefts.flatMap Node.recorded = rights.flatMap Node.recorded :=
        nodes.flatMap_eq (fun dropped => Node.isVacuous_iff.mp dropped.2) (fun equal => equal)
      rw [Node.recorded, Node.recorded, Node.recordedOf_eq, Node.recordedOf_eq, nested,
        thins.criteria.eq, thins.collections]

/-- A tree embedded in a well-formed one is well formed when its links are those between
    places. -/
theorem wellFormed (embeds : Embeds drop place thin full) (fullWellFormed : full.WellFormed)
    (nonempty : thin.groups ≠ []) (id_eq : ∀ {i left}, thin.group? i = some left → left.id = i)
    (parent_lt : ∀ {i left p}, thin.group? i = some left → left.parent = some p → p < i)
    (children : ∀ {i left right}, thin.group? i = some left → full.group? (place i) = some right →
      ∀ j, j ∈ left.children ↔ j < thin.groups.length ∧ place j ∈ right.children)
    (ascending : ∀ {i left}, thin.group? i = some left → left.children.Pairwise (· < ·)) :
    thin.WellFormed := by
  refine ⟨nonempty, id_eq, ?_, parent_lt, ?_, ascending, ?_⟩
  · intro i left found
    obtain ⟨right, found', -, links⟩ := embeds.group found
    have atRoot : place i = 0 ↔ i = 0 := by
      refine ⟨fun zero => embeds.injective (group?_isSome found)
        (List.length_pos_iff.mpr nonempty) (zero.trans embeds.root.symm), ?_⟩
      rintro rfl
      exact embeds.root
    rw [← atRoot, ← fullWellFormed.parent_none found', links, Option.map_eq_none_iff]
  · intro i left found j
    obtain ⟨right, found', -, -⟩ := embeds.group found
    rw [children found found', fullWellFormed.mem_children found']
    constructor
    · rintro ⟨bound, child', childFound', parent⟩
      have childFound : thin.group? j = some thin.groups[j] := List.getElem?_eq_getElem bound
      obtain ⟨-, links⟩ := embeds.corresponds childFound childFound'
      rw [parent] at links
      obtain ⟨p, parentLeft, same⟩ := Option.map_eq_some_iff.mp links.symm
      have before := parent_lt childFound parentLeft
      rw [embeds.injective (Nat.lt_trans before bound) (group?_isSome found) same] at parentLeft
      exact ⟨_, childFound, parentLeft⟩
    · rintro ⟨child, childFound, parent⟩
      obtain ⟨child', childFound', -, links⟩ := embeds.group childFound
      exact ⟨group?_isSome childFound, child', childFound', by rw [links, parent, Option.map_some]⟩
  · intro i left found
    obtain ⟨right, found', thins, -⟩ := embeds.group found
    exact thins.sound (fullWellFormed.sound found')

end Embeds

end Tree

namespace Backend

variable {Condition Parameter Result : Type} {backend : Backend Condition Parameter Result}

/-- Compiling two nodes comes to the same. -/
structure Agrees (backend : Backend Condition Parameter Result) (parameter : Parameter)
    (left right : Node) : Prop where
  failure : (backend.asks parameter left).findSome? backend.failure? =
    (backend.asks parameter right).findSome? backend.failure?
  condition : backend.assemble parameter left = backend.assemble parameter right

/-- Two groups compile to the same when what one lacks drops out of the other. -/
theorem agrees_mk (identity : backend.isIdentity backend.identity = true)
    (formats : backend.FormatsByShape) {parameter : Parameter} {left right : Group}
    {lefts rights : List Node} (lengthsLeft : left.children.length = lefts.length)
    (lengthsRight : right.children.length = rights.length)
    (thins : left.Thins (backend.Drops parameter) right) (isRoot : left.isRoot = right.isRoot)
    (nodes : Thinned (fun node => node.Proper ∧ node.isVacuous = true)
      (backend.Agrees parameter) lefts rights) :
    backend.Agrees parameter (.mk left lefts) (.mk right rights) := by
  constructor
  case failure =>
    simp only [asks, asksOf_eq, List.findSome?_append, findSome?_flatMap, List.findSome?_map,
      thins.collections]
    have own : left.criteria.findSome? (backend.failure? ∘ (·, parameter)) =
        right.criteria.findSome? (backend.failure? ∘ (·, parameter)) :=
      thins.criteria.findSome?_eq (fun drops => drops.failure?) (fun equal => equal ▸ rfl)
    have nested : (lefts.findSome? fun node =>
          (backend.asks parameter node).findSome? backend.failure?) =
        rights.findSome? fun node => (backend.asks parameter node).findSome? backend.failure? := by
      refine nodes.findSome?_eq (fun dropped => ?_) (fun agrees => agrees.failure)
      rw [backend.asks_of_isVacuous dropped.2, List.findSome?_nil]
    rw [own, nested]
  case condition =>
    rw [assemble_eq_format identity parameter lengthsLeft,
      assemble_eq_format identity parameter lengthsRight, thins.operator, thins.collections]
    have own : Thinned (fun member => backend.isIdentity member.1 = true) Eq
        (left.criteria.map fun c => (backend.settled c parameter, 1))
        (right.criteria.map fun c => (backend.settled c parameter, 1)) :=
      thins.criteria.map (fun drops => drops.isIdentity) (fun equal => equal ▸ rfl)
    have nested : Thinned (fun member => backend.isIdentity member.1 = true) Eq
        (lefts.map fun node => (backend.assemble parameter node, 1))
        (rights.map fun node => (backend.assemble parameter node, 1)) := by
      refine nodes.map (fun dropped => ?_) (fun agrees => by rw [agrees.condition])
      rw [assemble_of_isVacuous identity parameter dropped.1 dropped.2]
      exact identity
    rw [fold_thinned right.operator ((own.append nested).append (.same _ _))]
    unfold format
    rw [formats ⟨left, _⟩ ⟨right, _⟩ thins.operator isRoot rfl]

end Backend

namespace Tree.Embeds

variable {Condition Parameter Result : Type} {backend : Backend Condition Parameter Result}
  {place : Nat → Nat} {thin full : Tree}

/-- A group compiles to the same as the one in its place. -/
theorem agrees (identity : backend.isIdentity backend.identity = true)
    (formats : backend.FormatsByShape) {parameter : Parameter}
    (embeds : Embeds (backend.Drops parameter) place thin full) (wellFormed : thin.WellFormed)
    (fullWellFormed : full.WellFormed) {right : Node} :
    ∀ {i : Nat} {left : Node}, thin.Unfolds i left → full.Unfolds (place i) right →
      backend.Agrees parameter left right := by
  induction right using Node.inductionOn with
  | mk full' rights ih =>
    intro i left unfolds fullUnfolds
    cases left with
    | mk thin' lefts =>
      obtain ⟨thins, links⟩ := embeds.corresponds unfolds.1 fullUnfolds.1
      have isRoot : thin'.isRoot = full'.isRoot := by
        rw [Group.isRoot, Group.isRoot, links, Option.isNone_map]
      exact Backend.agrees_mk identity formats (unfolds.proper wellFormed).2.1
        (fullUnfolds.proper fullWellFormed).2.1 thins isRoot
        (embeds.nodes_thinned wellFormed fullWellFormed unfolds fullUnfolds ih)

/-- A tree compiles to the same as one that it is embedded in. -/
theorem compile_eq (identity : backend.isIdentity backend.identity = true)
    (formats : backend.FormatsByShape) {source name : String}
    (embeds : Embeds (backend.Drops (backend.parameter source name)) place thin full)
    (wellFormed : thin.WellFormed) (fullWellFormed : full.WellFormed) :
    backend.compile thin source name = backend.compile full source name := by
  obtain ⟨left, node, unfolds⟩ := wellFormed.unfolds_node?
  obtain ⟨right, fullNode, fullUnfolds⟩ := fullWellFormed.unfolds_node?
  have same := embeds.agrees identity formats wellFormed fullWellFormed unfolds
    (embeds.root ▸ fullUnfolds)
  rw [backend.compile_eq node (unfolds.proper wellFormed),
    backend.compile_eq fullNode (fullUnfolds.proper fullWellFormed), same.failure, same.condition]

end Tree.Embeds

end RecordFilter
