import RecordFilter.Demo
import RecordFilter.Proofs.Additions
import RecordFilter.Proofs.Pruning
import RecordFilter.Sql.Backend

/-!
# Steps that leave no trace

Steps may be inserted into a run that record nothing: additions of an absent value, and
openings of groups that stay empty.  A run is `Padded` when this is all that happened to
it.  The tree of the shorter run is embedded in that of the longer one, so it compiles to
the same.
-/

namespace RecordFilter

/-! ## Embedded trees that grow -/

namespace Tree.Embeds

variable {drop : Criterion → Prop} {place place' : Nat → Nat} {thin full : Tree}

/-- The same is added to a group and to the one in its place. -/
theorem extend (embeds : Embeds drop place thin full) {id : Nat} (bound : id < thin.groups.length)
    (additions : Additions) : Embeds drop place (thin.modify id (Group.extend additions))
      (full.modify (place id) (Group.extend additions)) := by
  have length : (thin.modify id (Group.extend additions)).groups.length = thin.groups.length := by
    simp [Tree.modify]
  constructor
  case root => exact embeds.root
  case ascending => exact length ▸ embeds.ascending
  case group =>
    intro i left found
    rw [group?_modify] at found
    obtain ⟨before, foundBefore, rfl⟩ := Option.map_eq_some_iff.mp found
    obtain ⟨right, foundRight, thins, links⟩ := embeds.group foundBefore
    refine ⟨if place id = place i then right.extend additions else right,
      by rw [group?_modify, foundRight]; rfl, ?_, ?_⟩
    · by_cases here : id = i
      · rw [if_pos here, if_pos (congrArg place here)]
        exact ⟨thins.operator, thins.criteria.append (.same _ _),
          congrArg (additions.elements.foldl _) thins.collections⟩
      · have elsewhere : place id ≠ place i :=
          fun same => here (embeds.injective bound (group?_isSome foundBefore) same)
        rw [if_neg here, if_neg elsewhere]
        exact thins
    · split <;> split <;> exact links
  case barren =>
    intro j right found unplaced
    rw [length] at unplaced
    rw [group?_modify] at found
    obtain ⟨before, foundBefore, rfl⟩ := Option.map_eq_some_iff.mp found
    rw [if_neg (unplaced id bound)]
    exact embeds.barren foundBefore unplaced

/-- A group is opened in both trees. -/
theorem open_both (embeds : Embeds drop place thin full) (wellFormed : thin.WellFormed)
    {parent : Nat} (bound : parent < thin.groups.length) (operator : GroupOperator)
    (old : ∀ i < thin.groups.length, place' i = place i)
    (new : place' thin.groups.length = full.groups.length) :
    Embeds drop place' (thin.addGroup parent operator) (full.addGroup (place parent) operator) := by
  constructor
  case root => rw [old 0 (Nat.zero_lt_of_lt bound), embeds.root]
  case ascending =>
    intro i j before inside
    rw [length_addGroup, Nat.lt_succ_iff] at inside
    rw [old i (Nat.lt_of_lt_of_le before inside)]
    rcases Nat.lt_or_eq_of_le inside with earlier | rfl
    · rw [old j earlier]
      exact embeds.ascending before earlier
    · rw [new]
      exact embeds.place_lt before
  case group =>
    intro i left found
    by_cases last : i = thin.groups.length
    · subst last
      rw [group?_addGroup_length] at found
      cases found
      refine ⟨.empty full.groups.length operator (some (place parent)), ?_, ⟨rfl, .nil, rfl⟩,
        congrArg some (old parent bound).symm⟩
      rw [new]
      exact group?_addGroup_length full (place parent) operator
    · obtain ⟨before, foundBefore, rfl⟩ := group?_addGroup_of_ne found last
      have inside := group?_isSome foundBefore
      obtain ⟨right, foundRight, thins, links⟩ := embeds.group foundBefore
      refine ⟨_, old i inside ▸ group?_addGroup_of_found foundRight, ?_, ?_⟩
      · split <;> split <;> exact ⟨thins.operator, thins.criteria, thins.collections⟩
      · have parents : before.parent.map place' = before.parent.map place := by
          cases parentEq : before.parent with
          | none => rfl
          | some p =>
            have earlier := wellFormed.parent_lt foundBefore parentEq
            rw [Option.map_some, Option.map_some, old p (Nat.lt_trans earlier inside)]
        rw [← parents] at links
        split <;> split <;> exact links
  case barren =>
    intro j right found unplaced
    simp only [length_addGroup, Nat.lt_succ_iff] at unplaced
    have earlier : j ≠ full.groups.length := fun last =>
      unplaced thin.groups.length (Nat.le_refl _) (new.trans last.symm)
    obtain ⟨before, foundBefore, rfl⟩ := group?_addGroup_of_ne found earlier
    have none := embeds.barren foundBefore fun i inside same =>
      unplaced i (Nat.le_of_lt inside) ((old i inside).trans same)
    split <;> exact none

/-- A group is opened in the larger tree only. -/
theorem open_right (embeds : Embeds drop place thin full) (parent : Nat)
    (operator : GroupOperator) :
    Embeds drop place thin (full.addGroup parent operator) := by
  constructor
  case root => exact embeds.root
  case ascending => exact embeds.ascending
  case group =>
    intro i left found
    obtain ⟨right, foundRight, thins, links⟩ := embeds.group found
    refine ⟨_, group?_addGroup_of_found foundRight, ?_, ?_⟩
    · split <;> exact ⟨thins.operator, thins.criteria, thins.collections⟩
    · split <;> exact links
  case barren =>
    intro j right found unplaced
    by_cases last : j = full.groups.length
    · subst last
      rw [group?_addGroup_length] at found
      cases found
      rfl
    · obtain ⟨before, foundBefore, rfl⟩ := group?_addGroup_of_ne found last
      have none := embeds.barren foundBefore unplaced
      split <;> exact none

end Tree.Embeds

/-! ## Referenced properties -/

theorem Tree.WellFormed.mem_referenced {tree : Tree} (wellFormed : tree.WellFormed)
    {name : String} : name ∈ tree.referenced ↔
      ∃ i group, tree.group? i = some group ∧ name ∈ group.criteria.map (·.property.name) := by
  rw [← (wellFormed.perm_referenced (.refl tree.groups)).mem_iff, List.map_flatMap,
    List.mem_flatMap]
  constructor
  · rintro ⟨group, member, named⟩
    obtain ⟨i, found⟩ := List.mem_iff_getElem?.mp member
    exact ⟨i, group, found, named⟩
  · rintro ⟨i, group, found, named⟩
    exact ⟨group, List.mem_of_getElem? found, named⟩

/-- Groups without a place reference nothing. -/
theorem Tree.Embeds.mem_referenced {place : Nat → Nat} {thin full : Tree}
    (embeds : Embeds (fun _ => False) place thin full) (wellFormed : thin.WellFormed)
    (fullWellFormed : full.WellFormed) {name : String} :
    name ∈ thin.referenced ↔ name ∈ full.referenced := by
  rw [wellFormed.mem_referenced, fullWellFormed.mem_referenced]
  constructor
  · rintro ⟨i, left, found, named⟩
    obtain ⟨right, foundRight, thins, -⟩ := embeds.group found
    exact ⟨place i, right, foundRight, thins.criteria.eq ▸ named⟩
  · rintro ⟨j, right, foundRight, named⟩
    by_cases placed : ∃ i < thin.groups.length, place i = j
    · obtain ⟨i, bound, rfl⟩ := placed
      have found : thin.group? i = some thin.groups[i] := List.getElem?_eq_getElem bound
      obtain ⟨thins, -⟩ := embeds.corresponds found foundRight
      exact ⟨i, _, found, thins.criteria.eq ▸ named⟩
    · have none := embeds.barren foundRight fun i bound same => placed ⟨i, bound, same⟩
      rw [(List.append_eq_nil_iff.mp none).1] at named
      cases named

/-- A step adds the same to both trees. -/
theorem Tree.Embeds.additions_eq {setting : Setting} {place : Nat → Nat} {thin full : Tree}
    (embeds : Embeds (fun _ => False) place thin full) (wellFormed : thin.WellFormed)
    (fullWellFormed : full.WellFormed) (step : Step) :
    step.additions setting thin = step.additions setting full := by
  cases step with
  | wireUnused =>
    have unused : setting.unused thin = setting.unused full := by
      refine List.filter_congr fun property _ => ?_
      rw [Bool.eq_iff_iff]
      simp [embeds.mem_referenced wellFormed fullWellFormed]
    simp only [Step.additions, unused]
  | _ => rfl

/-! ## Padded runs -/

namespace Step

/-- The step in a tree whose groups have the listed positions; a position that is not
    listed becomes one beyond all groups. -/
def relocate (places : List Nat) (beyond : Nat) : Step → Step
  | goTo id => goTo (places.getD id beyond)
  | step => step

/-- The positions of groups after a step, given the number of groups before. -/
def placed (places : List Nat) (size : Nat) (step : Step) : List Nat :=
  if step.opens then places ++ [size] else places

variable {setting : Setting}

theorem opens_relocate (places : List Nat) (beyond : Nat) (step : Step) :
    (step.relocate places beyond).opens = step.opens := by
  cases step <;> rfl

theorem additions_relocate (places : List Nat) (beyond : Nat) (step : Step) (tree : Tree) :
    (step.relocate places beyond).additions setting tree = step.additions setting tree := by
  cases step <;> rfl

/-- A step that does not act on the group of the cursor adds nothing to it. -/
theorem additions_of_actsHere {step : Step} (elsewhere : step.actsHere = false) (tree : Tree) :
    step.additions setting tree = .none := by
  cases step with
  | closeGroup | toRoot | goTo _ | openAtRoot _ => rfl
  | _ => cases elsewhere

/-- There is a position for every group after a step when there was one before. -/
theorem length_placed (places : List Nat) (size : Nat) {step : Step} {b : Building}
    (length : places.length = b.tree.groups.length) :
    (step.placed places size).length = (step.after setting b).tree.groups.length := by
  rw [length_after, placed]
  split <;> simp [length]

end Step

/-- The second run makes the steps of the first and idle ones between them.  A step that
    acts on the group of the cursor comes when both cursors stand on the same group; the
    list has the positions that the groups of the first run have in the second. -/
inductive Padded (setting : Setting) :
    List Nat → Building → Building → List Step → List Step → Prop
  | done {places : List Nat} {b b' : Building} : Padded setting places b b' [] []
  | keep {places : List Nat} {b b' : Building} {step : Step} {steps padded : List Step} :
    (step.actsHere = true → places[b.cursor]? = some b'.cursor) →
      Padded setting (step.placed places b'.tree.groups.length) (step.after setting b)
        ((step.relocate places b'.tree.groups.length).after setting b') steps padded →
      Padded setting places b b' (step :: steps)
        (step.relocate places b'.tree.groups.length :: padded)
  | insert {places : List Nat} {b b' : Building} {step : Step} {steps padded : List Step} :
    step.Idle setting → Padded setting places b (step.after setting b') steps padded →
      Padded setting places b b' steps (step :: padded)

/-- One building stands in another: its groups have the listed positions there, and the
    other groups hold nothing. -/
structure Building.Within (places : List Nat) (b b' : Building) : Prop where
  wellFormed : b.WellFormed
  outer : b'.WellFormed
  length : places.length = b.tree.groups.length
  embeds : Tree.Embeds (fun _ => False) (fun i => places.getD i 0) b.tree b'.tree

namespace Building.Within

variable {setting : Setting} {places : List Nat} {b b' : Building}

theorem start : Within [0] .start .start := by
  have first : ∀ {i group}, Tree.empty.group? i = some group → i = 0 := by
    intro i group found
    have bound : i < 1 := Tree.group?_isSome found
    omega
  refine ⟨wellFormed_start, wellFormed_start, rfl, ?_⟩
  constructor
  case root => rfl
  case ascending =>
    intro i j before bound
    have single : j < 1 := bound
    omega
  case group =>
    intro i left found
    obtain rfl := first found
    refine ⟨left, found, ⟨rfl, .same _ _, rfl⟩, ?_⟩
    cases found
    rfl
  case barren =>
    intro j right found unplaced
    exact absurd (first found).symm (unplaced 0 Nat.zero_lt_one)

/-- A group is opened in both buildings. -/
theorem open_both (within : Within places b b') {parent : Nat}
    (bound : parent < b.tree.groups.length) (operator : GroupOperator) :
    Tree.Embeds (fun _ => False) (fun i => (places ++ [b'.tree.groups.length]).getD i 0)
      (b.tree.addGroup parent operator) (b'.tree.addGroup (places.getD parent 0) operator) := by
  refine within.embeds.open_both within.wellFormed.tree bound operator ?_ ?_
  · intro i inside
    exact List.getD_append _ _ _ _ (within.length ▸ inside)
  · rw [List.getD_append_right _ _ _ _ (by rw [within.length]), within.length, Nat.sub_self]
    rfl

/-- A step that is kept keeps one building within the other. -/
theorem keep (within : Within places b b') (step : Step)
    (aligned : step.actsHere = true → places[b.cursor]? = some b'.cursor) :
    Within (step.placed places b'.tree.groups.length) (step.after setting b)
      ((step.relocate places b'.tree.groups.length).after setting b') := by
  have cursors : step.actsHere = true → places.getD b.cursor 0 = b'.cursor := fun acts => by
    rw [List.getD_eq_getElem?_getD, aligned acts, Option.getD_some]
  have bound := within.wellFormed.cursor
  refine ⟨Step.wellFormed_after within.wellFormed _, Step.wellFormed_after within.outer _, ?_, ?_⟩
  · exact Step.length_placed places _ within.length
  · obtain ⟨operator, rfl⟩ | ⟨operator, rfl⟩ | still := step.cases_opens
    · have opened := within.open_both bound operator
      rwa [cursors rfl] at opened
    · have opened := within.open_both (Nat.zero_lt_of_lt bound) operator
      rwa [within.embeds.root] at opened
    · have same : step.additions setting b.tree = step.additions setting b'.tree :=
        within.embeds.additions_eq within.wellFormed.tree within.outer.tree step
      have relocated : (step.relocate places b'.tree.groups.length).opens = false := by
        rw [Step.opens_relocate, still]
      rw [Step.placed, if_neg (by simp [still])]
      -- a step that acts elsewhere adds nothing, so it does not matter where the cursors stand
      cases acts : step.actsHere with
      | true =>
        rw [Step.tree_after _ _ still, Step.tree_after _ _ relocated, Step.additions_relocate,
          ← same, ← cursors acts]
        exact within.embeds.extend bound _
      | false =>
        have none : ∀ tree, step.additions setting tree = .none := Step.additions_of_actsHere acts
        rw [Step.tree_after_of_none still (none _), Step.tree_after_of_none relocated
          ((Step.additions_relocate ..).trans (none _))]
        exact within.embeds

/-- An idle step in the outer building keeps the other within. -/
theorem insert (within : Within places b b') {step : Step} (idle : step.Idle setting) :
    Within places b (step.after setting b') := by
  refine ⟨within.wellFormed, Step.wellFormed_after within.outer _, within.length, ?_⟩
  obtain ⟨operator, rfl⟩ | ⟨operator, rfl⟩ | still := step.cases_opens
  · exact within.embeds.open_right b'.cursor operator
  · exact within.embeds.open_right 0 operator
  · rw [Step.tree_after_of_none still (idle b'.tree)]
    exact within.embeds

end Building.Within

/-- The building of a run stands in that of a padded run. -/
theorem Padded.within {setting : Setting} {places : List Nat} {b b' : Building}
    {steps padded : List Step} (inserted : Padded setting places b b' steps padded)
    (within : Building.Within places b b') :
    ∃ places', Building.Within places' (Step.run setting steps b) (Step.run setting padded b') := by
  induction inserted with
  | done => exact ⟨_, within⟩
  | keep aligned _ ih => exact ih (within.keep _ aligned)
  | insert idle _ ih => exact ih (within.insert idle)

/-! ## No trace -/

/-- The SQL backend formats a group by its shape. -/
theorem Sql.Config.formatsByShape (config : Sql.Config) : config.backend.FormatsByShape := by
  intro left right _ isRoot terms
  funext condition
  simp only [backend, formatGroup, isRoot, terms]

namespace Backend

variable {Condition Parameter Result : Type}

/-- What holds no criterion, drops out or records nothing leaves no trace.  A built tree
    compiles to the same when it is pruned, which loses no criterion and leaves no barren
    group but the root; when own criteria whose comparisons are the identity are taken out;
    and when idle steps are inserted into its run. -/
theorem compile_leaves_no_trace (backend : Backend Condition Parameter Result)
    (identity : backend.isIdentity backend.identity = true) (formats : backend.FormatsByShape)
    (setting : Setting) (steps : List Step) (source name : String) :
    let tree := setting.built steps
    let drops := backend.Drops (backend.parameter source name)
    (tree.prune.groups.flatMap Group.recorded = tree.groups.flatMap Group.recorded ∧
      (∀ id < tree.prune.groups.length, tree.prune.isBarren id = true → id = 0) ∧
      backend.compile tree.prune source name = backend.compile tree source name) ∧
    (∀ thin, Tree.Thins drops thin tree →
      backend.compile thin source name = backend.compile tree source name ∧
        backend.compile thin.prune source name = backend.compile tree source name) ∧
    ∀ padded, Padded setting [0] .start .start steps padded →
      backend.compile (setting.built padded) source name = backend.compile tree source name := by
  intro tree drops
  have wellFormed : tree.WellFormed := setting.wellFormed_built steps
  have pruned : ∀ {tree : Tree}, tree.WellFormed →
      backend.compile tree.prune source name = backend.compile tree source name :=
    fun wellFormed =>
      (wellFormed.embeds_prune drops).compile_eq identity formats wellFormed.prune wellFormed
  refine ⟨⟨wellFormed.recorded_prune, fun _ => wellFormed.isBarren_prune, pruned wellFormed⟩,
    ?_, ?_⟩
  · intro thin thins
    have thinWellFormed := thins.wellFormed wellFormed
    have same := thins.embeds.compile_eq identity formats thinWellFormed wellFormed
    exact ⟨same, (pruned thinWellFormed).trans same⟩
  · intro padded inserted
    obtain ⟨places, within⟩ := inserted.within .start
    have embeds := within.embeds.weaken drops
    exact (embeds.compile_eq identity formats wellFormed (setting.wellFormed_built padded)).symm

/-- A query that is built with and without a group that stays empty. -/
theorem compile_leaves_no_trace_query :
    let backend := Sql.Config.default.backend
    let logins : Collection := ⟨"User", "Logins", "Login", fun _ => []⟩
    let email : Step := .add (.named "Email") (.given (.text "x")) .equal
    let steps := [.openGroup .or, email, .openAtRoot .and, .goTo 1,
      .add (.named "Id") (.given (.int 7)) .greaterThan]
    let padded := [.add (.named "Id") (.given .null) .equal, .openGroup .or,
      .addElement logins Demo.login.schema (.named "LoginValue") (.given .null) .equal,
      .closeGroup, .openGroup .or, email, .openAtRoot .and, .goTo 2,
      .add (.named "Id") (.given (.int 7)) .greaterThan]
    let text := "(u.Email = 'x' OR u.Id > 7)"
    backend.compile (Demo.setting.built steps) "User" "u" = .ok text ∧
      backend.compile (Demo.setting.built steps).prune "User" "u" = .ok text ∧
      backend.compile (Demo.setting.built padded) "User" "u" = .ok text := by
  intro backend logins email steps padded text
  have compiled : backend.compile (Demo.setting.built steps) "User" "u" = .ok text := by
    dsimp only [backend, steps, email, text]
    decide +kernel
  have inserted : Padded Demo.setting [0] .start .start steps padded :=
    .insert (Step.idle_add rfl) (.insert (Step.idle_openGroup .or)
      (.insert (Step.idle_addElement rfl) (.insert (fun _ => rfl)
        (.keep (fun _ => rfl) (.keep (fun _ => rfl) (.keep (fun _ => rfl) (.keep (fun _ => rfl)
          (.keep (fun _ => rfl) .done))))))))
  obtain ⟨⟨-, -, pruned⟩, -, unpadded⟩ := compile_leaves_no_trace backend rfl
    (Sql.Config.formatsByShape _) Demo.setting steps "User" "u"
  exact ⟨compiled, pruned.trans compiled, (unpadded padded inserted).trans compiled⟩

end Backend

end RecordFilter
