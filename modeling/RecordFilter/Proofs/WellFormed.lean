import RecordFilter.Proofs.Outcome
import RecordFilter.Tree.Building

/-!
# Well-formed trees

Groups name their parent and list their children, and the two have to agree.  A
`WellFormed` tree is one in which they do, in which parents stand before their
children, and in which every recorded criterion was checked.  Building starts with
such a tree and every step keeps it so, hence every run of steps does.
-/

namespace RecordFilter

/-- A criterion as `Criterion.make` admits it. -/
structure Criterion.Checked (criterion : Criterion) : Prop where
  present : criterion.value.isNull = false
  accepted : criterion.operator.accepts criterion.property.kind criterion.value = .ok ()

/-- What is made is the criterion itself, when the value is present and accepted. -/
theorem Criterion.make_eq_some {property : Property} {value : Value} {operator : Operator}
    {criterion : Criterion} : make property value operator = .ok (some criterion) ↔
      value.isNull = false ∧ operator.accepts property.kind value = .ok () ∧
        criterion = ⟨property, value, operator⟩ := by
  rw [make]
  split
  · rename_i absent
    simp [absent]
  · rename_i present
    split
    · rename_i accepted
      simp [present, accepted, eq_comm]
    · rename_i refused
      simp [refused]

theorem Criterion.checked_of_make {property : Property} {value : Value} {operator : Operator}
    {criterion : Criterion} (made : make property value operator = .ok (some criterion)) :
    criterion.Checked := by
  obtain ⟨present, accepted, rfl⟩ := make_eq_some.mp made
  exact ⟨present, accepted⟩

/-! ## Groups -/

namespace CollectionCriteria

/-- Inserting into entries adds the new criterion and loses none. -/
theorem mem_criteria_insert {collection : Collection} {criterion other : Criterion}
    {entries : List CollectionCriteria} :
    other ∈ (insert collection criterion entries).flatMap (·.criteria) ↔
      other ∈ entries.flatMap (·.criteria) ∨ other = criterion := by
  induction entries with
  | nil => simp [insert]
  | cons entry rest ih =>
    simp only [insert]
    split
    · simp only [List.flatMap_cons, List.mem_append, List.mem_singleton]
      exact or_right_comm
    · simp only [List.flatMap_cons, List.mem_append, ih]
      exact or_assoc.symm

/-- An entry that was inserted into holds a criterion. -/
theorem criteria_ne_nil_of_mem_insert {collection : Collection} {criterion : Criterion}
    {entries : List CollectionCriteria} (inhabited : ∀ entry ∈ entries, entry.criteria ≠ []) :
    ∀ entry ∈ insert collection criterion entries, entry.criteria ≠ [] := by
  induction entries with
  | nil => simp [insert]
  | cons first rest ih =>
    intro entry member
    simp only [insert] at member
    split at member
    · rcases List.mem_cons.mp member with rfl | later
      · simp
      · exact inhabited entry (List.mem_cons_of_mem _ later)
    · rcases List.mem_cons.mp member with rfl | later
      · exact inhabited entry List.mem_cons_self
      · exact ih (fun e m => inhabited e (List.mem_cons_of_mem _ m)) entry later

/-- Inserting keeps the names of the entries; a new name comes last. -/
theorem names_insert (collection : Collection) (criterion : Criterion)
    (entries : List CollectionCriteria) :
    (insert collection criterion entries).map (·.collection.name) =
      if collection.name ∈ entries.map (·.collection.name) then
        entries.map (·.collection.name)
      else entries.map (·.collection.name) ++ [collection.name] := by
  induction entries with
  | nil => simp [insert]
  | cons entry rest ih =>
    by_cases same : entry.collection.name = collection.name
    · simp [insert, same]
    · simp only [insert, if_neg same, List.map_cons, ih, List.mem_cons, Ne.symm same, false_or]
      split <;> simp

/-- Inserting gives no name a second entry. -/
theorem nodup_insert {collection : Collection} {criterion : Criterion}
    {entries : List CollectionCriteria} (distinct : (entries.map (·.collection.name)).Nodup) :
    ((insert collection criterion entries).map (·.collection.name)).Nodup := by
  rw [names_insert]
  split
  · exact distinct
  · rename_i fresh
    refine List.nodup_append.mpr ⟨distinct, by simp, ?_⟩
    intro name member other single equal
    exact fresh (List.mem_singleton.mp single ▸ equal ▸ member)

end CollectionCriteria

namespace Group

/-- The criteria a group holds itself: its own, then those on elements. -/
def recorded (group : Group) : List Criterion :=
  group.criteria ++ group.collections.flatMap (·.criteria)

/-- What a group holds is checked, and each collection has one entry that is not
    empty. -/
structure Sound (group : Group) : Prop where
  checked : ∀ criterion ∈ group.recorded, criterion.Checked
  inhabited : ∀ entry ∈ group.collections, entry.criteria ≠ []
  distinct : (group.collections.map (·.collection.name)).Nodup

/-- Two groups stand at the same place of a tree. -/
structure SameLinks (left right : Group) : Prop where
  id : right.id = left.id
  operator : right.operator = left.operator
  children : right.children = left.children
  parent : right.parent = left.parent

theorem sound_empty (id : Nat) (operator : GroupOperator) (parent : Option Nat) :
    (empty id operator parent).Sound :=
  ⟨by simp [recorded, empty], by simp [empty], by simp [empty]⟩

theorem Sound.addChild {group : Group} (sound : group.Sound) (child : Nat) :
    (group.addChild child).Sound :=
  ⟨sound.checked, sound.inhabited, sound.distinct⟩

theorem Sound.addCriterion {group : Group} {criterion : Criterion} (sound : group.Sound)
    (checked : criterion.Checked) : (group.addCriterion criterion).Sound := by
  refine ⟨?_, sound.inhabited, sound.distinct⟩
  intro other member
  simp only [recorded, Group.addCriterion, List.mem_append, List.mem_singleton] at member
  rcases member with (own | rfl) | element
  · exact sound.checked other (List.mem_append_left _ own)
  · exact checked
  · exact sound.checked other (List.mem_append_right _ element)

theorem Sound.addElementCriterion {group : Group} {collection : Collection}
    {criterion : Criterion} (sound : group.Sound) (checked : criterion.Checked) :
    (group.addElementCriterion collection criterion).Sound := by
  refine ⟨?_, CollectionCriteria.criteria_ne_nil_of_mem_insert sound.inhabited,
    CollectionCriteria.nodup_insert sound.distinct⟩
  intro other member
  simp only [recorded, Group.addElementCriterion, List.mem_append,
    CollectionCriteria.mem_criteria_insert] at member
  rcases member with own | element | rfl
  · exact sound.checked other (List.mem_append_left _ own)
  · exact sound.checked other (List.mem_append_right _ element)
  · exact checked

/-- Adding criteria one after the other keeps a group sound and in its place. -/
theorem addCriteria_spec {group : Group} {criteria : List Criterion} (sound : group.Sound)
    (checked : ∀ criterion ∈ criteria, criterion.Checked) :
    (criteria.foldl (fun group c => group.addCriterion c) group).Sound ∧
      group.SameLinks (criteria.foldl (fun group c => group.addCriterion c) group) := by
  induction criteria generalizing group with
  | nil => exact ⟨sound, rfl, rfl, rfl, rfl⟩
  | cons criterion rest ih =>
    have step := ih (sound.addCriterion (checked criterion List.mem_cons_self))
      (fun c member => checked c (List.mem_cons_of_mem _ member))
    exact ⟨step.1, step.2.id, step.2.operator, step.2.children, step.2.parent⟩

end Group

/-! ## Trees -/

namespace Tree

/-- Parent and child links agree, parents stand before their children, only the
    first group has none, and every group is sound. -/
structure WellFormed (tree : Tree) : Prop where
  nonempty : tree.groups ≠ []
  id_eq : ∀ {i group}, tree.group? i = some group → group.id = i
  parent_none : ∀ {i group}, tree.group? i = some group → (group.parent = none ↔ i = 0)
  parent_lt : ∀ {i group p}, tree.group? i = some group → group.parent = some p → p < i
  mem_children : ∀ {i group}, tree.group? i = some group → ∀ j,
    j ∈ group.children ↔ ∃ child, tree.group? j = some child ∧ child.parent = some i
  ascending : ∀ {i group}, tree.group? i = some group → group.children.Pairwise (· < ·)
  sound : ∀ {i group}, tree.group? i = some group → group.Sound

theorem group?_modify (tree : Tree) (id : Nat) (change : Group → Group) (i : Nat) :
    (tree.modify id change).group? i =
      (tree.group? i).map fun group => if id = i then change group else group := by
  simp only [group?, modify, List.getElem?_modify]
  rfl

theorem group?_isSome {tree : Tree} {i : Nat} {group : Group} (found : tree.group? i = some group) :
    i < tree.groups.length := by
  obtain ⟨bound, -⟩ := List.getElem?_eq_some_iff.mp found
  exact bound

theorem exists_group {tree : Tree} {i : Nat} (bound : i < tree.groups.length) :
    ∃ group, tree.group? i = some group :=
  ⟨_, List.getElem?_eq_getElem bound⟩

theorem wellFormed_empty : empty.WellFormed := by
  have only : ∀ {i group}, empty.group? i = some group → i = 0 ∧ group = .empty 0 .and none := by
    intro i group found
    cases i with
    | zero => exact ⟨rfl, (Option.some.inj found).symm⟩
    | succ i => simp [group?, empty] at found
  refine ⟨by simp [empty], ?_, ?_, ?_, ?_, ?_, ?_⟩
  · intro i group found
    obtain ⟨rfl, rfl⟩ := only found
    rfl
  · intro i group found
    obtain ⟨rfl, rfl⟩ := only found
    simp [Group.empty]
  · intro i group p found parent
    obtain ⟨rfl, rfl⟩ := only found
    simp [Group.empty] at parent
  · intro i group found j
    obtain ⟨rfl, rfl⟩ := only found
    simp only [Group.empty, List.not_mem_nil, false_iff]
    rintro ⟨child, childFound, parent⟩
    obtain ⟨rfl, rfl⟩ := only childFound
    simp [Group.empty] at parent
  · intro i group found
    obtain ⟨rfl, rfl⟩ := only found
    simp [Group.empty]
  · intro i group found
    obtain ⟨rfl, rfl⟩ := only found
    exact Group.sound_empty _ _ _

/-- Changing what one group holds, but none of its links, keeps a tree well formed. -/
theorem WellFormed.modify {tree : Tree} (wellFormed : tree.WellFormed) (id : Nat)
    {change : Group → Group} (keeps : ∀ {group}, tree.group? id = some group → group.Sound →
      (change group).Sound ∧ group.SameLinks (change group)) :
    (tree.modify id change).WellFormed := by
  have back : ∀ {i group}, (tree.modify id change).group? i = some group →
      ∃ before, tree.group? i = some before ∧ before.SameLinks group ∧ group.Sound := by
    intro i group found
    rw [group?_modify] at found
    obtain ⟨before, foundBefore, rfl⟩ := Option.map_eq_some_iff.mp found
    have soundBefore := wellFormed.sound foundBefore
    refine ⟨before, foundBefore, ?_⟩
    split
    · rename_i here
      subst here
      exact (keeps foundBefore soundBefore).symm
    · exact ⟨⟨rfl, rfl, rfl, rfl⟩, soundBefore⟩
  have forth : ∀ {i before}, tree.group? i = some before →
      ∃ group, (tree.modify id change).group? i = some group ∧ before.SameLinks group := by
    intro i before found
    obtain ⟨group, foundAfter⟩ : ∃ group, (tree.modify id change).group? i = some group :=
      ⟨_, by rw [group?_modify, found]; rfl⟩
    obtain ⟨before', found', links, -⟩ := back foundAfter
    rw [found] at found'
    exact ⟨group, foundAfter, Option.some.inj found' ▸ links⟩
  refine ⟨?_, ?_, ?_, ?_, ?_, ?_, ?_⟩
  · intro none
    have lengths : (tree.modify id change).groups.length = tree.groups.length := by
      simp [Tree.modify]
    rw [none] at lengths
    exact wellFormed.nonempty (List.length_eq_zero_iff.mp lengths.symm)
  · intro i group found
    obtain ⟨before, foundBefore, links, -⟩ := back found
    rw [links.id, wellFormed.id_eq foundBefore]
  · intro i group found
    obtain ⟨before, foundBefore, links, -⟩ := back found
    rw [links.parent]
    exact wellFormed.parent_none foundBefore
  · intro i group p found parent
    obtain ⟨before, foundBefore, links, -⟩ := back found
    rw [links.parent] at parent
    exact wellFormed.parent_lt foundBefore parent
  · intro i group found j
    obtain ⟨before, foundBefore, links, -⟩ := back found
    rw [links.children, wellFormed.mem_children foundBefore]
    constructor
    · rintro ⟨child, childFound, parent⟩
      obtain ⟨child', childFound', childLinks⟩ := forth childFound
      exact ⟨child', childFound', childLinks.parent.trans parent⟩
    · rintro ⟨child', childFound', parent⟩
      obtain ⟨child, childFound, childLinks, -⟩ := back childFound'
      exact ⟨child, childFound, childLinks.parent.symm.trans parent⟩
  · intro i group found
    obtain ⟨before, foundBefore, links, -⟩ := back found
    rw [links.children]
    exact wellFormed.ascending foundBefore
  · intro i group found
    obtain ⟨before, foundBefore, -, sound⟩ := back found
    exact sound

theorem group?_addGroup (tree : Tree) (parent : Nat) (operator : GroupOperator) (i : Nat) :
    (tree.addGroup parent operator).group? i =
      if i = tree.groups.length then some (.empty i operator (some parent))
      else (tree.modify parent (Group.addChild tree.groups.length)).group? i := by
  simp only [group?, addGroup, modify, List.getElem?_append, List.length_modify]
  split
  · rename_i before
    rw [if_neg (Nat.ne_of_lt before)]
  · rename_i after
    split
    · rename_i last
      simp [last]
    · rename_i notLast
      rw [List.getElem?_eq_none (by simp; omega), List.getElem?_eq_none (by simp; omega)]

/-- A group before the new one is as it was, except that the parent lists the new
    one last. -/
theorem group?_addGroup_of_ne {tree : Tree} {parent : Nat} {operator : GroupOperator} {i : Nat}
    {group : Group} (found : (tree.addGroup parent operator).group? i = some group)
    (old : i ≠ tree.groups.length) :
    ∃ before, tree.group? i = some before ∧
      group = if parent = i then before.addChild tree.groups.length else before := by
  rw [group?_addGroup, if_neg old, group?_modify] at found
  obtain ⟨before, foundBefore, equal⟩ := Option.map_eq_some_iff.mp found
  exact ⟨before, foundBefore, equal.symm⟩

theorem group?_addGroup_length (tree : Tree) (parent : Nat) (operator : GroupOperator) :
    (tree.addGroup parent operator).group? tree.groups.length =
      some (.empty tree.groups.length operator (some parent)) := by
  rw [group?_addGroup, if_pos rfl]

theorem length_addGroup (tree : Tree) (parent : Nat) (operator : GroupOperator) :
    (tree.addGroup parent operator).groups.length = tree.groups.length + 1 := by
  simp [addGroup]

theorem group?_addGroup_of_found {tree : Tree} {parent i : Nat} {operator : GroupOperator}
    {group : Group} (found : tree.group? i = some group) :
    (tree.addGroup parent operator).group? i =
      some (if parent = i then group.addChild tree.groups.length else group) := by
  rw [group?_addGroup, if_neg (Nat.ne_of_lt (group?_isSome found)), group?_modify, found]
  rfl

/-- A child of a group of the tree is a group of the tree. -/
theorem WellFormed.child_lt {tree : Tree} (wellFormed : tree.WellFormed) {i j : Nat}
    {group : Group} (found : tree.group? i = some group) (member : j ∈ group.children) :
    i < j ∧ j < tree.groups.length := by
  obtain ⟨child, childFound, parent⟩ := (wellFormed.mem_children found j).mp member
  exact ⟨wellFormed.parent_lt childFound parent, group?_isSome childFound⟩

/-- Opening a group under a group of the tree keeps the tree well formed. -/
theorem WellFormed.addGroup {tree : Tree} (wellFormed : tree.WellFormed) {parent : Nat}
    (bound : parent < tree.groups.length) (operator : GroupOperator) :
    (tree.addGroup parent operator).WellFormed := by
  have fresh := group?_addGroup_length tree parent operator
  refine ⟨by simp [Tree.addGroup], ?_, ?_, ?_, ?_, ?_, ?_⟩
  · intro i group found
    by_cases last : i = tree.groups.length
    · subst last
      rw [fresh] at found
      cases found
      rfl
    · obtain ⟨before, foundBefore, rfl⟩ := group?_addGroup_of_ne found last
      have same := wellFormed.id_eq foundBefore
      split <;> exact same
  · intro i group found
    by_cases last : i = tree.groups.length
    · subst last
      rw [fresh] at found
      cases found
      simpa [Group.empty] using wellFormed.nonempty
    · obtain ⟨before, foundBefore, rfl⟩ := group?_addGroup_of_ne found last
      have same := wellFormed.parent_none foundBefore
      split <;> exact same
  · intro i group p found parentEq
    by_cases last : i = tree.groups.length
    · subst last
      rw [fresh] at found
      cases found
      cases parentEq
      exact bound
    · obtain ⟨before, foundBefore, rfl⟩ := group?_addGroup_of_ne found last
      apply wellFormed.parent_lt foundBefore
      split at parentEq <;> exact parentEq
  · intro i group found j
    -- the new group is nobody's parent, and the only new link leads to it
    have links : (∃ child, (tree.addGroup parent operator).group? j = some child ∧
        child.parent = some i) ↔
        (∃ child, tree.group? j = some child ∧ child.parent = some i) ∨
          (j = tree.groups.length ∧ i = parent) := by
      constructor
      · rintro ⟨child, childFound, parentEq⟩
        by_cases last : j = tree.groups.length
        · subst last
          rw [fresh] at childFound
          cases childFound
          cases parentEq
          exact .inr ⟨rfl, rfl⟩
        · obtain ⟨before, foundBefore, rfl⟩ := group?_addGroup_of_ne childFound last
          refine .inl ⟨before, foundBefore, ?_⟩
          split at parentEq <;> exact parentEq
      · rintro (⟨before, foundBefore, parentEq⟩ | ⟨rfl, rfl⟩)
        · refine ⟨_, group?_addGroup_of_found foundBefore, ?_⟩
          split <;> exact parentEq
        · exact ⟨_, fresh, rfl⟩
    rw [links]
    by_cases last : i = tree.groups.length
    · subst last
      rw [fresh] at found
      cases found
      simp only [Group.empty, List.not_mem_nil, false_iff, not_or]
      refine ⟨?_, fun equal => Nat.ne_of_lt bound equal.2.symm⟩
      rintro ⟨child, childFound, parentEq⟩
      exact Nat.lt_asymm (wellFormed.parent_lt childFound parentEq) (group?_isSome childFound)
    · obtain ⟨before, foundBefore, rfl⟩ := group?_addGroup_of_ne found last
      rw [← wellFormed.mem_children foundBefore]
      split
      · rename_i here
        simp [Group.addChild, here]
      · rename_i elsewhere
        simp [Ne.symm elsewhere]
  · intro i group found
    by_cases last : i = tree.groups.length
    · subst last
      rw [fresh] at found
      cases found
      simp [Group.empty]
    · obtain ⟨before, foundBefore, rfl⟩ := group?_addGroup_of_ne found last
      have ascending := wellFormed.ascending foundBefore
      split
      · refine List.pairwise_append.mpr ⟨ascending, List.pairwise_singleton _ _, ?_⟩
        intro child member other single
        rw [List.mem_singleton.mp single]
        exact (wellFormed.child_lt foundBefore member).2
      · exact ascending
  · intro i group found
    by_cases last : i = tree.groups.length
    · subst last
      rw [fresh] at found
      cases found
      exact Group.sound_empty _ _ _
    · obtain ⟨before, foundBefore, rfl⟩ := group?_addGroup_of_ne found last
      have sound := wellFormed.sound foundBefore
      split
      · exact sound.addChild _
      · exact sound

end Tree

/-! ## Steps and runs -/

/-- A well-formed tree with the cursor on one of its groups. -/
structure Building.WellFormed (b : Building) : Prop where
  tree : b.tree.WellFormed
  cursor : b.cursor < b.tree.groups.length

namespace Building

theorem wellFormed_start : start.WellFormed :=
  ⟨Tree.wellFormed_empty, by simp [start, Tree.empty]⟩

/-- Changing what the cursor's group holds keeps a building well formed. -/
theorem WellFormed.change {b : Building} (wellFormed : b.WellFormed) {f : Group → Group}
    (keeps : ∀ {group}, group.Sound → (f group).Sound ∧ group.SameLinks (f group)) :
    (b.change f).WellFormed :=
  ⟨wellFormed.tree.modify b.cursor fun _ sound => keeps sound, by
    simpa [Building.change, Tree.modify] using wellFormed.cursor⟩

theorem WellFormed.openGroup {b : Building} (wellFormed : b.WellFormed)
    (operator : GroupOperator) : (b.openGroup operator).1.WellFormed :=
  ⟨wellFormed.tree.addGroup wellFormed.cursor operator, by
    simp [Building.openGroup, Tree.addGroup]⟩

theorem WellFormed.toRoot {b : Building} (wellFormed : b.WellFormed) :
    ({ b with cursor := 0 } : Building).WellFormed :=
  ⟨wellFormed.tree, List.length_pos_iff.mpr wellFormed.tree.nonempty⟩

theorem WellFormed.closeGroup {b : Building} (wellFormed : b.WellFormed) :
    b.closeGroup.1.WellFormed := by
  refine ⟨wellFormed.tree, ?_⟩
  simp only [Building.closeGroup, current?]
  cases found : b.tree.group? b.cursor with
  | none => exact wellFormed.cursor
  | some group =>
    cases parent : group.parent with
    | none => simpa [parent] using wellFormed.cursor
    | some p =>
      have before := wellFormed.tree.parent_lt found parent
      simpa [parent] using Nat.lt_trans before wellFormed.cursor

theorem WellFormed.addCriterion {b b' : Building} {property : Property} {value : Value}
    {operator : Operator} {events : List Event} (wellFormed : b.WellFormed)
    (added : b.addCriterion property value operator = .ok (b', events)) : b'.WellFormed := by
  simp only [Building.addCriterion] at added
  cases made : Criterion.make property value operator with
  | error e => rw [made] at added; cases added
  | ok criterion? =>
    rw [made] at added
    cases criterion? with
    | none => cases added; exact wellFormed
    | some criterion =>
      cases added
      have checked := Criterion.checked_of_make made
      exact wellFormed.change fun sound => ⟨sound.addCriterion checked, rfl, rfl, rfl, rfl⟩

theorem WellFormed.addElementCriterion {b b' : Building} {collection : Collection}
    {property : Property} {value : Value} {operator : Operator} {events : List Event}
    (wellFormed : b.WellFormed)
    (added : b.addElementCriterion collection property value operator = .ok (b', events)) :
    b'.WellFormed := by
  simp only [Building.addElementCriterion] at added
  cases made : Criterion.make property value operator with
  | error e => rw [made] at added; cases added
  | ok criterion? =>
    rw [made] at added
    cases criterion? with
    | none => cases added; exact wellFormed
    | some criterion =>
      cases added
      have checked := Criterion.checked_of_make made
      exact wellFormed.change fun sound =>
        ⟨sound.addElementCriterion checked, rfl, rfl, rfl, rfl⟩

end Building

namespace Setting

/-- What wiring adds was checked. -/
theorem checked_of_wireOne {setting : Setting} {property : Property} {criterion : Criterion}
    (wired : setting.wireOne property = some (.ok criterion)) : criterion.Checked := by
  simp only [wireOne] at wired
  split at wired
  · cases wired
  · split at wired
    · rename_i criterion? made
      cases criterion? with
      | none => cases wired
      | some c =>
        cases wired
        exact Criterion.checked_of_make made
    · cases wired

theorem wellFormed_wire {setting : Setting} {b : Building} (wellFormed : b.WellFormed)
    (properties : List Property) : (setting.wire b properties).1.WellFormed := by
  refine wellFormed.change fun sound => Group.addCriteria_spec sound ?_
  intro criterion member
  obtain ⟨outcome, outcomeMember, chosen⟩ := List.mem_filterMap.mp member
  obtain ⟨property, -, wired⟩ := List.mem_filterMap.mp outcomeMember
  cases outcome with
  | ok c =>
    cases chosen
    exact checked_of_wireOne wired
  | error e => cases chosen

end Setting

namespace Step

/-- A step that succeeds keeps a building well formed. -/
theorem wellFormed_apply {setting : Setting} {step : Step} {b b' : Building}
    {events : List Event} (wellFormed : b.WellFormed)
    (applied : step.apply setting b = .ok (b', events)) : b'.WellFormed := by
  cases step with
  | add choice value operator =>
    obtain ⟨property, -, added⟩ := Except.bind_eq_ok.mp applied
    exact wellFormed.addCriterion added
  | addElement collection element choice value operator =>
    obtain ⟨property, -, added⟩ := Except.bind_eq_ok.mp applied
    exact wellFormed.addElementCriterion added
  | openGroup operator =>
    cases applied
    exact wellFormed.openGroup operator
  | closeGroup =>
    cases applied
    exact wellFormed.closeGroup
  | toRoot =>
    cases applied
    exact wellFormed.toRoot
  | goTo id =>
    cases applied
    split
    · rename_i bound
      exact ⟨wellFormed.tree, bound⟩
    · exact wellFormed
  | openAtRoot operator =>
    cases applied
    exact wellFormed.toRoot.openGroup operator
  | wire properties =>
    cases applied
    exact Setting.wellFormed_wire wellFormed _
  | wireAll =>
    cases applied
    exact Setting.wellFormed_wire wellFormed _
  | wireUnused =>
    cases applied
    exact Setting.wellFormed_wire wellFormed _
  | wireNames names =>
    obtain ⟨properties, -, wired⟩ := Except.map_eq_ok.mp applied
    cases wired
    exact Setting.wellFormed_wire wellFormed _

theorem wellFormed_after {setting : Setting} {b : Building} (wellFormed : b.WellFormed)
    (step : Step) : (step.after setting b).WellFormed := by
  unfold after
  split
  · rename_i applied
    exact wellFormed_apply wellFormed applied
  · exact wellFormed

/-- Runs keep a building well formed. -/
theorem wellFormed_run {setting : Setting} {b : Building} (wellFormed : b.WellFormed)
    (steps : List Step) : (run setting steps b).WellFormed := by
  induction steps generalizing b with
  | nil => exact wellFormed
  | cons step rest ih => exact ih (wellFormed_after wellFormed step)

end Step

/-- The tree that steps build from the empty tree. -/
def Setting.built (setting : Setting) (steps : List Step) : Tree :=
  (Step.run setting steps .start).tree

theorem Setting.wellFormed_built (setting : Setting) (steps : List Step) :
    (setting.built steps).WellFormed :=
  (Step.wellFormed_run Building.wellFormed_start steps).tree

end RecordFilter
