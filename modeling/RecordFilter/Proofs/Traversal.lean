import RecordFilter.Proofs.Compilation.Calls

/-!
# Walks over built trees

Building keeps parent and child links in two places.  `Step.run_traversable` says that
they agree after every run of steps, and what rests on it: each group has one path from
the root, and the two walks over a tree, the compiler's descent and the search for
referenced properties, end after meeting each group once.
-/

namespace RecordFilter

/-- An entry is found under the name of its collection. -/
theorem Group.Sound.collection?_name {group : Group} (sound : group.Sound)
    {entry : CollectionCriteria} (member : entry ∈ group.collections) :
    group.collection? entry.collection.name = some entry := by
  exact find?_of_nodup sound.distinct member

namespace Tree

variable {tree : Tree}

/-- A group lists a position once when its group has it as parent, and otherwise never. -/
theorem WellFormed.count_children (wellFormed : tree.WellFormed) {i : Nat} {group : Group}
    (found : tree.group? i = some group) (j : Nat) :
    group.children.count j ≤ 1 ∧ (group.children.count j = 1 ↔
      ∃ child, tree.group? j = some child ∧ child.parent = some i) := by
  have distinct : group.children.Nodup :=
    (wellFormed.ascending found).imp fun before => Nat.ne_of_lt before
  refine ⟨List.nodup_iff_count_le_one.mp distinct j, ?_⟩
  rw [← wellFormed.mem_children found j]
  constructor
  · intro once
    exact List.count_pos_iff.mp (by omega)
  · intro member
    exact List.count_eq_one_of_mem distinct member

/-- The compiler's descent over a well-formed tree looks groups up in one fixed order
    and stops early only when a comparison fails. -/
theorem WellFormed.lookUp?_walk {Condition Parameter Result : Type}
    (backend : Backend Condition Parameter Result) (wellFormed : tree.WellFormed) {root : Node}
    (unfolds : tree.Unfolds 0 root) (parameter : Parameter) (spare : Nat) :
    let run := backend.walk tree parameter (tree.groups.length + spare) 0
    run.calls.filterMap Call.lookUp? <+: root.groups.map Group.id ∧
      ((∃ condition, run.result = .ok condition) →
        run.calls.filterMap Call.lookUp? = root.groups.map Group.id) := by
  intro run
  have played : run = .play backend.callFails _ _ := backend.walk_root wellFormed unfolds parameter
    spare
  rw [← backend.lookUp?_script parameter (unfolds.proper wellFormed), played]
  refine ⟨(isPrefix_upToFailure _ _).filterMap Call.lookUp?, ?_⟩
  rintro ⟨condition, succeeded⟩
  rw [Recorded.play, upToFailure_of_none (outcome_eq_ok.mp succeeded).1]

end Tree

/-- After every run of steps the cursor stands on a group, parent and child links agree,
    what is recorded was checked, and each group has one path from the root.  Hence both
    walks over the tree end without missing a group: the search for properties takes
    each group up once, and so does compiling when no comparison fails. -/
theorem Step.run_traversable (setting : Setting) (steps : List Step) :
    let b := run setting steps .start
    let size := b.tree.groups.length
    b.WellFormed ∧
      (∀ i group, b.tree.group? i = some group →
        (∀ j, group.children.count j ≤ 1 ∧ (group.children.count j = 1 ↔
          ∃ child, b.tree.group? j = some child ∧ child.parent = some i)) ∧
        ∀ entry ∈ group.collections, group.collection? entry.collection.name = some entry) ∧
      (∀ id < size, ∃! path, b.tree.IsPath path id) ∧
      (∀ spare, ∃ taken, b.tree.drain (size + spare) [0] = some taken ∧
        taken.Perm b.tree.groups ∧
        ((taken.flatMap Group.criteria).map (·.property.name)).Perm b.tree.referenced) ∧
      ∀ {Condition Parameter Result : Type} (backend : Backend Condition Parameter Result)
        (parameter : Parameter) (spare : Nat),
        let walk := backend.walk b.tree parameter (size + spare) 0
        let met := walk.calls.filterMap Call.lookUp?
        walk.result = (backend.compileRoot b.tree parameter).mapError .failed ∧
          (∀ id ∈ met, ∃ group, b.tree.group? id = some group) ∧ met.Nodup ∧
          ((∃ condition, walk.result = .ok condition) → met.Perm (List.range size)) := by
  intro b size
  have wellFormed : b.WellFormed := wellFormed_run Building.wellFormed_start steps
  obtain ⟨root, -, unfolds⟩ := wellFormed.tree.unfolds_node?
  refine ⟨wellFormed, ?_, ?_, ?_, ?_⟩
  · intro i group found
    exact ⟨wellFormed.tree.count_children found,
      fun entry member => (wellFormed.tree.sound found).collection?_name member⟩
  · intro id bound
    exact wellFormed.tree.existsUnique_path bound
  · intro spare
    obtain ⟨taken, drained, each⟩ := wellFormed.tree.drain_root (Nat.le_add_right size spare)
    exact ⟨taken, drained, each, wellFormed.tree.perm_referenced each⟩
  · intro _ _ _ backend parameter spare walk met
    have order := wellFormed.tree.perm_ids unfolds
    obtain ⟨early, complete⟩ := wellFormed.tree.lookUp?_walk backend unfolds parameter spare
    refine ⟨backend.result_walk wellFormed.tree unfolds parameter spare, ?_, ?_, ?_⟩
    · intro id member
      have inside := order.subset (early.subset member)
      exact ⟨_, List.getElem?_eq_getElem (List.mem_range.mp inside)⟩
    · exact (order.nodup_iff.mpr List.nodup_range).sublist early.sublist
    · intro succeeded
      exact (List.Perm.of_eq (complete succeeded)).trans order

end RecordFilter
