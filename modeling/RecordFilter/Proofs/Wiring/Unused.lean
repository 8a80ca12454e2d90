import RecordFilter.Proofs.Unfolding.Links
import RecordFilter.Proofs.Wiring

/-!
# Wiring what is not compared yet

A tree `Compares` the names of the properties in its groups' own criteria; these are the
names that the search from the root finds.  Steps never take a criterion away, so a tree
goes on comparing what it compares (`Step.compares_run`).  Wiring what is not compared adds
what wiring everything adds, less the criteria on names that are compared already, and
leaves nothing for a second time (`Step.wireUnused_complements`).
-/

namespace RecordFilter

/-- A group of the tree has an own criterion on a property of this name. -/
def Tree.Compares (tree : Tree) (name : String) : Prop :=
  ∃ group ∈ tree.groups, ∃ criterion ∈ group.criteria, criterion.property.name = name

instance (tree : Tree) (name : String) : Decidable (tree.Compares name) :=
  inferInstanceAs (Decidable (∃ group ∈ tree.groups, ∃ criterion ∈ group.criteria,
    criterion.property.name = name))

namespace Tree

theorem compares_of_found {tree : Tree} {i : Nat} {group : Group}
    (found : tree.group? i = some group) {criterion : Criterion}
    (own : criterion ∈ group.criteria) : tree.Compares criterion.property.name :=
  ⟨group, List.mem_of_getElem? found, criterion, own, rfl⟩

/-- A name is compared when the criteria of all groups, in any order, have it. -/
theorem compares_iff_of_perm {tree : Tree} {taken : List Group} (each : taken.Perm tree.groups)
    (name : String) :
    name ∈ (taken.flatMap Group.criteria).map (·.property.name) ↔ tree.Compares name := by
  simp only [List.mem_map, List.mem_flatMap, each.mem_iff, Compares]
  constructor
  · rintro ⟨criterion, ⟨group, member, own⟩, named⟩
    exact ⟨group, member, criterion, own, named⟩
  · rintro ⟨group, member, criterion, own, named⟩
    exact ⟨criterion, ⟨group, member, own⟩, named⟩

theorem WellFormed.mem_referenced_iff {tree : Tree} (wellFormed : tree.WellFormed)
    (name : String) : name ∈ tree.referenced ↔ tree.Compares name := by
  rw [← (wellFormed.perm_referenced (.refl _)).mem_iff]
  exact compares_iff_of_perm (.refl _) name

end Tree

/-! ## What a tree compares stays compared -/

namespace Step

variable {setting : Setting}

/-- No step takes an own criterion from a group. -/
theorem criteria_subset_after (step : Step) (b : Building) {i : Nat} {group : Group}
    (found : b.tree.group? i = some group) :
    ∃ after, (step.after setting b).tree.group? i = some after ∧
      group.criteria ⊆ after.criteria := by
  cases opened : step.opened? with
  | some operator =>
    rw [after_of_opened opened, Tree.group?_addGroup_of_found found]
    refine ⟨_, rfl, ?_⟩
    split <;> exact List.Subset.refl _
  | none =>
    rw [tree_after step b (opened?_eq_none.mp opened), Tree.group?_modify, found]
    refine ⟨_, rfl, ?_⟩
    split
    · exact List.subset_append_left _ _
    · exact List.Subset.refl _

theorem compares_after (step : Step) {b : Building} {name : String}
    (compared : b.tree.Compares name) : (step.after setting b).tree.Compares name := by
  obtain ⟨group, member, criterion, own, rfl⟩ := compared
  obtain ⟨i, found⟩ := List.mem_iff_getElem?.mp member
  obtain ⟨after, foundAfter, kept⟩ := step.criteria_subset_after b found
  exact Tree.compares_of_found foundAfter (kept own)

theorem compares_run (steps : List Step) {b : Building} {name : String}
    (compared : b.tree.Compares name) : (run setting steps b).tree.Compares name := by
  induction steps generalizing b with
  | nil => exact compared
  | cons step rest ih => exact ih (compares_after step compared)

end Step

/-! ## What is left to wire -/

namespace Setting

variable {setting : Setting}

/-- A criterion that is wired compares one of the listed properties. -/
theorem wired_filter (keeps : String → Bool) (properties : List Property) :
    setting.wired (properties.filter fun property => keeps property.name) =
      (setting.wired properties).filter fun criterion => keeps criterion.property.name := by
  induction properties with
  | nil => rfl
  | cons property rest ih =>
    by_cases wires : ∃ criterion, setting.Wires property criterion
    · obtain ⟨criterion, wires⟩ := wires
      rw [wired_cons_of_wires wires, List.filter_cons, List.filter_cons, wires.compares]
      split
      · rw [wired_cons_of_wires wires, ih]
      · exact ih
    · rw [not_exists] at wires
      rw [wired_cons_of_not wires, List.filter_cons]
      split
      · rw [wired_cons_of_not wires, ih]
      · exact ih

theorem wired_unused {tree : Tree} (wellFormed : tree.WellFormed) :
    setting.wired (setting.unused tree) = (setting.wired setting.source.properties).filter
      fun criterion => ¬tree.Compares criterion.property.name := by
  have names : (fun property : Property => !tree.referenced.contains property.name) =
      fun property => decide (¬tree.Compares property.name) := by
    funext property
    have listed := wellFormed.mem_referenced_iff property.name
    simp [← listed]
  rw [unused, names]
  exact wired_filter (fun name => decide (¬tree.Compares name)) _

/-- Wiring what is unused leaves nothing to wire: what the source calls for is compared. -/
theorem compares_of_wired {b : Building} (wellFormed : b.WellFormed) {criterion : Criterion}
    (wired : criterion ∈ setting.wired setting.source.properties) :
    (Step.wireUnused.after setting b).tree.Compares criterion.property.name := by
  by_cases compared : b.tree.Compares criterion.property.name
  · exact Step.compares_after .wireUnused compared
  · obtain ⟨-, ⟨group, -, grown⟩, -⟩ :=
      Building.appends_wire wellFormed (setting.unused b.tree)
    refine Tree.compares_of_found grown ?_
    rw [wired_unused wellFormed.tree, List.mem_append, List.mem_filter]
    exact .inr ⟨wired, by simpa using compared⟩

end Setting

namespace Step

/-- In every reachable state the search from the root finds the names that the groups' own
    criteria compare.  Wiring what is unused adds what wiring everything would add, less the
    criteria on these names.  After it, and after any steps that follow it, wiring what is
    unused changes nothing. -/
theorem wireUnused_complements (setting : Setting) (steps : List Step) :
    let b := run setting steps .start
    (∀ name, name ∈ b.tree.referenced ↔ b.tree.Compares name) ∧
    (∃ taken, b.tree.drain b.tree.groups.length [0] = some taken ∧
      ∀ name, name ∈ (taken.flatMap Group.criteria).map (·.property.name) ↔
        b.tree.Compares name) ∧
    (∃ all everything unused, (∃ new, wireAll.apply setting b = .ok (everything, new)) ∧
      (∃ new, wireUnused.apply setting b = .ok (unused, new)) ∧ b.Appends all everything ∧
      b.Appends (all.filter fun criterion => ¬b.tree.Compares criterion.property.name) unused) ∧
    ∀ later, let b' := run setting later (wireUnused.after setting b)
      ∃ new, wireUnused.apply setting b' = .ok (b', new) := by
  intro b
  have wellFormed : b.WellFormed := wellFormed_run Building.wellFormed_start steps
  refine ⟨wellFormed.tree.mem_referenced_iff, ?walk, ?complement, ?again⟩
  case walk =>
    obtain ⟨taken, drained, each⟩ := wellFormed.tree.drain_root (Nat.le_refl _)
    exact ⟨taken, drained, Tree.compares_iff_of_perm each⟩
  case complement =>
    refine ⟨setting.wired setting.source.properties, _, _, ⟨_, rfl⟩, ⟨_, rfl⟩,
      Building.appends_wire wellFormed _, ?_⟩
    rw [← Setting.wired_unused wellFormed.tree]
    exact Building.appends_wire wellFormed _
  case again =>
    intro later b'
    have wellFormed' : b'.WellFormed := wellFormed_run (wellFormed_after wellFormed _) later
    have nothing : setting.wired (setting.unused b'.tree) = [] := by
      rw [Setting.wired_unused wellFormed'.tree, List.filter_eq_nil_iff]
      intro criterion wired
      have compared : b'.tree.Compares criterion.property.name :=
        compares_run later (Setting.compares_of_wired wellFormed wired)
      simpa using compared
    have same : b'.change (Group.extend ⟨[], []⟩) = b' :=
      congrArg (Building.mk · _) (Tree.modify_extend_none _ _)
    refine ⟨(setting.wire b' (setting.unused b'.tree)).2, ?_⟩
    rw [apply, Setting.wire_eq, nothing, same]

end Step

end RecordFilter
