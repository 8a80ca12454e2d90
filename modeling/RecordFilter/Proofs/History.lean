import Mathlib.Data.List.Induction
import RecordFilter.Proofs.Additions

/-!
# The history of a run

`Step.history` lists what was done in a run: each step with the group it acted on, what it
added there and what came of it.  A history `Tells` the building that the run comes to: the
groups are those that were opened, in order, and each holds what was added to it, in order.
-/

namespace RecordFilter

/-! ## Deeds -/

/-- The two sequences of additions to a group: its own criteria, and criteria on the
    elements of collections. -/
inductive Lane where
  | own
  | elements
  deriving DecidableEq

/-- The sequence that a step adds to. -/
def Step.lane? : Step → Option Lane
  | add .. | wire _ | wireAll | wireUnused | wireNames _ => some .own
  | addElement .. => some .elements
  | openGroup _ | closeGroup | toRoot | goTo _ | openAtRoot _ => none

/-- A step that was carried out, with the group it acted on, what it added there, and the
    events it reported or the error it failed with. -/
structure Deed where
  step : Step
  group : Nat
  additions : Additions
  outcome : Except FilterError (List Event)

/-- What a step does in a building. -/
def Step.deed (setting : Setting) (step : Step) (b : Building) : Deed where
  step := step
  group := step.target b
  additions := step.additions setting b.tree
  outcome := (step.apply setting b).map Prod.snd

/-- What was done in a run, in order. -/
abbrev History := List Deed

/-- The history of steps that are carried out one after the other. -/
def Step.history (setting : Setting) : List Step → Building → History
  | [], _ => []
  | step :: rest, b => step.deed setting b :: history setting rest (step.after setting b)

namespace History

/-- The groups that were opened: the parent and the operator of each. -/
def openings (history : History) : List (Nat × GroupOperator) :=
  history.filterMap fun deed => deed.step.opened?.map (deed.group, ·)

/-- What was added to the group at a position. -/
def additionsAt (i : Nat) (history : History) : Additions where
  own := (history.filter (·.group = i)).flatMap (·.additions.own)
  elements := (history.filter (·.group = i)).flatMap (·.additions.elements)

/-- The deeds of one lane at the group at a position. -/
def taken (lane : Lane) (i : Nat) (history : History) : History :=
  history.filter fun deed => deed.step.lane? = some lane ∧ deed.group = i

end History

namespace Step

variable {setting : Setting}

theorem run_concat (steps : List Step) (step : Step) (b : Building) :
    run setting (steps ++ [step]) b = step.after setting (run setting steps b) := by
  simp [run]

theorem history_concat (steps : List Step) (step : Step) (b : Building) :
    history setting (steps ++ [step]) b =
      history setting steps b ++ [step.deed setting (run setting steps b)] := by
  induction steps generalizing b with
  | nil => rfl
  | cons first rest ih =>
    rw [List.cons_append, history, history, ih, List.cons_append]
    rfl

/-- The history of a run lists what its steps did. -/
theorem exists_of_mem_history {steps : List Step} {b : Building} {deed : Deed}
    (member : deed ∈ history setting steps b) :
    ∃ step ∈ steps, ∃ b', deed = step.deed setting b' := by
  induction steps generalizing b with
  | nil => simp [history] at member
  | cons step rest ih =>
    rcases List.mem_cons.mp member with rfl | later
    · exact ⟨step, List.mem_cons_self, b, rfl⟩
    · obtain ⟨other, present, found⟩ := ih later
      exact ⟨other, List.mem_cons_of_mem _ present, found⟩

theorem additions_of_opened {step : Step} {operator : GroupOperator}
    (opened : step.opened? = some operator) (tree : Tree) :
    step.additions setting tree = .none := by
  cases step with
  | openGroup operator => rfl
  | openAtRoot operator => rfl
  | _ => cases opened

end Step

/-! ## Reading the tree off the history -/

/-- What is added by two additions, one after the other. -/
def Additions.append (first second : Additions) : Additions where
  own := first.own ++ second.own
  elements := first.elements ++ second.elements

theorem Additions.append_none (additions : Additions) : additions.append .none = additions := by
  simp [append, none]

/-- The entries of collections that are made for criteria on elements, one after the other. -/
def CollectionCriteria.entries (elements : List (Collection × Criterion)) :
    List CollectionCriteria :=
  elements.foldl (fun entries added => insert added.1 added.2 entries) []

theorem Group.extend_append (first second : Additions) (group : Group) :
    group.extend (first.append second) = (group.extend first).extend second := by
  simp [extend, Additions.append]

namespace History

theorem openings_concat (history : History) (deed : Deed) :
    (history ++ [deed] : History).openings =
      history.openings ++ (deed.step.opened?.map (deed.group, ·)).toList := by
  rw [openings, List.filterMap_append]
  rfl

theorem additionsAt_concat (i : Nat) (history : History) (deed : Deed) :
    (history ++ [deed] : History).additionsAt i =
      if deed.group = i then (history.additionsAt i).append deed.additions
      else history.additionsAt i := by
  by_cases here : deed.group = i
  · simp [additionsAt, Additions.append, here]
  · simp [additionsAt, here]

theorem additionsAt_of_forall_ne {i : Nat} {history : History}
    (elsewhere : ∀ deed ∈ history, deed.group ≠ i) : history.additionsAt i = .none := by
  have nothing : history.filter (·.group = i) = [] := by
    simpa [List.filter_eq_nil_iff] using elsewhere
  rw [additionsAt, nothing]
  rfl

end History

namespace Tree

/-- A tree in which groups were opened one after the other. -/
def opened (openings : List (Nat × GroupOperator)) : Tree :=
  openings.foldl (fun tree opening => tree.addGroup opening.1 opening.2) .empty

theorem opened_concat (openings : List (Nat × GroupOperator)) (opening : Nat × GroupOperator) :
    opened (openings ++ [opening]) = (opened openings).addGroup opening.1 opening.2 := by
  simp [opened]

theorem length_opened (openings : List (Nat × GroupOperator)) :
    (opened openings).groups.length = openings.length + 1 := by
  induction openings using List.reverseRecOn with
  | nil => rfl
  | append_singleton openings opening ih =>
    rw [opened_concat, length_addGroup, ih, List.length_append, List.length_singleton]

/-- Opening groups records nothing in them. -/
theorem criteria_opened {openings : List (Nat × GroupOperator)} {i : Nat} {group : Group}
    (found : (opened openings).group? i = some group) :
    group.criteria = [] ∧ group.collections = [] := by
  induction openings using List.reverseRecOn generalizing i group with
  | nil =>
    have member := List.mem_of_getElem? found
    rw [List.mem_singleton.mp member]
    exact ⟨rfl, rfl⟩
  | append_singleton openings opening ih =>
    rw [opened_concat] at found
    by_cases last : i = (opened openings).groups.length
    · rw [last, group?_addGroup_length] at found
      cases found
      exact ⟨rfl, rfl⟩
    · obtain ⟨before, foundBefore, rfl⟩ := group?_addGroup_of_ne found last
      have nothing := ih foundBefore
      split <;> exact nothing

theorem ext_group? {left right : Tree} (same : ∀ i, left.group? i = right.group? i) :
    left = right :=
  congrArg mk (List.ext_getElem? same)

end Tree

/-- A history tells a building: all groups but the root were opened, steps acted on groups
    that were there, and each group stands where it was opened and holds what was added. -/
structure History.Tells (history : History) (b : Building) : Prop where
  size : b.tree.groups.length = history.openings.length + 1
  below : ∀ deed ∈ history, deed.group < b.tree.groups.length
  groups : ∀ i, b.tree.group? i =
    ((Tree.opened history.openings).group? i).map (Group.extend (history.additionsAt i))

namespace History.Tells

variable {setting : Setting} {history : History} {b : Building}

theorem start : History.Tells [] .start := by
  refine ⟨rfl, by simp, ?_⟩
  intro i
  have nothing : Group.extend .none = id := funext Group.extend_none
  change Tree.empty.group? i = (Tree.empty.group? i).map (Group.extend .none)
  rw [nothing, Option.map_id_fun, id]

/-- A group that is opened holds nothing yet, and the link to it is kept apart from what
    its parent holds. -/
theorem groups_of_opened (tells : history.Tells b) {step : Step} {operator : GroupOperator}
    (opened : step.opened? = some operator) (i : Nat) :
    (step.after setting b).tree.group? i =
      ((Tree.opened (history.openings ++ [(step.target b, operator)])).group? i).map
        (Group.extend (history.additionsAt i)) := by
  have sizes := tells.size.trans (Tree.length_opened _).symm
  rw [Step.after_of_opened opened, Tree.opened_concat, Tree.group?_addGroup,
    Tree.group?_addGroup, ← sizes]
  by_cases last : i = b.tree.groups.length
  · -- no step can have acted on the position before a group stood there
    have fresh : history.additionsAt i = .none :=
      additionsAt_of_forall_ne fun deed member =>
        last ▸ Nat.ne_of_lt (tells.below deed member)
    rw [if_pos last, if_pos last, fresh, Option.map_some, Group.extend_none]
  · rw [if_neg last, if_neg last, Tree.group?_modify, Tree.group?_modify, tells.groups i]
    cases (Tree.opened history.openings).group? i with
    | none => rfl
    | some group =>
      by_cases parent : step.target b = i
      · simp [parent, Group.extend, Group.addChild]
      · simp [parent]

/-- What a step adds comes after what the group of the cursor held before. -/
theorem groups_of_still (tells : history.Tells b) {step : Step} (still : step.opens = false)
    (i : Nat) : (step.after setting b).tree.group? i =
      ((Tree.opened history.openings).group? i).map
        (Group.extend ((history ++ [step.deed setting b] : History).additionsAt i)) := by
  rw [Step.tree_after step b still, Tree.group?_modify, tells.groups i, additionsAt_concat]
  cases (Tree.opened history.openings).group? i with
  | none => rfl
  | some group =>
    have here : (step.deed setting b).group = b.cursor := step.target_of_not_opens still b
    by_cases cursor : b.cursor = i
    · simp only [here, cursor, if_true, Option.map_some, Group.extend_append]
      rfl
    · simp [here, cursor]

theorem step (tells : history.Tells b) (wellFormed : b.WellFormed) (step : Step) :
    History.Tells (history ++ [step.deed setting b]) (step.after setting b) := by
  have longer : (step.after setting b).tree.groups.length =
      b.tree.groups.length + if step.opens then 1 else 0 := step.length_after b
  refine ⟨?_, ?_, ?_⟩
  · rw [longer, tells.size, openings_concat, List.length_append, ← Step.opened?_isSome]
    simp only [Step.deed]
    cases step.opened? <;> simp
  · intro deed member
    rw [List.mem_append, List.mem_singleton] at member
    rw [longer]
    rcases member with earlier | rfl
    · exact Nat.lt_add_right _ (tells.below deed earlier)
    · exact Nat.lt_add_right _ (step.target_lt wellFormed)
  · intro i
    rw [openings_concat]
    simp only [Step.deed]
    cases opened : step.opened? with
    | some operator =>
      -- the link to the new group is no addition: it is part of the openings
      have nothing : (history ++ [step.deed setting b] : History).additionsAt i =
          history.additionsAt i := by
        rw [additionsAt_concat]
        simp only [Step.deed, Step.additions_of_opened opened, Additions.append_none, ite_self]
      rw [tells.groups_of_opened opened, ← nothing]
      rfl
    | none =>
      rw [tells.groups_of_still (Step.opened?_eq_none.mp opened), Option.map_none,
        Option.toList_none, List.append_nil]
      rfl

/-- What a group holds is what was added to it. -/
theorem group (tells : history.Tells b) {i : Nat} {group : Group}
    (found : b.tree.group? i = some group) :
    group.criteria = (history.additionsAt i).own ∧
      group.collections = CollectionCriteria.entries (history.additionsAt i).elements := by
  rw [tells.groups i] at found
  obtain ⟨opened, foundOpened, rfl⟩ := Option.map_eq_some_iff.mp found
  obtain ⟨noCriteria, noCollections⟩ := Tree.criteria_opened foundOpened
  simp [Group.extend, noCriteria, noCollections, CollectionCriteria.entries]

end History.Tells

namespace Step

/-- The history of a run tells the building it comes to. -/
theorem tells_run (setting : Setting) (steps : List Step) :
    (history setting steps .start).Tells (run setting steps .start) := by
  induction steps using List.reverseRecOn with
  | nil => exact History.Tells.start
  | append_singleton steps step ih =>
    rw [history_concat, run_concat]
    exact ih.step (wellFormed_run Building.wellFormed_start steps) step

end Step

end RecordFilter
