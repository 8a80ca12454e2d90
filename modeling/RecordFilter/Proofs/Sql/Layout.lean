import RecordFilter.Proofs.Compilation.Gathering
import RecordFilter.Proofs.Compilation.Solid
import RecordFilter.Sql.Backend

/-!
# Layout of SQL conditions

The text of a tree is its comparisons with the words of the group operators between
them, and parentheses around every group below the root that has two members or more
(`toList_assemble`).  `laidOut` says so for lists of any kind, so that the tokens of a
tree are laid out in the same way.
-/

namespace RecordFilter

section Intercalate

variable {α : Type} {separator : List α}

theorem map_intercalate {β : Type} (f : α → β) (lists : List (List α)) :
    (separator.intercalate lists).map f =
      (separator.map f).intercalate (lists.map (List.map f)) := by
  induction lists with
  | nil => rfl
  | cons list rest ih =>
    cases rest with
    | nil => simp
    | cons second rest => simp_all [List.intercalate_cons_cons]

theorem intercalate_cons_append (first second : List α) (rest : List (List α)) :
    separator.intercalate ((first ++ separator ++ second) :: rest) =
      separator.intercalate (first :: second :: rest) := by
  cases rest <;> simp [List.intercalate_cons_cons]

theorem intercalate_append {left right : List (List α)} (first : left ≠ []) (second : right ≠ []) :
    separator.intercalate (left ++ right) =
      separator.intercalate left ++ separator ++ separator.intercalate right := by
  induction left with
  | nil => contradiction
  | cons piece rest ih =>
    by_cases last : rest = []
    · subst last
      simp [List.intercalate_cons_of_ne_nil second]
    · have more : rest ++ right ≠ [] := by simp [last]
      rw [List.cons_append, List.intercalate_cons_of_ne_nil more, ih last,
        List.intercalate_cons_of_ne_nil last]
      simp

/-- Separating pieces that are separated themselves separates all their pieces. -/
theorem intercalate_map_intercalate {lists : List (List (List α))}
    (inhabited : ∀ list ∈ lists, list ≠ []) :
    separator.intercalate (lists.map separator.intercalate) =
      separator.intercalate lists.flatten := by
  induction lists with
  | nil => rfl
  | cons list rest ih =>
    have later := ih fun other member => inhabited other (List.mem_cons_of_mem _ member)
    cases rest with
    | nil => simp
    | cons second others =>
      have here := inhabited list List.mem_cons_self
      have next := inhabited second (List.mem_cons_of_mem _ List.mem_cons_self)
      have more : (second :: others).flatten ≠ [] := by simp [next]
      rw [List.flatten_cons, intercalate_append here more, ← later, List.map_cons,
        List.intercalate_cons_of_ne_nil (by simp)]

end Intercalate

/-- The members of a group with a separator between them.  Two members or more stand
    in brackets, except at the root. -/
def laidOut {α : Type} (separator : GroupOperator → List α) (opening closing : List α)
    (group : Group) (members : List (List α)) : List α :=
  let content := (separator group.operator).intercalate members
  if group.isRoot || members.length ≤ 1 then content else opening ++ content ++ closing

namespace Sql

/-- The word between the members of a group. -/
def connective : GroupOperator → String
  | .and => "AND"
  | .or => "OR"

/-- The text between the members of a group. -/
def spaced (operator : GroupOperator) : List Char :=
  ' ' :: ((connective operator).toList ++ [' '])

namespace Config

variable (config : Config)

/-- The text of a node: its comparisons, laid out. -/
def layout (parameter : String) (node : Node) : List Char :=
  config.backend.gather (fun criterion p => (config.backend.settled criterion p).toList)
    (laidOut spaced ['('] [')']) parameter node

variable {config}

/-- The conditions of a valid configuration are not blank. -/
theorem isBlankText_of_validate (valid : config.validate = .ok ()) :
    Text.isBlankText config.alwaysTrue = false ∧ Text.isBlankText config.alwaysFalse = false := by
  unfold validate at valid
  split at valid
  · cases valid
  split at valid
  · cases valid
  · rename_i always never
    exact ⟨Bool.eq_false_iff.mpr always, Bool.eq_false_iff.mpr never⟩

/-- A text with a character that is not white space is not blank. -/
theorem isBlankText_of_mem {text : String} {c : Char} (member : c ∈ text.toList)
    (visible : Text.isBlank c = false) : Text.isBlankText text = false :=
  List.all_eq_false.mpr ⟨c, member, by simp [visible]⟩

theorem isEmpty_of_isBlankText {text : String} (visible : Text.isBlankText text = false) :
    text.isEmpty = false := by
  rw [String.isEmpty_eq_false_iff]
  rintro rfl
  cases visible

/-- A comparison that is written is not blank. -/
theorem isBlankText_comparison (valid : config.validate = .ok ()) {criterion : Criterion}
    {parameter text : String} (written : config.comparison criterion parameter = .ok text) :
    Text.isBlankText text = false := by
  cases operator : criterion.operator with
  | contains | startsWith =>
    simp only [comparison, operator] at written
    split at written
    · cases written
      exact isBlankText_of_mem (c := 'L') (by simp) (by decide)
    · cases written
  | among =>
    simp only [comparison, operator] at written
    split at written
    · cases written
      exact (isBlankText_of_validate valid).2
    · obtain ⟨literals, -, rfl⟩ := Except.map_eq_ok.mp written
      exact isBlankText_of_mem (c := 'I') (by simp) (by decide)
    · cases written
  | equal =>
    simp only [comparison, operator] at written
    obtain ⟨literal, -, rfl⟩ := Except.map_eq_ok.mp written
    exact isBlankText_of_mem (c := '=') (by simp [symbol]) (by decide)
  | lessThan | lessThanOrEqual =>
    simp only [comparison, operator] at written
    obtain ⟨literal, -, rfl⟩ := Except.map_eq_ok.mp written
    exact isBlankText_of_mem (c := '<') (by simp [symbol]) (by decide)
  | greaterThan | greaterThanOrEqual =>
    simp only [comparison, operator] at written
    obtain ⟨literal, -, rfl⟩ := Except.map_eq_ok.mp written
    exact isBlankText_of_mem (c := '>') (by simp [symbol]) (by decide)

theorem isBlankText_combine (operator : GroupOperator) (left right : String) :
    Text.isBlankText (config.backend.combine operator left right) = false := by
  cases operator with
  | and => exact isBlankText_of_mem (c := 'A') (by simp [Backend.combine, backend]) (by decide)
  | or => exact isBlankText_of_mem (c := 'O') (by simp [Backend.combine, backend]) (by decide)

/-- With conditions that are not blank no condition comes out blank. -/
theorem keeps_visible (valid : config.validate = .ok ()) :
    config.backend.Keeps fun condition => Text.isBlankText condition = false where
  comparison := isBlankText_comparison valid
  combine := fun _ _ => isBlankText_combine _ _ _
  anyElement := id
  formatGroup := by
    intro scope condition visible
    simp only [backend, formatGroup]
    split
    · exact visible
    · exact isBlankText_of_mem (c := '(') (by simp) (by decide)

/-- With conditions that are not blank no condition is empty but that of a vacuous
    group. -/
theorem solid_backend (valid : config.validate = .ok ()) : config.backend.Solid where
  identity := rfl
  comparison := fun written => isEmpty_of_isBlankText (isBlankText_comparison valid written)
  combine := fun _ _ => isEmpty_of_isBlankText (isBlankText_combine _ _ _)
  anyElement := fun nonempty => nonempty
  formatGroup := by
    intro scope condition nonempty
    simp only [backend, formatGroup]
    split
    · exact nonempty
    · exact isEmpty_of_isBlankText (isBlankText_of_mem (c := '(') (by simp) (by decide))

/-- Joined conditions stand with the word of their operator between them. -/
theorem toList_join (operator : GroupOperator) (conditions : List String) :
    (config.backend.join operator conditions).toList =
      (spaced operator).intercalate (conditions.map String.toList) := by
  have combined : ∀ left right : String,
      (config.backend.combine operator left right).toList =
        left.toList ++ spaced operator ++ right.toList := by
    intro left right
    cases operator <;> simp [Backend.combine, backend, spaced, connective]
  cases conditions with
  | nil => rfl
  | cons first rest =>
    simp only [Backend.join]
    induction rest generalizing first with
    | nil => simp
    | cons second rest ih =>
      rw [List.foldl_cons, ih, List.map_cons, combined, intercalate_cons_append, List.map_cons,
        List.map_cons]

/-- The condition of a group separates all its members, those on elements included. -/
theorem toList_join_members {parameter : String} {group : Group} {children : List Node}
    (sound : group.Sound)
    (nested : ∀ node ∈ children,
      (config.backend.assemble parameter node).toList = config.layout parameter node) :
    (config.backend.join group.operator
        (config.backend.members parameter group children)).toList =
      (spaced group.operator).intercalate (config.backend.gathered
        (fun criterion p => (config.backend.settled criterion p).toList)
        (laidOut spaced ['('] [')']) parameter group children) := by
  let leaf := fun (criterion : Criterion) p => (config.backend.settled criterion p).toList
  let element := fun entry : CollectionCriteria =>
    entry.criteria.map (leaf · (config.backend.elementParameter entry.collection))
  let single := group.criteria.map (leaf · parameter) ++
    (Node.live children).map (config.layout parameter)
  have children : (Node.live children).map
      (fun node => (config.backend.assemble parameter node).toList) =
      (Node.live children).map (config.layout parameter) :=
    List.map_congr_left fun node member => nested node (List.mem_filter.mp member).1
  have elements : ∀ entry : CollectionCriteria,
      (config.backend.elementCondition group.operator parameter entry).toList =
        (spaced group.operator).intercalate (element entry) := by
    intro entry
    rw [Backend.elementCondition]
    change (config.backend.join group.operator _).toList = _
    rw [toList_join, List.map_map]
    rfl
  have lists : ∀ list ∈ single.map (fun piece => [piece]) ++ group.collections.map element,
      list ≠ [] := by
    intro list member
    rcases List.mem_append.mp member with alone | related
    · obtain ⟨piece, -, rfl⟩ := List.mem_map.mp alone
      simp
    · obtain ⟨entry, present, rfl⟩ := List.mem_map.mp related
      simpa [element] using sound.inhabited entry present
  have flat := @intercalate_map_intercalate _ (spaced group.operator) _ lists
  rw [toList_join, Backend.members]
  simp only [List.map_append, List.map_map, Function.comp_def, children, elements]
  simp only [List.map_append, List.map_map, Function.comp_def, List.flatten_append,
    List.intercalate_singleton, List.map_id'] at flat
  rw [← List.flatMap_def, ← List.flatMap_def, List.flatMap_singleton'] at flat
  exact flat

/-- The text of a proper node is its layout. -/
theorem toList_assemble (valid : config.validate = .ok ()) {parameter : String} {node : Node} :
    node.Proper → config.backend.Answers parameter node →
      (config.backend.assemble parameter node).toList = config.layout parameter node := by
  induction node using Node.inductionOn with
  | mk group children ih =>
    intro proper answered
    have nested : ∀ node ∈ children,
        (config.backend.assemble parameter node).toList = config.layout parameter node :=
      fun node member => ih node member (Node.properAll_iff.mp proper.2.2 node member).2
        ((Backend.Solid.answers_mk.mp answered).2.1 node member)
    rw [(solid_backend valid).assemble_mk proper answered, layout, Backend.gather_mk]
    cases vacuous : (Node.mk group children).isVacuous with
    | true =>
      rw [if_pos rfl, (config.backend.gathered_eq_nil _ _).mpr vacuous]
      simp [laidOut, backend]
    | false =>
      rw [if_neg (by simp), laidOut, Backend.length_gathered,
        ← toList_join_members proper.1 nested]
      change (formatGroup _ (config.backend.join group.operator _)).toList = _
      rw [formatGroup]
      split
      · rfl
      · simp

end Config

end Sql

end RecordFilter
