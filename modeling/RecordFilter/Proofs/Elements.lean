import Mathlib.Data.List.Nodup
import RecordFilter.Demo
import RecordFilter.Proofs.History
import RecordFilter.Proofs.Predicate.Meaning

/-!
# Criteria on elements

A group keeps criteria on elements in entries that are found by the name of the collection
alone.  An entry keeps the collection that was passed first under its name and takes in all
criteria that were passed under this name (`Collects`).  So a criterion is tested on the
elements of the collection it was passed with if no other collection of the same name was
passed before (`elements_by_name`), and may be tested on elements of another type otherwise
(`elements_of_shared_name`).
-/

namespace RecordFilter

namespace CollectionCriteria

variable {passed : List (Collection × Criterion)}

/-- An entry made for criteria that were passed: its collection is the first that was passed
    under its name, and its criteria are all that were, in order. -/
structure Collects (passed : List (Collection × Criterion)) (entry : CollectionCriteria) :
    Prop where
  collection : (passed.find? (·.1.name = entry.collection.name)).map Prod.fst =
    some entry.collection
  criteria : entry.criteria =
    (passed.filter (·.1.name = entry.collection.name)).map Prod.snd

/-- An entry after an insertion has another name and was there before, or has the name and
    is an old entry with one more criterion or a new one. -/
theorem mem_insert {collection : Collection} {criterion : Criterion}
    {entries : List CollectionCriteria} {entry : CollectionCriteria}
    (distinct : (entries.map (·.collection.name)).Nodup)
    (member : entry ∈ insert collection criterion entries) :
    (entry ∈ entries ∧ entry.collection.name ≠ collection.name) ∨
      (∃ old ∈ entries, old.collection.name = collection.name ∧
        entry = { old with criteria := old.criteria ++ [criterion] }) ∨
      (collection.name ∉ entries.map (·.collection.name) ∧ entry = ⟨collection, [criterion]⟩) := by
  induction entries with
  | nil => exact .inr (.inr ⟨by simp, List.mem_singleton.mp member⟩)
  | cons first rest ih =>
    obtain ⟨apart, distinctRest⟩ := List.nodup_cons.mp distinct
    rw [insert] at member
    by_cases same : first.collection.name = collection.name
    · rw [if_pos same] at member
      rcases List.mem_cons.mp member with rfl | later
      · exact .inr (.inl ⟨first, List.mem_cons_self, same, rfl⟩)
      · refine .inl ⟨List.mem_cons_of_mem _ later, ?_⟩
        rw [← same]
        exact fun equal => apart (List.mem_map.mpr ⟨entry, later, equal⟩)
    · rw [if_neg same] at member
      rcases List.mem_cons.mp member with rfl | later
      · exact .inl ⟨List.mem_cons_self, same⟩
      · rcases ih distinctRest later with ⟨old, other⟩ | ⟨old, present, named, grown⟩ |
          ⟨fresh, added⟩
        · exact .inl ⟨List.mem_cons_of_mem _ old, other⟩
        · exact .inr (.inl ⟨old, List.mem_cons_of_mem _ present, named, grown⟩)
        · refine .inr (.inr ⟨?_, added⟩)
          rw [List.map_cons, List.mem_cons, not_or]
          exact ⟨Ne.symm same, fresh⟩

theorem entries_concat (last : Collection × Criterion) :
    entries (passed ++ [last]) = insert last.1 last.2 (entries passed) := by
  simp [entries]

theorem nodup_entries : ((entries passed).map (·.collection.name)).Nodup := by
  induction passed using List.reverseRecOn with
  | nil => exact List.nodup_nil
  | append_singleton passed last ih =>
    rw [entries_concat]
    exact nodup_insert ih

/-- The entries have the names under which criteria were passed. -/
theorem mem_names_entries {name : String} : name ∈ (entries passed).map (·.collection.name) ↔
    name ∈ passed.map (·.1.name) := by
  induction passed using List.reverseRecOn with
  | nil => rfl
  | append_singleton passed last ih =>
    rw [entries_concat, names_insert, List.map_append, List.mem_append, ← ih,
      List.map_singleton, List.mem_singleton]
    split
    · rename_i known
      exact ⟨.inl, fun either => either.elim id fun equal => equal ▸ known⟩
    · rw [List.mem_append, List.mem_singleton]

/-- Every entry collects what was passed under its name. -/
theorem collects_of_mem_entries {entry : CollectionCriteria} (member : entry ∈ entries passed) :
    entry.Collects passed := by
  induction passed using List.reverseRecOn generalizing entry with
  | nil => cases member
  | append_singleton passed last ih =>
    rw [entries_concat] at member
    rcases mem_insert nodup_entries member with ⟨old, other⟩ | ⟨old, present, named, rfl⟩ |
      ⟨fresh, rfl⟩
    · obtain ⟨collection, criteria⟩ := ih old
      refine ⟨?_, ?_⟩
      · rw [List.find?_append, Option.map_or, collection, Option.some_or]
      · rw [List.filter_append, List.map_append, ← criteria]
        simp [other.symm]
    · obtain ⟨collection, criteria⟩ := ih present
      refine ⟨?_, ?_⟩
      · rw [List.find?_append, Option.map_or, collection, Option.some_or]
      · rw [List.filter_append, List.map_append, ← criteria]
        simp [named]
    · rw [mem_names_entries] at fresh
      have none : ∀ other ∈ passed, other.1.name ≠ last.1.name :=
        fun other present equal => fresh (equal ▸ List.mem_map_of_mem present)
      refine ⟨?_, ?_⟩
      · rw [List.find?_append, List.find?_eq_none.mpr (by simpa using none)]
        simp
      · rw [List.filter_append, List.filter_eq_nil_iff.mpr (by simpa using none)]
        simp

/-- Collections that were passed under one name are the same. -/
def NamesIdentify (passed : List (Collection × Criterion)) : Prop :=
  ∀ left ∈ passed, ∀ right ∈ passed, left.1.name = right.1.name → left.1 = right.1

/-- Where names identify collections, an entry has the collection of each of its criteria. -/
theorem Collects.passed_of_mem {entry : CollectionCriteria} (collects : entry.Collects passed)
    (identify : NamesIdentify passed) {criterion : Criterion} :
    criterion ∈ entry.criteria ↔ (entry.collection, criterion) ∈ passed := by
  obtain ⟨first, found, collection⟩ := Option.map_eq_some_iff.mp collects.collection
  have present := List.mem_of_find?_eq_some found
  rw [collects.criteria, List.mem_map]
  constructor
  · rintro ⟨other, member, rfl⟩
    obtain ⟨otherPresent, named⟩ := List.mem_filter.mp member
    have same : other.1 = entry.collection := by
      rw [← collection]
      refine identify other otherPresent first present ?_
      rw [collection]
      exact of_decide_eq_true named
    rw [← same]
    exact otherPresent
  · intro member
    exact ⟨_, List.mem_filter.mpr ⟨member, decide_eq_true rfl⟩, rfl⟩

/-- Each criterion is in an entry of the collection it was passed with when names identify
    collections, and only then. -/
theorem namesIdentify_iff : NamesIdentify passed ↔
    ∀ pair ∈ passed, ∃ entry ∈ entries passed,
      entry.collection = pair.1 ∧ pair.2 ∈ entry.criteria := by
  constructor
  · intro identify pair present
    obtain ⟨entry, member, named⟩ :=
      List.mem_map.mp (mem_names_entries.mpr (List.mem_map_of_mem present))
    have collects := collects_of_mem_entries member
    obtain ⟨first, found, collection⟩ := Option.map_eq_some_iff.mp collects.collection
    have same : entry.collection = pair.1 := by
      rw [← collection]
      refine identify first (List.mem_of_find?_eq_some found) pair present ?_
      rw [collection, named]
    exact ⟨entry, member, same, (collects.passed_of_mem identify).mpr (same ▸ present)⟩
  · intro kept left leftPresent right rightPresent named
    obtain ⟨entry, member, collection, -⟩ := kept left leftPresent
    obtain ⟨other, otherMember, otherCollection, -⟩ := kept right rightPresent
    have equal : entry = other := by
      refine List.inj_on_of_nodup_map nodup_entries member otherMember ?_
      rw [collection, otherCollection, named]
    rw [← collection, ← otherCollection, equal]

end CollectionCriteria

/-! ## Typed steps -/

/-- What is chosen compares the property that is chosen. -/
theorem Setting.resolve_of_chosen {setting : Setting} {schema : Schema}
    {choice : PropertyChoice} {value : ValueChoice} {operator : Operator} {criterion : Criterion}
    (chosen : setting.chosen schema choice value operator = some criterion) :
    choice.resolve schema = .ok criterion.property := by
  unfold Setting.chosen at chosen
  cases resolved : choice.resolve schema with
  | error e => simp [resolved, Except.bind] at chosen
  | ok property =>
    rw [resolved, Except.bind] at chosen
    split at chosen
    · rename_i made
      rw [chosen] at made
      obtain ⟨-, -, rfl⟩ := Criterion.make_eq_some.mp made
      rfl
    · cases chosen

/-- A property that is looked up in the schema of a type is one of the type. -/
theorem RecordType.owner_of_resolve {type : RecordType} {name : String} {property : Property}
    (resolved : (PropertyChoice.named name).resolve type.schema = .ok property) :
    property.owner = type.name := by
  rw [PropertyChoice.resolve] at resolved
  split at resolved
  · rename_i found
    cases resolved
    obtain ⟨field, -, rfl⟩ := List.mem_map.mp (List.mem_of_find?_eq_some found)
    rfl
  · cases resolved

namespace Step

variable {setting : Setting}

/-- A step that compares a property of elements takes it from the type of the elements. -/
def Typed : Step → Prop
  | addElement collection element property _ _ =>
    collection.element = element.name ∧
      ∀ found, property.resolve element = .ok found → found.owner = element.name
  | _ => True

/-- Typed steps pass collections with criteria on properties of their elements. -/
theorem owner_of_mem_elements {step : Step} (typed : step.Typed) {tree : Tree}
    {pair : Collection × Criterion} (member : pair ∈ (step.additions setting tree).elements) :
    pair.2.property.owner = pair.1.element := by
  cases step with
  | addElement collection element property value operator =>
    obtain ⟨criterion, chosen, rfl⟩ := List.mem_map.mp member
    have resolved := Setting.resolve_of_chosen (Option.mem_toList.mp chosen)
    rw [typed.2 _ resolved, typed.1]
  | wireNames names =>
    rw [additions] at member
    split at member <;> cases member
  | _ => cases member

theorem owner_of_mem_additionsAt {steps : List Step} (typed : ∀ step ∈ steps, step.Typed)
    {i : Nat} {pair : Collection × Criterion}
    (member : pair ∈ ((history setting steps .start).additionsAt i).elements) :
    pair.2.property.owner = pair.1.element := by
  obtain ⟨deed, present, added⟩ := List.mem_flatMap.mp member
  obtain ⟨step, listed, b, rfl⟩ := exists_of_mem_history (List.mem_filter.mp present).1
  exact owner_of_mem_elements (typed step listed) added

end Step

/-- The predicate of an entry tests all its criteria on each element of its collection. -/
theorem Predicate.compileCollection_of_sound {group : Group} (sound : group.Sound)
    {entry : CollectionCriteria} (member : entry ∈ group.collections) (parameter : Binding) :
    ∃ condition, backend.compileCollection group.operator parameter entry =
        .ok (condition, entry.criteria.length) ∧
      ∀ record, condition.evaluate record =
        (entry.collection.items record).any fun element =>
          group.operator.holds (entry.criteria.map (·.holds element)) := by
  have answered : ∀ criterion ∈ entry.criteria,
      backend.failure? (criterion, backend.elementParameter entry.collection) = none := by
    intro criterion present
    have recorded : criterion ∈ group.recorded :=
      List.mem_append_right _ (List.mem_flatMap.mpr ⟨entry, member, present⟩)
    obtain ⟨label, compared⟩ := comparison_of_checked (sound.checked criterion recorded)
      (backend.elementParameter entry.collection)
    rw [Backend.failure?, compared, failureOf_ok]
  refine ⟨backend.elementCondition group.operator parameter entry, ?_,
    evaluate_elementCondition group.operator parameter (sound.inhabited entry member) answered⟩
  rw [backend.compileCollection_eq, outcome_eq_ok]
  refine ⟨?_, solid_backend.assembleCollection_eq answered⟩
  simpa [List.findSome?_eq_none_iff] using answered

namespace Step

/-- In a built tree an entry of a group has the collection that was passed first under its
    name, and all criteria that were passed to the group under this name; the predicate tests
    them together on the elements of that collection.  So each criterion is tested on the
    collection it was passed with when names identify the collections that were passed to the
    group, and only then.  In this case all of them compare a property of the elements, where
    the steps are typed. -/
theorem elements_by_name (setting : Setting) (steps : List Step) (i : Nat) {group : Group}
    (found : (setting.built steps).group? i = some group) :
    let passed := ((history setting steps .start).additionsAt i).elements
    (∀ pair ∈ passed, ∃ entry ∈ group.collections, entry.collection.name = pair.1.name) ∧
    (∀ entry ∈ group.collections, entry.Collects passed ∧
      ∀ parameter, ∃ condition,
        Predicate.backend.compileCollection group.operator parameter entry =
          .ok (condition, entry.criteria.length) ∧
        ∀ record, condition.evaluate record =
          (entry.collection.items record).any fun element =>
            group.operator.holds (entry.criteria.map (·.holds element))) ∧
    (CollectionCriteria.NamesIdentify passed ↔ ∀ pair ∈ passed, ∃ entry ∈ group.collections,
      entry.collection = pair.1 ∧ pair.2 ∈ entry.criteria) ∧
    (CollectionCriteria.NamesIdentify passed → (∀ step ∈ steps, step.Typed) →
      ∀ entry ∈ group.collections, ∀ criterion ∈ entry.criteria,
        criterion.property.owner = entry.collection.element) := by
  intro passed
  have sound := (setting.wellFormed_built steps).sound found
  have entries : group.collections = CollectionCriteria.entries passed :=
    ((tells_run setting steps).group found).2
  refine ⟨?_, ?_, ?_, ?_⟩
  · intro pair present
    rw [entries]
    exact List.mem_map.mp
      (CollectionCriteria.mem_names_entries.mpr (List.mem_map_of_mem present))
  · intro entry member
    exact ⟨CollectionCriteria.collects_of_mem_entries (entries ▸ member),
      Predicate.compileCollection_of_sound sound member⟩
  · rw [entries]
    exact CollectionCriteria.namesIdentify_iff
  · intro identify typed entry member criterion present
    have collects := CollectionCriteria.collects_of_mem_entries (entries ▸ member)
    exact owner_of_mem_additionsAt typed ((collects.passed_of_mem identify).mp present)

/-- Two criteria on the logins of a user stand in one entry, whatever is added between. -/
theorem elements_by_name_logins :
    let logins : Collection := ⟨"User", "Logins", "Login", Record.elements "Logins"⟩
    let compare (name value : String) : Step :=
      .addElement logins Demo.login.schema (.named name) (.given (.text value)) .equal
    let steps := [compare "LoginValue" "u3", .openGroup .or, .closeGroup,
      compare "LoginProviderName" "IS1"]
    ∃ entry, ((Demo.setting.built steps).group? 0).map (·.collections) = some [entry] ∧
      entry.collection = logins ∧ entry.criteria.length = 2 ∧
      ∀ criterion ∈ entry.criteria, criterion.property.owner = "Login" := by
  intro logins compare steps
  obtain ⟨-, -, -, owners⟩ := elements_by_name Demo.setting steps 0 rfl
  refine ⟨_, rfl, rfl, rfl, ?_⟩
  refine owners ?_ ?_ _ (List.mem_singleton.mpr rfl)
  · have same : ∀ pair ∈ ((history Demo.setting steps .start).additionsAt 0).elements,
        pair.1 = logins :=
      List.forall_mem_cons.mpr ⟨rfl, List.forall_mem_singleton.mpr rfl⟩
    intro left leftPresent right rightPresent _
    rw [same left leftPresent, same right rightPresent]
  · have typed : ∀ name value, (compare name value).Typed := by
      intro name value
      exact ⟨rfl, fun _ => RecordType.owner_of_resolve⟩
    simp only [steps, List.forall_mem_cons]
    exact ⟨typed _ _, trivial, trivial, typed _ _, by simp⟩

/-- Two typed steps pass different collections under one name.  Both succeed, and the
    criterion of the second is kept for elements of the first, whose type does not have its
    property.  So the predicate fails on a record in which each collection has an element
    that satisfies its criterion. -/
theorem elements_of_shared_name :
    let tag : RecordType := ⟨"Tag", [("Label", .text)], []⟩
    let note : RecordType := ⟨"Note", [("Body", .text)], []⟩
    let source : RecordType := ⟨"Record", [], [("Tags", "Tag"), ("Notes", "Note")]⟩
    let setting : Setting := ⟨source.schema, Demo.query.schema, Demo.query.record [] []⟩
    let tags : Collection := ⟨"Record", "Tags", "Tag", Record.elements "Tags"⟩
    let notes : Collection := ⟨"Record", "Tags", "Note", Record.elements "Notes"⟩
    let labelled : Step :=
      .addElement tags tag.schema (.named "Label") (.given (.text "a")) .equal
    let written : Step :=
      .addElement notes note.schema (.named "Body") (.given (.text "y")) .equal
    let steps := [labelled, written]
    let record := source.record [] [("Tags", [tag.record [("Label", .text "a")] []]),
      ("Notes", [note.record [("Body", .text "y")] []])]
    (∀ step ∈ steps, step.Typed) ∧
      ∃ label body entry predicate,
        (history setting steps .start).map (fun deed => (deed.additions.elements, deed.outcome)) =
          [([(tags, label)], .ok [.elementCriterionAdded 0 "Tags" "Label" .equal]),
            ([(notes, body)], .ok [.elementCriterionAdded 0 "Tags" "Body" .equal])] ∧
        ((setting.built steps).group? 0).map (·.collections) = some [entry] ∧
        entry = ⟨tags, [label, body]⟩ ∧ body.property.owner ≠ entry.collection.element ∧
        (tags.items record).any label.holds = true ∧
        (notes.items record).any body.holds = true ∧
        Predicate.backend.compile (setting.built steps) "Record" "x" = .ok predicate ∧
        predicate.isMatch record = false := by
  intro tag note source setting tags notes labelled written steps record
  refine ⟨?_, _, _, _, _, rfl, rfl, rfl, ?_, ?_, ?_, rfl, ?_⟩
  · have typed : labelled.Typed ∧ written.Typed :=
      ⟨⟨rfl, fun _ => RecordType.owner_of_resolve⟩, ⟨rfl, fun _ => RecordType.owner_of_resolve⟩⟩
    simp [steps, typed]
  · decide
  · decide +kernel
  · decide +kernel
  · decide +kernel

end Step

end RecordFilter
