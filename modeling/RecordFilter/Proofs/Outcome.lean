import Mathlib.Data.List.Forall2
import Mathlib.Data.List.Nodup

/-!
# Outcomes of computations that may fail

A computation in `Except` is described by its failure, if any, and the value it has
otherwise.  `outcome` puts the two together, and a chain of computations fails with
the first failure along the chain.
-/

namespace RecordFilter

variable {ε α β : Type}

theorem Except.bind_eq_ok {x : Except ε α} {f : α → Except ε β} {b : β} :
    x.bind f = .ok b ↔ ∃ a, x = .ok a ∧ f a = .ok b := by
  cases x with
  | error e => simp [Except.bind]
  | ok a => simp [Except.bind]

theorem Except.bind_eq_error {x : Except ε α} {f : α → Except ε β} {e : ε} :
    x.bind f = .error e ↔ x = .error e ∨ ∃ a, x = .ok a ∧ f a = .error e := by
  cases x with
  | error e' => simp [Except.bind]
  | ok a => simp [Except.bind]

theorem Except.map_eq_ok {x : Except ε α} {f : α → β} {b : β} :
    x.map f = .ok b ↔ ∃ a, x = .ok a ∧ f a = b := by
  cases x with
  | error e => simp [Except.map]
  | ok a => simp [Except.map]

theorem Except.map_eq_error {x : Except ε α} {f : α → β} {e : ε} :
    x.map f = .error e ↔ x = .error e := by
  cases x with
  | error e' => simp [Except.map]
  | ok a => simp [Except.map]

theorem Except.mapError_eq_ok {ε' : Type} {x : Except ε α} {f : ε → ε'} {a : α} :
    x.mapError f = .ok a ↔ x = .ok a := by
  cases x with
  | error e => simp [Except.mapError]
  | ok b => simp [Except.mapError]

theorem Except.mapError_eq_error {ε' : Type} {x : Except ε α} {f : ε → ε'} {e : ε'} :
    x.mapError f = .error e ↔ ∃ cause, x = .error cause ∧ f cause = e := by
  cases x with
  | error e' => simp [Except.mapError]
  | ok a => simp [Except.mapError]

/-- The result with this failure, or with this value when there is none. -/
def outcome (failure : Option ε) (value : α) : Except ε α :=
  match failure with
  | some e => .error e
  | none => .ok value

@[simp]
theorem outcome_none (value : α) : outcome (none : Option ε) value = .ok value := rfl

@[simp]
theorem outcome_some (e : ε) (value : α) : outcome (some e) value = .error e := rfl

theorem outcome_eq_error {failure : Option ε} {value : α} {e : ε} :
    outcome failure value = .error e ↔ failure = some e := by
  cases failure <;> simp

theorem outcome_eq_ok {failure : Option ε} {value a : α} :
    outcome failure value = .ok a ↔ failure = none ∧ value = a := by
  cases failure <;> simp

/-- The error of a result that is one. -/
def failureOf : Except ε α → Option ε
  | .error e => some e
  | .ok _ => none

@[simp]
theorem failureOf_ok (a : α) : failureOf (.ok a : Except ε α) = none := rfl

@[simp]
theorem failureOf_error (e : ε) : failureOf (.error e : Except ε α) = some e := rfl

theorem failureOf_eq_some {x : Except ε α} {e : ε} : failureOf x = some e ↔ x = .error e := by
  cases x <;> simp

@[simp]
theorem failureOf_map (x : Except ε α) (f : α → β) : failureOf (x.map f) = failureOf x := by
  cases x <;> rfl

@[simp]
theorem failureOf_mapError {ε' : Type} (x : Except ε α) (f : ε → ε') :
    failureOf (x.mapError f) = (failureOf x).map f := by
  cases x <;> rfl

@[simp]
theorem map_outcome (failure : Option ε) (value : α) (f : α → β) :
    (outcome failure value).map f = outcome failure (f value) := by
  cases failure <;> rfl

/-- Of two computations one after the other the first failure counts. -/
theorem bind_outcome {failure later : Option ε} {value : α} {result : β} {next : α → Except ε β}
    (continues : next value = outcome later result) :
    (outcome failure value).bind next = outcome (failure.or later) result := by
  cases failure with
  | some e => rfl
  | none => exact continues

/-- A loop whose rounds fail whatever went before fails with the first failure. -/
theorem foldlM_outcome {round : β → α → Except ε β} {failure : α → Option ε} {after : β → α → β}
    (each : ∀ state item, round state item = outcome (failure item) (after state item))
    (items : List α) (start : β) :
    items.foldlM round start = outcome (items.findSome? failure) (items.foldl after start) := by
  induction items generalizing start with
  | nil => rfl
  | cons item rest ih =>
    rw [List.foldlM_cons, each, List.findSome?_cons]
    cases failure item with
    | some e => rfl
    | none => exact ih (after start item)

/-- Of a list of computations the first failure counts. -/
theorem mapM_outcome {f : α → Except ε β} {failure : α → Option ε} {value : α → β}
    (items : List α) (each : ∀ item ∈ items, f item = outcome (failure item) (value item)) :
    items.mapM f = outcome (items.findSome? failure) (items.map value) := by
  induction items with
  | nil => rfl
  | cons item rest ih =>
    have later := ih fun other member => each other (List.mem_cons_of_mem _ member)
    rw [List.mapM_cons, each item List.mem_cons_self, later, List.findSome?_cons]
    cases failure item with
    | some e => rfl
    | none =>
      cases rest.findSome? failure with
      | some e => rfl
      | none => rfl

/-- A list of computations succeeds when each of them does. -/
theorem forall₂_of_mapM {f : α → Except ε β} {items : List α} {results : List β}
    (succeeded : items.mapM f = .ok results) :
    List.Forall₂ (fun item result => f item = .ok result) items results := by
  induction items generalizing results with
  | nil =>
    cases succeeded
    exact .nil
  | cons item rest ih =>
    rw [List.mapM_cons] at succeeded
    obtain ⟨first, firstDone, later⟩ := Except.bind_eq_ok.mp succeeded
    obtain ⟨others, othersDone, same⟩ := Except.bind_eq_ok.mp later
    cases same
    exact .cons firstDone (ih othersDone)

/-- A list of computations fails with the first failure. -/
theorem failureOf_mapM (f : α → Except ε β) (items : List α) :
    failureOf (items.mapM f) = items.findSome? fun item => failureOf (f item) := by
  induction items with
  | nil => rfl
  | cons item rest ih =>
    rw [List.mapM_cons, List.findSome?_cons, ← ih]
    cases f item with
    | error e => rfl
    | ok b =>
      cases rest.mapM f with
      | error e => rfl
      | ok bs => rfl

theorem exists_of_mapM {f : α → Except ε β} {items : List α} {results : List β}
    (succeeded : items.mapM f = .ok results) : ∀ item ∈ items, ∃ result, f item = .ok result := by
  have failures := failureOf_mapM f items
  rw [succeeded, failureOf_ok, eq_comm, List.findSome?_eq_none_iff] at failures
  intro item member
  have none := failures item member
  cases done : f item with
  | ok result => exact ⟨result, rfl⟩
  | error e =>
    rw [done] at none
    cases none

/-- The first result within several lists is that of the first list with one. -/
theorem findSome?_flatMap {γ : Type} (lists : α → List β) (test : β → Option γ)
    (items : List α) :
    (items.flatMap lists).findSome? test =
      items.findSome? fun item => (lists item).findSome? test := by
  induction items with
  | nil => rfl
  | cons item rest ih =>
    rw [List.flatMap_cons, List.findSome?_append, List.findSome?_cons, ih]
    cases (lists item).findSome? test <;> rfl

/-- With distinct keys an item is the only one with its key. -/
theorem filter_of_nodup [BEq β] [LawfulBEq β] {key : α → β} {items : List α}
    (distinct : (items.map key).Nodup) {item : α} (member : item ∈ items) :
    items.filter (key · == key item) = [item] := by
  induction items with
  | nil => cases member
  | cons first rest ih =>
    obtain ⟨apart, distinct⟩ := List.nodup_cons.mp distinct
    rcases List.mem_cons.mp member with rfl | later
    · have others : rest.filter (key · == key item) = [] := by
        rw [List.filter_eq_nil_iff]
        intro other present same
        exact apart (eq_of_beq same ▸ List.mem_map_of_mem present)
      rw [List.filter_cons, if_pos (beq_self_eq_true _), others]
    · have other : ¬(key first == key item) = true := by
        intro same
        exact apart (eq_of_beq same ▸ List.mem_map_of_mem later)
      rw [List.filter_cons, if_neg other, ih distinct later]

/-- With distinct keys an item is found by its key. -/
theorem find?_of_nodup [BEq β] [LawfulBEq β] {key : α → β} {items : List α}
    (distinct : (items.map key).Nodup) {item : α} (member : item ∈ items) :
    items.find? (key · == key item) = some item := by
  rw [← List.head?_filter, filter_of_nodup distinct member, List.head?_cons]

/-- A list is mapped when each of its items is. -/
theorem mapM_eq_some_map {f : α → Option β} {g : α → β} {items : List α}
    (each : ∀ item ∈ items, f item = some (g item)) : items.mapM f = some (items.map g) := by
  induction items with
  | nil => rfl
  | cons item rest ih =>
    have later := ih fun other member => each other (List.mem_cons_of_mem _ member)
    rw [List.mapM_cons, each item List.mem_cons_self, later]
    rfl

end RecordFilter
